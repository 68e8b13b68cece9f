import Vibeshine.SessionHistory.Upgrade

/-! # The migration is taken up where it was left

The steps are put together by what each of them needs and leaves; at every statement between
them the database is one from which the migration can start again.
-/

namespace Vibeshine.SessionHistory

open Library Program

variable {V : Type} {literals : Literals V} {history : History V} {db : Database V}

/-! ## Rules -/

/-- From a database with `pre` the steps succeed and leave one with `post`; wherever they are
interrupted, the migration can be taken up. -/
def Upgrades (literals : Literals V) (history : History V) (pre : Database V → Prop)
    (steps : Migration V Bool) (post : Database V → Prop) : Prop :=
  ∀ db, pre db → steps.Ensures (Database.Executes literals) db (Restartable history)
    fun ok after => ok = true ∧ post after

lemma ensures_ask {α : Type} {statement : Statement V}
    {next : statement.Reply → Migration V α} {crash : Database V → Prop}
    {post : α → Database V → Prop} (hcrash : crash db)
    (h : (next (db.execute literals statement).1).Ensures (Database.Executes literals)
      (db.execute literals statement).2 crash post) :
    (Program.ask statement next : Migration V α).Ensures (Database.Executes literals) db crash
      post := by
  refine .ask hcrash fun reply served hserve => ?_
  have hresult : db.execute literals statement = (reply, served) := hserve
  rw [hresult] at h
  exact h

section

variable {pre mid post : Database V → Prop} {step : Migration V Bool}
  {steps : List (Migration V Bool)}

lemma Upgrades.nil (h : ∀ db, pre db → Restartable history db) :
    Upgrades literals history pre (allOf []) pre :=
  fun db hpre => .done (h db hpre) ⟨rfl, hpre⟩

lemma Upgrades.cons (h : Upgrades literals history pre step mid)
    (hrest : Upgrades literals history mid (allOf steps) post) :
    Upgrades literals history pre (allOf (step :: steps)) post := by
  intro db hpre
  unfold allOf
  refine .bind ((h db hpre).mono (fun _ h => h) fun ok after _ hmid => ?_)
  obtain ⟨rfl, hmid⟩ := hmid
  exact hrest after hmid

lemma Upgrades.mono {pre' post' : Database V → Prop}
    (h : Upgrades literals history pre step post) (hpre : ∀ db, pre' db → pre db)
    (hpost : ∀ db, post db → post' db) : Upgrades literals history pre' step post' :=
  fun db hdb => (h db (hpre db hdb)).mono (fun _ h => h) fun _ after _ hafter =>
    ⟨hafter.1, hpost after hafter.2⟩

lemma Upgrades.last (h : Upgrades literals history pre step post)
    (hpost : ∀ db, post db → Restartable history db) :
    Upgrades literals history pre (allOf [step]) post :=
  h.cons (.nil hpost)

lemma Upgrades.when {condition : Bool}
    (h : condition = true → Upgrades literals history pre step post)
    (hskip : condition = false → ∀ db, pre db → Restartable history db ∧ post db) :
    Upgrades literals history pre (SessionHistory.when condition step) post := by
  cases condition with
  | true => exact h rfl
  | false => exact fun db hpre => .done (hskip rfl db hpre).1 ⟨rfl, (hskip rfl db hpre).2⟩

end

lemma alter_some {table : String} {found changed : Table V}
    {change : Table V → Option (Table V)} (hfound : db.tables table = some found)
    (hchange : change found = some changed) :
    db.alter table change = (true, db.set table (some changed)) := by
  unfold Database.alter
  rw [hfound, Option.bind_some, hchange]

lemma Has.set {table column name : String} {value : Table V} (h : Has db table column)
    (hsame : table = name → column ∈ value.columns) : Has (db.set name (some value)) table column := by
  obtain ⟨found, hfound, hcolumn⟩ := h
  by_cases hname : table = name
  · exact ⟨value, by rw [hname, Database.set_self], hsame hname⟩
  · exact ⟨found, by rw [Database.set_of_ne _ hname, hfound], hcolumn⟩

lemma Quiet.set (h : Quiet db) {name : String} {value : Option (Table V)}
    (hname : ∀ kind : Child, kind.legacy ≠ name) : Quiet (db.set name value) := by
  intro kind
  rw [Database.set_of_ne _ (hname kind)]
  exact h kind

lemma Carried.set_sessions (h : Carried history db) {value : Table V}
    (hvalue : SessionsCarried history value) : Carried history (db.set sessionsTable (some value)) where
  quiet := h.quiet.set legacy_ne_sessions
  sessions := ⟨value, Database.set_self _ _ _, hvalue⟩
  child kind := by
    rw [Database.set_of_ne _ (child_ne_sessions kind)]
    exact h.child kind
  version := h.version

lemma Carried.set_child (h : Carried history db) {kind : Child} {value : Table V}
    (hvalue : ChildCarried history kind value) :
    Carried history (db.set kind.table (some value)) where
  quiet := h.quiet.set fun other => legacy_ne_table other kind
  sessions := by
    rw [Database.set_of_ne _ (child_ne_sessions kind).symm]
    exact h.sessions
  child other := by
    by_cases heq : other = kind
    · subst heq
      exact ⟨value, Database.set_self _ _ _, hvalue⟩
    · rw [Database.set_of_ne _ fun htable => heq (table_injective htable)]
      exact h.child other
  version := h.version

/-! ## Stages -/

/-- A history that is being carried over, and has the listed columns. -/
structure Stage (history : History V) (columns : List (String × String)) (requested : Bool)
    (db : Database V) : Prop extends Carried history db where
  has : ∀ entry ∈ columns, Has db entry.1 entry.2
  asked : requested = true → Has db sessionsTable "target_requested_bitrate_kbps" ∨
    Has db sessionsTable "requested_bitrate_kbps"

variable {columns : List (String × String)} {requested : Bool}

lemma Stage.restartable (h : Stage history columns requested db) : Restartable history db :=
  h.toCarried.restartable

def Addable (table column : String) : Prop :=
  table = sessionsTable ∧ column ≠ "encoder_bitrate_kbps" ∧ column ≠ "requested_bitrate_kbps" ∨
    ∃ kind : Child, table = kind.table ∧ column ∈ kind.columns

lemma Carried.exists_table (h : Carried history db) {table column : String}
    (hadd : Addable table column) : ∃ found, db.tables table = some found := by
  obtain ⟨rfl, -, -⟩ | ⟨kind, rfl, -⟩ := hadd
  · exact h.sessions.imp fun _ => And.left
  · exact (h.child kind).imp fun _ => And.left

lemma Carried.addColumn (h : Carried history db) {table column : String} {found : Table V}
    (hadd : Addable table column) (hfound : db.tables table = some found)
    (hnew : column ∉ found.columns) (default : V) : Carried history (db.set table (some { found with
      columns := found.columns ++ [column]
      rows := found.rows.map fun row => Function.update row column default })) := by
  obtain ⟨rfl, hencoder, hrequested⟩ | ⟨kind, rfl, hcolumn⟩ := hadd
  · obtain ⟨other, hother, hcarried⟩ := h.sessions
    obtain rfl := Option.some.inj (hfound.symm.trans hother)
    exact h.set_sessions (hcarried.addColumn hencoder hrequested hnew default)
  · obtain ⟨other, hother, hcarried⟩ := h.child kind
    obtain rfl := Option.some.inj (hfound.symm.trans hother)
    exact h.set_child (hcarried.addColumn hcolumn hnew default)

lemma upgrades_addColumn {table column : String} (hadd : Addable table column) (default : V) :
    Upgrades literals history (Stage history columns requested) (addColumn table column default)
      (Stage history ((table, column) :: columns) requested) := by
  intro db h
  obtain ⟨found, hfound⟩ := h.exists_table hadd
  refine ensures_ask h.restartable ?_
  change (if column ∈ ((db.tables table).map Table.columns).getD [] then pure true
    else query (.addColumn table column default) : Migration V Bool).Ensures _ db _ _
  rw [hfound, Option.map_some, Option.getD_some]
  by_cases hthere : column ∈ found.columns
  · rw [if_pos hthere]
    refine .done h.restartable ⟨rfl, { h with has := ?_ }⟩
    intro entry hentry
    obtain rfl | hentry := List.mem_cons.mp hentry
    · exact ⟨found, hfound, hthere⟩
    · exact h.has entry hentry
  · rw [if_neg hthere]
    have halter : db.execute literals (.addColumn table column default) =
        (true, db.set table (some { found with
          columns := found.columns ++ [column]
          rows := found.rows.map fun row => Function.update row column default })) :=
      alter_some hfound (if_neg hthere)
    have hcarried := h.addColumn hadd hfound hthere default
    have hkeeps : ∀ {name old}, Has db name old → Has (db.set table (some { found with
        columns := found.columns ++ [column]
        rows := found.rows.map fun row => Function.update row column default })) name old := by
      intro name old hhas
      refine hhas.set fun hname => List.mem_append_left _ ?_
      obtain ⟨other, hother, hcolumn⟩ := hhas
      rw [hname] at hother
      exact Option.some.inj (hfound.symm.trans hother) ▸ hcolumn
    refine ensures_ask h.restartable ?_
    rw [halter]
    refine .done hcarried.restartable ⟨rfl, { hcarried with has := ?_, asked := ?_ }⟩
    · intro entry hentry
      obtain rfl | hentry := List.mem_cons.mp hentry
      · exact ⟨_, Database.set_self _ _ _, List.mem_append_right _ List.mem_cons_self⟩
      · exact hkeeps (h.has entry hentry)
    · exact fun hrequested => (h.asked hrequested).imp hkeeps hkeeps

lemma upgrades_addColumns {table : String} {added : List String}
    (hadd : ∀ column ∈ added, Addable table column) (default : V) :
    Upgrades literals history (Stage history columns requested)
      (allOf (added.map fun column => addColumn table column default))
      (Stage history (added.reverse.map (table, ·) ++ columns) requested) := by
  induction added generalizing columns with
  | nil => exact .nil fun _ h => h.restartable
  | cons column added ih =>
    have hrest : Upgrades literals history (Stage history ((table, column) :: columns) requested)
        _ _ := ih fun c hc => hadd c (List.mem_cons_of_mem _ hc)
    refine (upgrades_addColumn (hadd column List.mem_cons_self) default).cons ?_
    simpa using hrest

lemma upgrades_renameColumn {old new : String} (hrenames : Renames old new)
    (hbitrate : old = "target_bitrate_kbps" ∧ new = "encoder_bitrate_kbps" ∨
      old = "target_requested_bitrate_kbps" ∧ new = "requested_bitrate_kbps")
    (hone : ∀ db, Stage history columns requested db → Has db sessionsTable old ∨
      Has db sessionsTable new) (hcolumns : (sessionsTable, old) ∉ columns) :
    Upgrades literals history (Stage history columns requested) (renameColumn sessionsTable old new)
      (Stage history ((sessionsTable, new) :: columns) requested) := by
  intro db h
  obtain ⟨found, hfound, hcarried⟩ := h.sessions
  have hmem : ∀ {column}, Has db sessionsTable column → column ∈ found.columns := by
    rintro column ⟨other, hother, hcolumn⟩
    exact Option.some.inj (hfound.symm.trans hother) ▸ hcolumn
  refine ensures_ask h.restartable ?_
  change (if old ∉ ((db.tables sessionsTable).map Table.columns).getD [] ∨
      new ∈ ((db.tables sessionsTable).map Table.columns).getD [] then pure true
    else query (.renameColumn sessionsTable old new) : Migration V Bool).Ensures _ db _ _
  rw [hfound, Option.map_some, Option.getD_some]
  by_cases hskip : old ∉ found.columns ∨ new ∈ found.columns
  · rw [if_pos hskip]
    have hnew : new ∈ found.columns := by
      obtain hold | hnew := hskip
      · exact hmem ((hone db h).resolve_left fun hhas => hold (hmem hhas))
      · exact hnew
    refine .done h.restartable ⟨rfl, { h with has := ?_ }⟩
    intro entry hentry
    obtain rfl | hentry := List.mem_cons.mp hentry
    · exact ⟨found, hfound, hnew⟩
    · exact h.has entry hentry
  · rw [if_neg hskip]
    obtain ⟨hold, hnew⟩ := not_or.mp hskip
    rw [not_not] at hold
    have halter : db.execute literals (.renameColumn sessionsTable old new) =
        (true, db.set sessionsTable (some { found with
          columns := found.columns.map fun column => if column = old then new else column
          rows := found.rows.map fun row => Function.update row new (row old) })) :=
      alter_some hfound (if_pos ⟨hold, hnew⟩)
    have hafter := h.set_sessions (hcarried.renameColumn hrenames hold hnew hbitrate)
    have hkeeps : ∀ {name column}, Has db name column → (name = sessionsTable → column ≠ old) →
        Has (db.set sessionsTable (some { found with
          columns := found.columns.map fun column => if column = old then new else column
          rows := found.rows.map fun row => Function.update row new (row old) })) name column := by
      intro name column hhas hne
      refine hhas.set fun hname => ?_
      rw [hname] at hhas
      exact mem_renameColumn (hmem hhas) (hne hname)
    have hgiven : Has (db.set sessionsTable (some { found with
        columns := found.columns.map fun column => if column = old then new else column
        rows := found.rows.map fun row => Function.update row new (row old) })) sessionsTable new :=
      ⟨_, Database.set_self _ _ _, List.mem_map.mpr ⟨old, hold, if_pos rfl⟩⟩
    refine ensures_ask h.restartable ?_
    rw [halter]
    refine .done hafter.restartable ⟨rfl, { hafter with has := ?_, asked := ?_ }⟩
    · intro entry hentry
      obtain rfl | hentry := List.mem_cons.mp hentry
      · exact hgiven
      · refine hkeeps (h.has entry hentry) fun hname heq => hcolumns ?_
        rw [← hname, ← heq]
        exact hentry
    · intro hrequested
      obtain ⟨rfl, rfl⟩ | ⟨rfl, rfl⟩ := hbitrate
      · exact (h.asked hrequested).imp (hkeeps · fun _ => by decide) (hkeeps · fun _ => by decide)
      · exact .inr hgiven

end Vibeshine.SessionHistory
