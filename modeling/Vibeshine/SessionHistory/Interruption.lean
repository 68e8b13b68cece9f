import Vibeshine.SessionHistory.Restart

/-! # Interrupted migrations

A child table is rebuilt under a legacy name, which the next start takes for an error. Stopped
anywhere but there, as often as may be, the migration ends with the present schema and with
every row and value of the history.
-/

namespace Vibeshine.SessionHistory

open Library Program

variable {V : Type} {literals : Literals V} {history : History V} {db : Database V}

lemma upgrades_ask {statement : Statement V} {next : statement.Reply → Migration V Bool}
    {after : Database V} {reply : statement.Reply}
    (hexecute : db.execute literals statement = (reply, after)) (hnext : next reply = .done true)
    (hbefore : Restartable history db) (hafter : Restartable history after) :
    Upgrades literals history (· = db) (Program.ask statement next) (· = after) := by
  rintro _ rfl
  apply ensures_ask hbefore
  rw [hexecute, hnext]
  exact .done hafter ⟨rfl, rfl⟩

lemma upgrades_pragma (h : Restartable history db) (text : String) :
    Upgrades literals history (· = db) (query (.pragma text)) (· = db) :=
  upgrades_ask rfl rfl h h

lemma upgrades_createTableIfNotExists {table : String} {found : Table V}
    (h : Restartable history db) (hfound : db.tables table = some found) (columns : List String)
    (cascade : Bool) :
    Upgrades literals history (· = db) (query (.createTableIfNotExists table columns cascade))
      (· = db) :=
  upgrades_ask (Database.execute_createTableIfNotExists hfound) rfl h h

lemma upgrades_createIndex {table : String} {columns : List String} (h : Restartable history db)
    (hne : ∃ found, db.tables table = some found ∧ ∀ c ∈ columns, c ∈ found.columns) :
    Upgrades literals history (· = db) (query (.createIndex table columns)) (· = db) := by
  obtain ⟨found, hfound, hcolumns⟩ := hne
  exact upgrades_ask (Database.execute_createIndex hfound hcolumns) rfl h h

lemma Tables.index (h : Tables history db) (kind : Child) {columns : List String}
    (hcolumns : ∀ c ∈ columns, c ∈ kind.columns ∧ introduced c = 1) :
    ∃ found, db.tables kind.table = some found ∧ ∀ c ∈ columns, c ∈ found.columns := by
  obtain ⟨found, hfound, hcarried⟩ := h.child kind
  refine ⟨found, hfound, fun c hc => ?_⟩
  obtain ⟨hmem, hone⟩ := hcolumns c hc
  exact hcarried.has c hmem (hone ▸ history.version_pos)

lemma upgrades_schemaSql (h : Tables history db) (hrestart : Restartable history db) :
    Upgrades literals history (· = db) schemaSql (· = db) := by
  obtain ⟨sessions, hsess, hcarried⟩ := h.sessions
  have hchild : ∀ kind : Child, ∃ found, db.tables kind.table = some found :=
    fun kind => (h.child kind).imp fun _ => And.left
  obtain ⟨samples, hsamples⟩ := hchild .samples
  obtain ⟨events, hevents⟩ := hchild .events
  have hindex : ∀ (kind : Child) (columns : List String),
      (∀ c ∈ columns, c ∈ kind.columns ∧ introduced c = 1) →
        Upgrades literals history (· = db) (query (.createIndex kind.table columns)) (· = db) :=
    fun kind columns hcolumns => upgrades_createIndex hrestart (h.index kind hcolumns)
  have hend : ∃ found, db.tables "sessions" = some found ∧ ∀ c ∈ ["end_time_unix"],
      c ∈ found.columns := by
    refine ⟨sessions, hsess, fun c hc => ?_⟩
    rw [List.mem_singleton.mp hc]
    exact hcarried.has _ (by decide) ((by decide : introduced "end_time_unix" = 1) ▸
      history.version_pos)
  apply (upgrades_pragma hrestart _).cons
  apply (upgrades_pragma hrestart _).cons
  apply (upgrades_createTableIfNotExists hrestart hsess _ _).cons
  apply (upgrades_createTableIfNotExists hrestart hsamples _ _).cons
  apply (hindex .samples _ (by decide)).cons
  apply (hindex .samples _ (by decide)).cons
  apply (upgrades_createTableIfNotExists hrestart hevents _ _).cons
  apply (hindex .events _ (by decide)).cons
  apply (hindex .events _ (by decide)).cons
  exact (upgrades_createIndex hrestart hend).last fun _ heq => heq ▸ hrestart

/-! ## The rebuilt tables -/

def rebuilt (literals : Literals V) (kind : Child) (table : Table V) : Table V where
  columns := kind.columns
  cascade := true
  rows := table.rows.map fun row column => if column ∈ kind.columns then row column else literals.null

lemma ChildCarried.rebuilt (literals : Literals V) {kind : Child} {table : Table V}
    (h : ChildCarried history kind table) :
    ChildCarried history kind (rebuilt literals kind table) := by
  refine ⟨fun c hc _ => hc, fun c hc => hc, history.child_within kind, ?_⟩
  unfold SessionHistory.rebuilt
  dsimp only
  rw [List.forall₂_map_right_iff]
  apply h.rows.imp
  intro old new hrow c hc
  exact (if_pos (history.child_within kind c hc)).trans (hrow c hc)

variable {kind : Child}

lemma not_quiet_restartable (h : db.tables kind.legacy ≠ none) :
    Restartable history db := fun hquiet => absurd (hquiet kind) h

lemma upgrades_rebuild {table : Table V} (h : Carried history db)
    (hfound : db.tables kind.table = some table) (hcarried : ChildCarried history kind table)
    (hcolumns : ∀ c ∈ kind.columns, c ∈ table.columns) :
    Upgrades literals history (· = db) (rebuildChildTableWithCascade kind)
      (· = db.set kind.table (some (rebuilt literals kind table))) := by
  have hne : kind.legacy ≠ kind.table := legacy_ne_table kind kind
  let renamed := (db.set kind.table none).set kind.legacy (some table)
  let created := renamed.set kind.table (some { columns := kind.columns, cascade := true })
  let copied := created.set kind.table (some (rebuilt literals kind table))
  have hdropped : copied.set kind.legacy none =
      db.set kind.table (some (rebuilt literals kind table)) := by
    refine congrArg (Database.mk · db.userVersion) (funext fun name => ?_)
    change (copied.set kind.legacy none).tables name = _
    by_cases hlegacy : name = kind.legacy
    · rw [hlegacy, Database.set_self]
      exact ((Database.set_of_ne db hne _).trans (h.quiet kind)).symm
    · rw [Database.set_of_ne _ hlegacy]
      by_cases hname : name = kind.table
      · rw [hname]
        simp [copied, Database.set]
      · simp [copied, created, renamed, Database.set, Function.update_of_ne hname,
          Function.update_of_ne hlegacy]
  have hafter := h.set_child (hcarried.rebuilt literals)
  have hsource : created.tables kind.legacy = some table := by
    rw [Database.set_of_ne _ hne, Database.set_self]
  have hrenamed : db.execute literals (.renameTable kind.table kind.legacy) = (true, renamed) :=
    Database.execute_renameTable hfound (h.quiet kind)
  have hcreated : renamed.execute literals (.createTable kind.table kind.columns true) =
      (true, created) := by
    apply Database.execute_createTable
    rw [Database.set_of_ne _ hne.symm, Database.set_self]
  have hcopied : created.execute literals (.insertSelect kind.table kind.legacy kind.columns) =
      (true, copied) :=
    Database.execute_insertSelect (Database.set_self _ _ _) hsource
      (fun c hc => ⟨hc, hcolumns c hc⟩) rfl
  have hgone : copied.execute literals (.dropTable kind.legacy) =
      (true, db.set kind.table (some (rebuilt literals kind table))) := by
    have hlegacy : copied.tables kind.legacy = some table := by
      rw [Database.set_of_ne _ hne, hsource]
    rw [Database.execute_dropTable hlegacy, hdropped]
  have hopen : ∀ {state : Database V}, state.tables kind.legacy = some table →
      Restartable history state := by
    intro state hlegacy
    refine not_quiet_restartable (?_ : state.tables kind.legacy ≠ none)
    rw [hlegacy]
    exact nofun
  have hbody : Upgrades literals history (· = db)
      (allOf ([query (.renameTable kind.table kind.legacy),
          query (.createTable kind.table kind.columns true),
          query (.insertSelect kind.table kind.legacy kind.columns),
          query (.dropTable kind.legacy)] ++
        childIndexes kind ++ [query (.pragma "foreign_keys = ON")]))
      (· = db.set kind.table (some (rebuilt literals kind table))) := by
    have hindex : ∀ columns, (∀ c ∈ columns, c ∈ kind.columns) → Upgrades literals history
        (· = db.set kind.table (some (rebuilt literals kind table)))
        (query (.createIndex kind.table columns))
        (· = db.set kind.table (some (rebuilt literals kind table))) :=
      fun columns hmem => upgrades_createIndex hafter.restartable
        ⟨_, Database.set_self _ _ _, fun c hc => hmem c hc⟩
    apply (upgrades_ask hrenamed rfl h.restartable (hopen (Database.set_self _ _ _))).cons
    apply (upgrades_ask hcreated rfl (hopen (Database.set_self _ _ _)) (hopen hsource)).cons
    refine (upgrades_ask hcopied rfl (hopen hsource)
      (hopen (by rw [Database.set_of_ne _ hne, hsource]))).cons ?_
    refine (upgrades_ask hgone rfl (hopen (by rw [Database.set_of_ne _ hne, hsource]))
      hafter.restartable).cons ?_
    apply (hindex _ (by cases kind <;> decide)).cons
    apply (hindex _ (by cases kind <;> decide)).cons
    exact (upgrades_pragma hafter.restartable _).last fun _ heq => heq ▸ hafter.restartable
  rintro _ rfl
  unfold rebuildChildTableWithCascade
  apply ensures_ask h.restartable
  change (allOf _ >>= _ : Migration V Bool).Ensures _ _ _ _
  refine .bind ((hbody _ rfl).mono (fun _ h => h) fun ok after hrestart hpost => ?_)
  obtain ⟨rfl, rfl⟩ := hpost
  apply ensures_ask hrestart
  exact .done hrestart ⟨rfl, rfl⟩

/-! ## The columns -/

variable {columns : List (String × String)} {requested : Bool}

def Present (version : Nat) (entry : String × String) : Prop :=
  (entry.1 = sessionsTable ∧ entry.2 ∈ sessionsColumns ∨
      ∃ kind ∈ [Child.samples, Child.events], entry.1 = kind.table ∧ entry.2 ∈ kind.columns) ∧
    introduced entry.2 ≤ version

instance (version : Nat) (entry : String × String) : Decidable (Present version entry) :=
  inferInstanceAs (Decidable (_ ∧ _))

lemma Carried.has_present (h : Carried history db) {version : Nat} {entry : String × String}
    (hversion : version ≤ history.version) (hpresent : Present version entry) :
    Has db entry.1 entry.2 := by
  obtain ⟨hsess | ⟨kind, -, htable, hcolumn⟩, hintroduced⟩ := hpresent
  · obtain ⟨table, hfound, hcarried⟩ := h.sessions
    refine ⟨table, hsess.1 ▸ hfound, ?_⟩
    exact hcarried.has _ hsess.2 (Nat.le_trans hintroduced hversion)
  · obtain ⟨table, hfound, hcarried⟩ := h.child kind
    exact ⟨table, htable ▸ hfound, hcarried.has _ hcolumn (Nat.le_trans hintroduced hversion)⟩

lemma upgrades_version {version : Nat} {steps : Migration V Bool} {added : List (String × String)}
    (h : Upgrades literals history (Stage history columns requested) steps
      (Stage history (added ++ columns) requested))
    (hpresent : ∀ entry ∈ added, Present version entry) :
    Upgrades literals history (Stage history columns requested)
      (when (decide (history.version < version)) steps)
      (Stage history (added ++ columns) requested) := by
  refine .when (fun _ => h) fun hskip db hdb => ⟨hdb.restartable, { hdb with has := ?_ }⟩
  intro entry hentry
  obtain hnew | hold := List.mem_append.mp hentry
  · exact hdb.has_present (Nat.le_of_not_lt (of_decide_eq_false hskip)) (hpresent entry hnew)
  · exact hdb.has entry hold

lemma addable_sessions {column : String} (hencoder : column ≠ "encoder_bitrate_kbps")
    (hrequested : column ≠ "requested_bitrate_kbps") : Addable sessionsTable column :=
  .inl ⟨rfl, hencoder, hrequested⟩

lemma upgrades_requested : Upgrades literals history (Stage history [] false)
      (when (decide (history.version < 2))
        (addColumn sessionsTable "target_requested_bitrate_kbps" literals.null))
      (Stage history [] true) := by
  refine .when (fun _ => ?_) fun hskip db hdb => ⟨hdb.restartable, { hdb with asked := ?_ }⟩
  · refine (upgrades_addColumn (addable_sessions (by decide) (by decide)) _).mono
      (fun _ h => h) fun db hdb => { hdb with has := nofun, asked := ?_ }
    exact fun _ => .inl (hdb.has _ List.mem_cons_self)
  · intro _
    obtain ⟨table, hfound, hcarried⟩ := hdb.sessions
    exact (hcarried.requested (Nat.le_of_not_lt (of_decide_eq_false hskip))).imp
      (⟨table, hfound, ·⟩) (⟨table, hfound, ·⟩)

def hostColumns : List (String × String) :=
  hostMetrics.reverse.map (Child.samples.table, ·) ++
    [(sessionsTable, "host_gpu_model"), (sessionsTable, "host_cpu_model")]

lemma upgrades_host : Upgrades literals history (Stage history columns requested)
      (allOf ([addColumn sessionsTable "host_cpu_model" literals.null,
          addColumn sessionsTable "host_gpu_model" literals.null] ++
        hostMetrics.map fun column => addColumn Child.samples.table column literals.minusOne))
      (Stage history (hostColumns ++ columns) requested) := by
  apply (upgrades_addColumn (addable_sessions (by decide) (by decide)) _).cons
  apply (upgrades_addColumn (addable_sessions (by decide) (by decide)) _).cons
  have hmetrics : ∀ column ∈ hostMetrics, Addable Child.samples.table column := fun column hc =>
    .inr ⟨.samples, rfl, (by decide : ∀ c ∈ hostMetrics, c ∈ Child.samples.columns) column hc⟩
  exact upgrades_addColumns hmetrics literals.minusOne

def renamedColumns : List (String × String) :=
  [(sessionsTable, "requested_bitrate_kbps"), (sessionsTable, "encoder_bitrate_kbps")]

lemma upgrades_renames (hbitrate : (sessionsTable, "target_bitrate_kbps") ∉ columns)
    (hrequested : (sessionsTable, "target_requested_bitrate_kbps") ∉ columns) :
    Upgrades literals history (Stage history columns true)
      (allOf [renameColumn sessionsTable "target_bitrate_kbps" "encoder_bitrate_kbps",
        renameColumn sessionsTable "target_requested_bitrate_kbps" "requested_bitrate_kbps"])
      (Stage history (renamedColumns ++ columns) true) := by
  refine (upgrades_renameColumn renames_bitrate (.inl ⟨rfl, rfl⟩) (fun db hdb => ?_)
    hbitrate).cons ?_
  · obtain ⟨table, hfound, hcarried⟩ := hdb.sessions
    exact hcarried.bitrate.imp (⟨table, hfound, ·⟩) (⟨table, hfound, ·⟩)
  · refine (upgrades_renameColumn renames_requested (.inr ⟨rfl, rfl⟩)
      (fun db hdb => hdb.asked rfl) ?_).last fun _ hdb => hdb.restartable
    intro hmem
    obtain heq | hmem := List.mem_cons.mp hmem
    · exact absurd heq (by decide)
    · exact hrequested hmem

def latestColumns : List (String × String) :=
  renamedColumns ++ ([(sessionsTable, "stream_gpu_model")] ++
    ([(sessionsTable, "server_version"), (sessionsTable, "yuv444")] ++ (hostColumns ++ [])))

/-- A history that has the present columns. -/
structure Ready (history : History V) (db : Database V) : Prop extends Carried history db where
  sessionsColumns : ∀ c ∈ sessionsColumns, Has db sessionsTable c
  childColumns : ∀ kind : Child, ∀ c ∈ kind.columns, Has db kind.table c

lemma Stage.ready (h : Stage history latestColumns requested db) : Ready history db := by
  refine { h with sessionsColumns := fun c hc => ?_, childColumns := fun kind c hc => ?_ }
  · have hcases : ∀ c ∈ SessionHistory.sessionsColumns,
        (sessionsTable, c) ∈ latestColumns ∨ Present 1 (sessionsTable, c) := by decide
    obtain hlisted | hpresent := hcases c hc
    · exact h.has _ hlisted
    · exact h.has_present history.version_pos hpresent
  · have hcases : ∀ c ∈ kind.columns,
        (kind.table, c) ∈ latestColumns ∨ Present 1 (kind.table, c) := by cases kind <;> decide
    obtain hlisted | hpresent := hcases c hc
    · exact h.has _ hlisted
    · exact h.has_present history.version_pos hpresent

/-! ## The child tables -/

def Cascades (kind : Child) (db : Database V) : Prop :=
  ∃ table, db.tables kind.table = some table ∧ table.cascade = true

lemma upgrades_rebuildChild (kinds : List Child) (kind : Child) :
    Upgrades literals history (fun db => Ready history db ∧ ∀ other ∈ kinds, Cascades other db)
      (rebuildChildTableWithCascade kind)
      (fun db => Ready history db ∧ ∀ other ∈ kind :: kinds, Cascades other db) := by
  rintro db ⟨hready, hcascades⟩
  obtain ⟨table, hfound, hcarried⟩ := hready.child kind
  have hcolumns : ∀ c ∈ kind.columns, c ∈ table.columns := by
    intro c hc
    obtain ⟨found, hother, hcolumn⟩ := hready.childColumns kind c hc
    exact Option.some.inj (hfound.symm.trans hother) ▸ hcolumn
  refine (upgrades_rebuild hready.toCarried hfound hcarried hcolumns db rfl).mono
    (fun _ h => h) fun ok after _ hpost => ⟨hpost.1, ?_⟩
  rw [hpost.2]
  have hafter := hready.set_child (hcarried.rebuilt literals)
  refine ⟨{ hafter with sessionsColumns := fun c hc => ?_, childColumns := fun other c hc => ?_ }, ?_⟩
  · exact (hready.sessionsColumns c hc).set fun heq => absurd heq.symm (child_ne_sessions kind)
  · exact (hready.childColumns other c hc).set fun heq => table_injective heq ▸ hc
  · intro other hother
    by_cases heq : other = kind
    · subst heq
      exact ⟨_, Database.set_self _ _ _, rfl⟩
    · obtain ⟨found, hfound', hcascade⟩ :=
        hcascades other ((List.mem_cons.mp hother).resolve_left heq)
      refine ⟨found, ?_, hcascade⟩
      rw [Database.set_of_ne _ fun htable => heq (table_injective htable), hfound']

lemma cascades_of_query
    (h : ((db.tables kind.table).map Table.cascade).getD false = true) : Cascades kind db := by
  cases hfound : db.tables kind.table with
  | none =>
    rw [hfound] at h
    exact absurd h nofun
  | some table =>
    rw [hfound] at h
    exact ⟨table, hfound, h⟩

lemma upgrades_rebuildTables :
    Upgrades literals history (Ready history) (rebuildTables history.version)
      (fun db => Ready history db ∧ ∀ kind : Child, Cascades kind db) := by
  intro db hready
  have hrestart := hready.toCarried.restartable
  apply ensures_ask hrestart
  apply ensures_ask hrestart
  have hwhen : Upgrades literals history (fun db' => db' = db)
      (when (decide (history.version < 7) ||
          !((db.tables Child.samples.table).map Table.cascade).getD false ||
          !((db.tables Child.events.table).map Table.cascade).getD false)
        (allOf [rebuildChildTableWithCascade .samples, rebuildChildTableWithCascade .events]))
      (fun db => Ready history db ∧ ∀ kind : Child, Cascades kind db) := by
    refine .when (fun _ => ?_) fun hskip db' hdb' => ?_
    · have hevents : Upgrades literals history _ _ _ := upgrades_rebuildChild [.samples] .events
      have hboth := (upgrades_rebuildChild [] .samples).cons
        (hevents.last fun _ h => h.1.toCarried.restartable)
      refine hboth.mono ?_ fun db' h => ⟨h.1, fun kind => h.2 kind (by cases kind <;> decide)⟩
      rintro _ rfl
      exact ⟨hready, nofun⟩
    · subst hdb'
      simp only [Bool.or_eq_false_iff, Bool.not_eq_false'] at hskip
      refine ⟨hrestart, hready, fun kind => ?_⟩
      cases kind with
      | samples => exact cascades_of_query hskip.1.2
      | events => exact cascades_of_query hskip.2
  exact hwhen db rfl

lemma upgrades_migrateFrom :
    Upgrades literals history (Stage history [] false) (migrateFrom literals history.version)
      (fun db => Ready history db ∧ ∀ kind : Child, Cascades kind db) := by
  have hserver : Upgrades literals history (Stage history (hostColumns ++ []) true)
      (allOf [addColumn sessionsTable "yuv444" literals.zero,
        addColumn sessionsTable "server_version" literals.null])
      (Stage history ([(sessionsTable, "server_version"), (sessionsTable, "yuv444")] ++
        (hostColumns ++ [])) true) :=
    (upgrades_addColumn (addable_sessions (by decide) (by decide)) _).cons
      ((upgrades_addColumn (addable_sessions (by decide) (by decide)) _).last
        fun _ h => h.restartable)
  have hgpu : Upgrades literals history
      (Stage history ([(sessionsTable, "server_version"), (sessionsTable, "yuv444")] ++
        (hostColumns ++ [])) true)
      (addColumn sessionsTable "stream_gpu_model" literals.null)
      (Stage history ([(sessionsTable, "stream_gpu_model")] ++
        ([(sessionsTable, "server_version"), (sessionsTable, "yuv444")] ++
          (hostColumns ++ []))) true) :=
    upgrades_addColumn (addable_sessions (by decide) (by decide)) _
  apply upgrades_requested.cons
  apply (upgrades_version upgrades_host (by decide)).cons
  apply (upgrades_version hserver (by decide)).cons
  apply (upgrades_version hgpu (by decide)).cons
  apply (upgrades_version (upgrades_renames (by decide) (by decide)) (by decide)).cons
  refine (upgrades_rebuildTables.mono (fun _ h => Stage.ready h) fun _ h => h).last
    fun _ h => h.1.toCarried.restartable

/-! ## The whole migration -/

lemma Tables.hadExisting {crash : Database V → Prop} {α : Type} {post : α → Database V → Prop}
    {next : Bool → Migration V α} (h : Tables history db) (hcrash : crash db)
    (hnext : (next true).Ensures (Database.Executes literals) db crash post) :
    (hadExistingHistoryTables >>= next).Ensures (Database.Executes literals) db crash post := by
  obtain ⟨sessions, hsess, -⟩ := h.sessions
  have hexists : db.execute literals (.tableExists "sessions") = (true, db) :=
    congrArg (fun found : Option (Table V) => (found.isSome, db)) hsess
  apply ensures_ask hcrash
  rw [hexists]
  exact hnext

lemma Ready.done (h : Ready history db) (hcascades : ∀ kind : Child, Cascades kind db) :
    Done history { db with userVersion := 7 } where
  quiet := h.quiet
  sessions := h.sessions
  child := h.child
  current := ⟨rfl, h.sessionsColumns, h.childColumns, hcascades⟩

lemma Carried.applies (h : Carried history db) :
    (applySchemaAndMigrations literals 7).Ensures (Database.Executes literals) db
      (Restartable history) fun ok after => ok = true ∧ Done history after := by
  apply h.toTables.hadExisting h.restartable
  refine .bind ((upgrades_schemaSql h.toTables h.restartable db rfl).mono (fun _ h => h)
    fun ok after hrestart hpost => ?_)
  obtain ⟨rfl, rfl⟩ := hpost
  apply ensures_ask hrestart
  change (allOf [migrateFrom literals after.userVersion, query (.setUserVersion 7)] :
    Migration V Bool).Ensures _ after _ _
  rw [h.version]
  have hlast : Upgrades literals history
      (fun db => Ready history db ∧ ∀ kind : Child, Cascades kind db)
      (query (.setUserVersion 7)) (Done history) := by
    rintro db ⟨hready, hcascades⟩
    have hdone := hready.done hcascades
    apply ensures_ask hready.toCarried.restartable
    exact .done (fun _ => .inr hdone) ⟨rfl, hdone⟩
  refine (upgrades_migrateFrom.cons (hlast.last fun _ h _ => .inr h)) after { h with
    has := nofun
    asked := nofun }

lemma Done.restartable (h : Done history db) : Restartable history db := fun _ => .inr h

lemma Done.applies (h : Done history db) :
    (applySchemaAndMigrations literals 7).Ensures (Database.Executes literals) db
      (Restartable history) fun ok after => ok = true ∧ after = db := by
  have hrestart := h.restartable
  apply h.toTables.hadExisting hrestart
  refine .bind ((upgrades_schemaSql h.toTables hrestart db rfl).mono (fun _ h => h)
    fun ok after _ hpost => ?_)
  obtain ⟨rfl, rfl⟩ := hpost
  apply ensures_ask hrestart
  change (allOf [migrateFrom literals after.userVersion, query (.setUserVersion 7)] :
    Migration V Bool).Ensures _ after _ _
  rw [h.current.version]
  have hskip : ∀ step : Migration V Bool,
      Upgrades literals history (· = after) (when false step) (· = after) :=
    fun step db hdb => .done (hdb ▸ hrestart) ⟨rfl, hdb⟩
  have hcascade : ∀ kind : Child,
      after.execute literals (.hasDeleteCascade kind.table) = (true, after) := by
    intro kind
    obtain ⟨table, hfound, hcascade⟩ := h.current.cascade kind
    simp only [Database.execute, hfound, Option.map_some, Option.getD_some, hcascade]
  have hrebuild : Upgrades literals history (· = after) (rebuildTables 7) (· = after) := by
    rintro _ rfl
    apply ensures_ask hrestart
    rw [hcascade]
    apply ensures_ask hrestart
    rw [hcascade]
    exact hskip _ _ rfl
  have hmigrate : Upgrades literals history (· = after) (migrateFrom literals 7) (· = after) := by
    apply (hskip _).cons
    apply (hskip _).cons
    apply (hskip _).cons
    apply (hskip _).cons
    apply (hskip _).cons
    exact hrebuild.last fun _ heq => heq ▸ hrestart
  have hversion : Upgrades literals history (· = after) (query (.setUserVersion 7)) (· = after) := by
    have hsame : after.execute literals (.setUserVersion 7) = (true, after) := by
      simp only [Database.execute, ← h.current.version]
    exact upgrades_ask hsame rfl hrestart hrestart
  exact (hmigrate.cons (hversion.last fun _ heq => heq ▸ hrestart)) after rfl

/-! ## Runs with interruptions -/

/-- The databases in which the process finds itself at a start: the history, or what a
migration left that was stopped between two statements, but not while a child table stood
under its legacy name. -/
inductive Interrupted (literals : Literals V) (history : History V) : Database V → Prop
  | start : Interrupted literals history history.database
  | stopped {before after : Database V} (earlier : Interrupted literals history before)
      (visits : (applySchemaAndMigrations literals 7).Visits (Database.Executes literals) before
        after)
      (quiet : Quiet after) : Interrupted literals history after

lemma place_start (history : History V) {c : String} (hc : c ∈ history.sessions.columns) :
    place history.sessions.columns c = c := by
  by_cases htarget : c = "target_bitrate_kbps"
  · have hrenamed : renamed c = "encoder_bitrate_kbps" := if_pos htarget
    rw [place, hrenamed, if_neg (history.bitrate.mp (htarget ▸ hc))]
  by_cases hasked : c = "target_requested_bitrate_kbps"
  · have hrenamed : renamed c = "requested_bitrate_kbps" :=
      (if_neg htarget).trans (if_pos hasked)
    rw [place, hrenamed, if_neg (history.requested_once (hasked ▸ hc))]
  · have hrenamed : renamed c = c := (if_neg htarget).trans (if_neg hasked)
    rw [place, hrenamed, ite_self]

lemma History.carried (history : History V) : Carried history history.database where
  quiet kind := by cases kind <;> rfl
  sessions := by
    refine ⟨history.sessions, rfl, history.sessions_has, ?_, history.requested, fun c hc => ?_, ?_⟩
    · by_cases hencoder : "encoder_bitrate_kbps" ∈ history.sessions.columns
      · exact .inr hencoder
      · exact .inl (history.bitrate.mpr hencoder)
    · rw [place_start history hc]
      exact hc
    · exact List.forall₂_same.mpr fun row _ c hc => congrArg row (place_start history hc)
  child kind := by
    have hcarried : ChildCarried history kind (history.child kind) :=
      ⟨history.child_has kind, history.child_within kind, fun _ hc => hc,
        List.forall₂_same.mpr fun _ _ _ _ => rfl⟩
    cases kind with
    | samples | events => exact ⟨_, rfl, hcarried⟩
  version := rfl

lemma Interrupted.carried_or_done (h : Interrupted literals history db) :
    Carried history db ∨ Done history db := by
  induction h with
  | start => exact .inl history.carried
  | stopped _ visits quiet ih =>
    obtain hcarried | hdone := ih
    · exact hcarried.applies.interrupted _ visits quiet
    · exact hdone.applies.interrupted _ visits quiet

/-- The tables hold the rows of the history, every value under the present name of its column. -/
structure Preserves (history : History V) (db : Database V) : Prop where
  sessions : ∃ table, db.tables sessionsTable = some table ∧
    List.Forall₂ (fun old new => ∀ c ∈ history.sessions.columns, new (renamed c) = old c)
      history.sessions.rows table.rows
  child : ∀ kind : Child, ∃ table, db.tables kind.table = some table ∧
    List.Forall₂ (fun old new => ∀ c ∈ (history.child kind).columns, new c = old c)
      (history.child kind).rows table.rows

lemma Done.preserves (h : Done history db) : Preserves history db where
  sessions := by
    obtain ⟨table, hfound, hcarried⟩ := h.sessions
    refine ⟨table, hfound, hcarried.rows.imp fun old new hrow c hc => ?_⟩
    have hplace : place table.columns c = renamed c := by
      have hhas : ∀ column ∈ sessionsColumns, column ∈ table.columns := by
        intro column hcolumn
        obtain ⟨found, hother, hmem⟩ := h.current.sessions column hcolumn
        exact Option.some.inj (hfound.symm.trans hother) ▸ hmem
      by_cases htarget : c = "target_bitrate_kbps"
      · have hrenamed : renamed c = "encoder_bitrate_kbps" := if_pos htarget
        rw [place, hrenamed, if_pos (hhas _ (by decide))]
      by_cases hasked : c = "target_requested_bitrate_kbps"
      · have hrenamed : renamed c = "requested_bitrate_kbps" :=
          (if_neg htarget).trans (if_pos hasked)
        rw [place, hrenamed, if_pos (hhas _ (by decide))]
      · have hrenamed : renamed c = c := (if_neg htarget).trans (if_neg hasked)
        rw [place, hrenamed, ite_self]
    rw [← hplace]
    exact hrow c hc
  child kind := (h.child kind).imp fun _ => And.imp_right ChildCarried.rows

/-- Stopped as often as may be between two statements, but never while a child table stands
under its legacy name, the migration succeeds at the next start: it ends with the present
schema and exactly the rows of the history, and starting once more changes nothing. -/
theorem migration_survives_interruptions (literals : Literals V) (history : History V)
    (db : Database V) (h : Interrupted literals history db) (ok : Bool) (final : Database V)
    (hrun : (applySchemaAndMigrations literals 7).run (Database.execute literals) db = (ok, final)) :
    ok = true ∧ Current final ∧ Preserves history final ∧
      (applySchemaAndMigrations literals 7).run (Database.execute literals) final =
        (true, final) := by
  have hfinishes : ∀ state : Database V,
      (applySchemaAndMigrations literals 7).Finishes (Database.Executes literals) state
        ((applySchemaAndMigrations literals 7).run (Database.execute literals) state).1
        ((applySchemaAndMigrations literals 7).run (Database.execute literals) state).2 :=
    fun state => finishes_run (fun _ _ => rfl) _ state
  have hagain : ∀ {state : Database V}, Done history state →
      (applySchemaAndMigrations literals 7).run (Database.execute literals) state =
        (true, state) := by
    intro state hdone
    obtain ⟨hok, hsame⟩ := hdone.applies.finished _ _ (hfinishes state)
    exact Prod.ext hok hsame
  have hend := hfinishes db
  rw [hrun] at hend
  have hdone : ok = true ∧ Done history final := by
    obtain hcarried | hdone := h.carried_or_done
    · exact hcarried.applies.finished _ _ hend
    · obtain ⟨hok, rfl⟩ := hdone.applies.finished _ _ hend
      exact ⟨hok, hdone⟩
  exact ⟨hdone.1, hdone.2.current, hdone.2.preserves, hagain hdone.2⟩

def plainLiterals : Literals Int := ⟨-2, 0, -1⟩

def sixthHistory : History Int where
  version := 6
  sessions := { columns := sessionsColumns, rows := [fun _ => 1] }
  child kind := { columns := kind.columns, rows := if kind = .samples then [fun _ => 1] else [] }
  version_pos := by decide
  version_le := by decide
  sessions_has _ hc _ := hc
  bitrate := by decide
  requested _ := by decide
  requested_once := by decide
  child_has _ _ hc _ := hc
  child_within _ _ hc := hc

/-- The state at a stop after the given number of statements. -/
def stoppedAfter (count : Nat) (db : Database Int) : Database Int :=
  stopAfter (Database.execute plainLiterals) count (applySchemaAndMigrations plainLiterals 7) db

/-- Stopped between the two rebuilds, and once more later, the migration still succeeds. -/
theorem sixth_history_migrates :
    let halfway := stoppedAfter 19 sixthHistory.database
    let again := stoppedAfter 12 halfway
    (halfway.tables "samples").map Table.cascade = some true ∧
      (halfway.tables "events").map Table.cascade = some false ∧
      ∃ final, (applySchemaAndMigrations plainLiterals 7).run (Database.execute plainLiterals)
          again = (true, final) ∧ Preserves sixthHistory final := by
  intro halfway again
  have hquiet : ∀ db ∈ [halfway, again], Quiet db := by
    intro db hmem kind
    cases kind <;> revert db <;> decide +kernel
  have hagain : Interrupted plainLiterals sixthHistory again :=
    .stopped (.stopped .start (visits_stopAfter (fun _ _ => rfl) 19 _ _) (hquiet halfway (by simp)))
      (visits_stopAfter (fun _ _ => rfl) 12 _ _) (hquiet again (by simp))
  generalize hrun : (applySchemaAndMigrations plainLiterals 7).run (Database.execute plainLiterals)
    again = result
  obtain ⟨ok, final⟩ := result
  have hmigrates := migration_survives_interruptions plainLiterals sixthHistory again hagain ok final
    hrun
  exact ⟨by decide +kernel, by decide +kernel, final, by rw [hmigrates.1], hmigrates.2.2.1⟩

def stoppedInRebuild : Database Int :=
  stoppedAfter 16 sixthHistory.database

theorem rebuild_not_restartable :
    ¬ ∀ (literals : Literals Int) (history : History Int) (after : Database Int),
      (applySchemaAndMigrations literals 7).Visits (Database.Executes literals) history.database
          after →
        ((applySchemaAndMigrations literals 7).run (Database.execute literals) after).1 = true := by
  intro hclaim
  have hvisits : (applySchemaAndMigrations plainLiterals 7).Visits (Database.Executes plainLiterals)
      sixthHistory.database stoppedInRebuild := visits_stopAfter (fun _ _ => rfl) 16 _ _
  have hfails : ((applySchemaAndMigrations plainLiterals 7).run (Database.execute plainLiterals)
      stoppedInRebuild).1 = false := by decide +kernel
  exact absurd ((hclaim _ _ _ hvisits).symm.trans hfails) nofun

end Vibeshine.SessionHistory
