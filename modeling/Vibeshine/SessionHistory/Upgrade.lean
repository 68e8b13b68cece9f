import Vibeshine.SessionHistory.Schema
import Mathlib.Data.List.Forall2

/-! # The migration, step by step

Each step that adds or renames a column leaves every value of the original rows under the
present name of its column. So the migration can be taken up wherever it was left, as long as
no child table is left under its legacy name.
-/

namespace Vibeshine.SessionHistory

open Library Program List

variable {V : Type}

/-! ## Histories -/

def sessionsTable : String := "sessions"

def introduced (column : String) : Nat :=
  if column ∈ hostMetrics ++ ["host_cpu_model", "host_gpu_model"] then 3
  else if column ∈ ["yuv444", "server_version"] then 4
  else if column = "stream_gpu_model" then 5
  else if column ∈ ["encoder_bitrate_kbps", "requested_bitrate_kbps"] then 6
  else 1

def renamed (column : String) : String :=
  if column = "target_bitrate_kbps" then "encoder_bitrate_kbps"
  else if column = "target_requested_bitrate_kbps" then "requested_bitrate_kbps"
  else column

/-- The database that a schema version wrote, with any of the later columns. -/
structure History (V : Type) where
  version : Nat
  sessions : Table V
  child : Child → Table V
  version_pos : 1 ≤ version
  version_le : version ≤ 7
  sessions_has : ∀ c ∈ sessionsColumns, introduced c ≤ version → c ∈ sessions.columns
  bitrate : "target_bitrate_kbps" ∈ sessions.columns ↔ "encoder_bitrate_kbps" ∉ sessions.columns
  requested : 2 ≤ version → "target_requested_bitrate_kbps" ∈ sessions.columns ∨
    "requested_bitrate_kbps" ∈ sessions.columns
  requested_once : "target_requested_bitrate_kbps" ∈ sessions.columns →
    "requested_bitrate_kbps" ∉ sessions.columns
  child_has : ∀ kind, ∀ c ∈ kind.columns, introduced c ≤ version → c ∈ (child kind).columns
  child_within : ∀ kind, ∀ c ∈ (child kind).columns, c ∈ kind.columns

def History.database (history : History V) : Database V where
  tables name :=
    if name = sessionsTable then some history.sessions
    else if name = Child.samples.table then some (history.child .samples)
    else if name = Child.events.table then some (history.child .events)
    else none
  userVersion := history.version

def place (columns : List String) (column : String) : String :=
  if renamed column ∈ columns then renamed column else column

structure SessionsCarried (history : History V) (table : Table V) : Prop where
  has : ∀ c ∈ sessionsColumns, introduced c ≤ history.version → c ∈ table.columns
  bitrate : "target_bitrate_kbps" ∈ table.columns ∨ "encoder_bitrate_kbps" ∈ table.columns
  requested : 2 ≤ history.version → "target_requested_bitrate_kbps" ∈ table.columns ∨
    "requested_bitrate_kbps" ∈ table.columns
  placed : ∀ c ∈ history.sessions.columns, place table.columns c ∈ table.columns
  rows : List.Forall₂ (fun old new => ∀ c ∈ history.sessions.columns,
    new (place table.columns c) = old c) history.sessions.rows table.rows

structure ChildCarried (history : History V) (kind : Child) (table : Table V) : Prop where
  has : ∀ c ∈ kind.columns, introduced c ≤ history.version → c ∈ table.columns
  within : ∀ c ∈ table.columns, c ∈ kind.columns
  kept : ∀ c ∈ (history.child kind).columns, c ∈ table.columns
  rows : List.Forall₂ (fun old new => ∀ c ∈ (history.child kind).columns, new c = old c)
    (history.child kind).rows table.rows

def Quiet (db : Database V) : Prop := ∀ kind : Child, db.tables kind.legacy = none

/-- The rows of the history are there. -/
structure Tables (history : History V) (db : Database V) : Prop where
  quiet : Quiet db
  sessions : ∃ table, db.tables sessionsTable = some table ∧ SessionsCarried history table
  child : ∀ kind : Child, ∃ table, db.tables kind.table = some table ∧
    ChildCarried history kind table

def Has (db : Database V) (table column : String) : Prop :=
  ∃ found, db.tables table = some found ∧ column ∈ found.columns

/-- The present schema. -/
structure Current (db : Database V) : Prop where
  version : db.userVersion = 7
  sessions : ∀ c ∈ sessionsColumns, Has db sessionsTable c
  child : ∀ kind : Child, ∀ c ∈ kind.columns, Has db kind.table c
  cascade : ∀ kind : Child, ∃ table, db.tables kind.table = some table ∧ table.cascade = true

/-- A history that was not brought to the end of the migration. -/
structure Carried (history : History V) (db : Database V) : Prop extends Tables history db where
  version : db.userVersion = history.version

structure Done (history : History V) (db : Database V) : Prop extends Tables history db where
  current : Current db

def Restartable (history : History V) (db : Database V) : Prop :=
  Quiet db → Carried history db ∨ Done history db

variable {history : History V} {db : Database V} {table : Table V} {kind : Child}

lemma Carried.restartable (h : Carried history db) : Restartable history db := fun _ => .inl h

lemma child_ne_sessions (kind : Child) : kind.table ≠ sessionsTable := by
  cases kind <;> decide

lemma legacy_ne_sessions (kind : Child) : kind.legacy ≠ sessionsTable := by
  cases kind <;> decide

lemma legacy_ne_table (kind other : Child) : kind.legacy ≠ other.table := by
  cases kind <;> cases other <;> decide

lemma table_injective {kind other : Child} (h : kind.table = other.table) : kind = other := by
  cases kind <;> cases other <;> first | rfl | exact absurd h (by decide)

/-! ## One column -/

lemma renamed_eq {column new : String} (h : renamed column = new)
    (hencoder : new ≠ "encoder_bitrate_kbps") (hrequested : new ≠ "requested_bitrate_kbps") :
    column = new := by
  unfold renamed at h
  split_ifs at h
  · exact absurd h.symm hencoder
  · exact absurd h.symm hrequested
  · exact h

lemma SessionsCarried.addColumn (h : SessionsCarried history table) {column : String}
    (hencoder : column ≠ "encoder_bitrate_kbps") (hrequested : column ≠ "requested_bitrate_kbps")
    (hnew : column ∉ table.columns) (default : V) : SessionsCarried history { table with
      columns := table.columns ++ [column]
      rows := table.rows.map fun row => Function.update row column default } := by
  have hplace : ∀ c ∈ history.sessions.columns,
      place (table.columns ++ [column]) c = place table.columns c := by
    intro c hc
    have hplaced := h.placed c hc
    have hne : renamed c ≠ column := by
      intro heq
      have hsame := renamed_eq heq hencoder hrequested
      unfold place at hplaced
      rw [heq, if_neg hnew, hsame] at hplaced
      exact hnew hplaced
    unfold place
    simp [hne]
  refine ⟨fun c hc hversion => mem_append_left _ (h.has c hc hversion),
    h.bitrate.imp (mem_append_left _) (mem_append_left _),
    fun hversion => (h.requested hversion).imp (mem_append_left _) (mem_append_left _),
    fun c hc => ?_, ?_⟩
  · dsimp only
    rw [hplace c hc]
    exact mem_append_left _ (h.placed c hc)
  · rw [forall₂_map_right_iff]
    refine h.rows.imp fun old new hrow c hc => ?_
    have hne : place table.columns c ≠ column := fun heq => hnew (heq ▸ h.placed c hc)
    dsimp only
    rw [hplace c hc, Function.update_of_ne hne]
    exact hrow c hc

lemma ChildCarried.addColumn (h : ChildCarried history kind table) {column : String}
    (hcolumn : column ∈ kind.columns) (hnew : column ∉ table.columns) (default : V) :
    ChildCarried history kind { table with
      columns := table.columns ++ [column]
      rows := table.rows.map fun row => Function.update row column default } := by
  refine ⟨fun c hc hversion => mem_append_left _ (h.has c hc hversion), fun c hc => ?_,
    fun c hc => mem_append_left _ (h.kept c hc), ?_⟩
  · obtain hc | hc := mem_append.mp hc
    · exact h.within c hc
    · exact mem_singleton.mp hc ▸ hcolumn
  · rw [forall₂_map_right_iff]
    refine h.rows.imp fun old new hrow c hc => ?_
    have hne : c ≠ column := fun heq => hnew (heq ▸ h.kept c hc)
    rw [Function.update_of_ne hne]
    exact hrow c hc

/-- The two renamings. -/
structure Renames (old new : String) : Prop where
  renamed : renamed old = new
  gone : ∀ c, SessionHistory.renamed c ≠ old
  back : ∀ c, SessionHistory.renamed c = new → c = old ∨ c = new
  absent : old ∉ sessionsColumns

lemma renames_bitrate : Renames "target_bitrate_kbps" "encoder_bitrate_kbps" := by
  refine ⟨by decide, fun c h => ?_, fun c h => ?_, by decide⟩
  · unfold SessionHistory.renamed at h
    split_ifs at h with htarget
    · exact absurd h (by decide)
    · exact absurd h (by decide)
    · exact htarget h
  · unfold SessionHistory.renamed at h
    split_ifs at h with htarget
    · exact .inl htarget
    · exact absurd h (by decide)
    · exact .inr h

lemma renames_requested : Renames "target_requested_bitrate_kbps" "requested_bitrate_kbps" := by
  refine ⟨by decide, fun c h => ?_, fun c h => ?_, by decide⟩
  · unfold SessionHistory.renamed at h
    split_ifs at h with _ htarget
    · exact absurd h (by decide)
    · exact absurd h (by decide)
    · exact htarget h
  · unfold SessionHistory.renamed at h
    split_ifs at h with _ htarget
    · exact absurd h (by decide)
    · exact .inl htarget
    · exact .inr h

lemma mem_renameColumn {columns : List String} {old new c : String} (hc : c ∈ columns)
    (hne : c ≠ old) : c ∈ columns.map fun column => if column = old then new else column :=
  mem_map.mpr ⟨c, hc, if_neg hne⟩

lemma SessionsCarried.renameColumn (h : SessionsCarried history table) {old new : String}
    (hrenames : Renames old new) (hold : old ∈ table.columns) (hnew : new ∉ table.columns)
    (hbitrate : old = "target_bitrate_kbps" ∧ new = "encoder_bitrate_kbps" ∨
      old = "target_requested_bitrate_kbps" ∧ new = "requested_bitrate_kbps") :
    SessionsCarried history { table with
      columns := table.columns.map fun column => if column = old then new else column
      rows := table.rows.map fun row => Function.update row new (row old) } := by
  have hnewMem : new ∈ table.columns.map fun column => if column = old then new else column :=
    mem_map.mpr ⟨old, hold, if_pos rfl⟩
  have hmem : ∀ c, c ≠ old → c ≠ new →
      (c ∈ table.columns.map (fun column => if column = old then new else column) ↔
        c ∈ table.columns) := by
    intro c hne hne'
    refine ⟨fun hc => ?_, fun hc => mem_renameColumn hc hne⟩
    obtain ⟨column, hcolumn, heq⟩ := mem_map.mp hc
    split at heq
    · exact absurd heq.symm hne'
    · exact heq ▸ hcolumn
  -- the value that was under the old name moves, and no other does
  have hplace : ∀ c ∈ history.sessions.columns,
      place (table.columns.map fun column => if column = old then new else column) c = new ∧
          place table.columns c = old ∨
        place (table.columns.map fun column => if column = old then new else column) c =
          place table.columns c ∧ place table.columns c ≠ old := by
    intro c hc
    by_cases hto : SessionHistory.renamed c = new
    · have hcold : c = old := by
        refine (hrenames.back c hto).resolve_right fun heq => hnew ?_
        have hplaced := h.placed c hc
        unfold place at hplaced
        rw [hto, if_neg hnew, heq] at hplaced
        exact hplaced
      refine .inl ⟨?_, ?_⟩
      · unfold place
        rw [hto, if_pos hnewMem]
      · unfold place
        rw [hto, if_neg hnew, hcold]
    · have hcne : c ≠ old := fun heq => hto (heq ▸ hrenames.renamed)
      have hiff := hmem (SessionHistory.renamed c) (hrenames.gone c) hto
      refine .inr ⟨?_, ?_⟩
      · unfold place
        simp only [hiff]
      · unfold place
        split
        · exact hrenames.gone c
        · exact hcne
  refine ⟨fun c hc hversion => ?_, ?_, fun hversion => ?_, fun c hc => ?_, ?_⟩
  · exact mem_renameColumn (h.has c hc hversion) fun heq => hrenames.absent (heq ▸ hc)
  · obtain ⟨rfl, rfl⟩ | ⟨rfl, rfl⟩ := hbitrate
    · exact .inr hnewMem
    · exact h.bitrate.imp (mem_renameColumn · (by decide)) (mem_renameColumn · (by decide))
  · obtain ⟨rfl, rfl⟩ | ⟨rfl, rfl⟩ := hbitrate
    · exact (h.requested hversion).imp (mem_renameColumn · (by decide))
        (mem_renameColumn · (by decide))
    · exact .inr hnewMem
  · dsimp only
    obtain ⟨hplaced, -⟩ | ⟨hplaced, hne⟩ := hplace c hc
    · rw [hplaced]
      exact hnewMem
    · rw [hplaced]
      exact mem_renameColumn (h.placed c hc) hne
  · rw [forall₂_map_right_iff]
    refine h.rows.imp fun row row' hrow c hc => ?_
    dsimp only
    obtain ⟨hplaced, hbefore⟩ | ⟨hplaced, -⟩ := hplace c hc
    · rw [hplaced, Function.update_self, ← hbefore]
      exact hrow c hc
    · have hne : place table.columns c ≠ new := fun heq => hnew (heq ▸ h.placed c hc)
      rw [hplaced, Function.update_of_ne hne]
      exact hrow c hc

end Vibeshine.SessionHistory
