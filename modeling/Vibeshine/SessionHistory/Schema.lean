import Vibeshine.Library.Program

/-! # The schema of the session history

The history database has a table of sessions and two tables of rows that belong to them. At
every start its schema is brought up to date by statements of which each is atomic, and
between any two of which the process may stop. The version number is written last.
-/

namespace Vibeshine.SessionHistory

open Library Program

/-! ## Databases -/

abbrev Row (V : Type) := String → V

structure Table (V : Type) where
  columns : List String
  /-- Its `session_uuid` refers to `sessions(uuid)` with `ON DELETE CASCADE`. -/
  cascade : Bool := false
  rows : List (Row V) := []

structure Database (V : Type) where
  tables : String → Option (Table V)
  userVersion : Nat

/-- The literals of the statements. -/
structure Literals (V : Type) where
  null : V
  zero : V
  minusOne : V

inductive Statement (V : Type) where
  | tableExists (table : String)
  | columns (table : String)
  | hasDeleteCascade (table : String)
  | userVersion
  | pragma (text : String)
  | createTableIfNotExists (table : String) (columns : List String) (cascade : Bool)
  | createTable (table : String) (columns : List String) (cascade : Bool)
  | createIndex (table : String) (columns : List String)
  | addColumn (table column : String) (default : V)
  | renameColumn (table old new : String)
  | renameTable (old new : String)
  | insertSelect (into source : String) (columns : List String)
  | dropTable (table : String)
  | setUserVersion (version : Nat)

abbrev Statement.Reply {V : Type} : Statement V → Type
  | .columns _ => List String
  | .userVersion => Nat
  | _ => Bool

namespace Database

variable {V : Type}

def set (db : Database V) (table : String) (value : Option (Table V)) : Database V :=
  { db with tables := Function.update db.tables table value }

@[simp] lemma set_self (db : Database V) (table : String) (value : Option (Table V)) :
    (db.set table value).tables table = value := Function.update_self _ _ _

@[simp] lemma set_of_ne (db : Database V) {table other : String} (h : other ≠ table)
    (value : Option (Table V)) : (db.set table value).tables other = db.tables other :=
  Function.update_of_ne h _ _

@[simp] lemma set_userVersion (db : Database V) (table : String) (value : Option (Table V)) :
    (db.set table value).userVersion = db.userVersion := rfl

def alter (db : Database V) (table : String) (change : Table V → Option (Table V)) :
    Bool × Database V :=
  match (db.tables table).bind change with
  | none => (false, db)
  | some changed => (true, db.set table (some changed))

variable (literals : Literals V)

def execute (db : Database V) : (statement : Statement V) → statement.Reply × Database V
  | .tableExists table => ((db.tables table).isSome, db)
  | .columns table => (((db.tables table).map Table.columns).getD [], db)
  | .hasDeleteCascade table => (((db.tables table).map Table.cascade).getD false, db)
  | .userVersion => (db.userVersion, db)
  | .pragma _ => (true, db)
  | .createTableIfNotExists table columns cascade =>
    match db.tables table with
    | some _ => (true, db)
    | none => (true, db.set table (some { columns, cascade }))
  | .createTable table columns cascade =>
    match db.tables table with
    | some _ => (false, db)
    | none => (true, db.set table (some { columns, cascade }))
  -- an index holds nothing that its table does not
  | .createIndex table columns =>
    match db.tables table with
    | some found => (columns.all (· ∈ found.columns), db)
    | none => (false, db)
  | .addColumn table column default =>
    db.alter table fun found =>
      if column ∈ found.columns then none
      else some { found with
        columns := found.columns ++ [column]
        rows := found.rows.map fun row => Function.update row column default }
  | .renameColumn table old new =>
    db.alter table fun found =>
      if old ∈ found.columns ∧ new ∉ found.columns then
        some { found with
          columns := found.columns.map fun column => if column = old then new else column
          rows := found.rows.map fun row => Function.update row new (row old) }
      else none
  | .renameTable old new =>
    match db.tables old, db.tables new with
    | some found, none => (true, (db.set old none).set new (some found))
    | _, _ => (false, db)
  -- ids are unique: what is copied must find no rows there
  | .insertSelect into source columns =>
    match db.tables into, db.tables source with
    | some target, some found =>
      if (columns.all fun column => column ∈ target.columns ∧ column ∈ found.columns) &&
          target.rows.isEmpty then
        (true, db.set into (some { target with
          rows := found.rows.map fun row column =>
            if column ∈ columns then row column else literals.null }))
      else (false, db)
    | _, _ => (false, db)
  | .dropTable table =>
    match db.tables table with
    | some _ => (true, db.set table none)
    | none => (false, db)
  | .setUserVersion version => (true, { db with userVersion := version })

section

variable {literals : Literals V} {db : Database V} {table : String} {found : Table V}
  {columns : List String} {cascade : Bool}

lemma execute_createTableIfNotExists (h : db.tables table = some found) :
    db.execute literals (.createTableIfNotExists table columns cascade) = (true, db) := by
  simp only [execute, h]

lemma execute_createTable (h : db.tables table = none) :
    db.execute literals (.createTable table columns cascade) =
      (true, db.set table (some { columns, cascade })) := by
  simp only [execute, h]

lemma execute_createIndex (h : db.tables table = some found)
    (hcolumns : ∀ c ∈ columns, c ∈ found.columns) :
    db.execute literals (.createIndex table columns) = (true, db) := by
  have hall : columns.all (fun c => decide (c ∈ found.columns)) = true := by simpa using hcolumns
  simp only [execute, h, hall]

lemma execute_renameTable {old new : String} (hold : db.tables old = some found)
    (hnew : db.tables new = none) : db.execute literals (.renameTable old new) =
      (true, (db.set old none).set new (some found)) := by
  simp only [execute, hold, hnew]

lemma execute_insertSelect {into source : String} {target : Table V}
    (hinto : db.tables into = some target) (hsource : db.tables source = some found)
    (hcolumns : ∀ c ∈ columns, c ∈ target.columns ∧ c ∈ found.columns) (hrows : target.rows = []) :
    db.execute literals (.insertSelect into source columns) = (true, db.set into (some { target with
        rows := found.rows.map fun row column =>
          if column ∈ columns then row column else literals.null })) := by
  have hall : (columns.all fun c => decide (c ∈ target.columns ∧ c ∈ found.columns)) = true :=
    List.all_eq_true.mpr fun c hc => decide_eq_true (hcolumns c hc)
  simp only [execute, hinto, hsource, hall, hrows, List.isEmpty_nil, Bool.and_self, if_true]

lemma execute_dropTable (h : db.tables table = some found) :
    db.execute literals (.dropTable table) = (true, db.set table none) := by
  simp only [execute, h]

end

def Executes (db : Database V) (statement : Statement V) (reply : statement.Reply)
    (after : Database V) : Prop :=
  db.execute literals statement = (reply, after)

end Database

def sessionsColumns : List String :=
  ["uuid", "protocol", "client_name", "device_name", "app_name", "width", "height", "target_fps",
    "encoder_bitrate_kbps", "requested_bitrate_kbps", "codec", "hdr", "yuv444", "audio_channels",
    "start_time_unix", "end_time_unix", "duration_seconds", "verdict", "server_version",
    "host_cpu_model", "host_gpu_model", "stream_gpu_model"]

inductive Child where
  | samples
  | events
  deriving DecidableEq

namespace Child

def table : Child → String
  | .samples => "samples"
  | .events => "events"

def legacy : Child → String
  | .samples => "samples_legacy_no_cascade"
  | .events => "events_legacy_no_cascade"

def columns : Child → List String
  | .samples =>
    ["id", "session_uuid", "timestamp_unix", "bytes_sent_total", "packets_sent_video",
      "frames_sent", "last_frame_index", "video_dropped", "audio_dropped",
      "client_reported_losses", "idr_requests", "ref_invalidations", "encode_latency_ms",
      "actual_fps", "actual_bitrate_kbps", "frame_interval_jitter_ms", "host_cpu_percent",
      "host_gpu_percent", "host_gpu_encoder_percent", "host_ram_percent", "host_vram_percent",
      "host_cpu_temp_c", "host_gpu_temp_c", "host_net_rx_bps", "host_net_tx_bps"]
  | .events => ["id", "session_uuid", "timestamp_unix", "event_type", "payload"]

end Child

/-! ## The migration -/

section

variable {V : Type} (literals : Literals V)

abbrev Migration (V α : Type) := Program (Statement V) Statement.Reply α

def query (statement : Statement V) : Migration V statement.Reply := Program.request statement

def allOf : List (Migration V Bool) → Migration V Bool
  | [] => pure true
  | step :: steps => do
      let ok ← step
      if ok then allOf steps else pure false

def childIndexes (child : Child) : List (Migration V Bool) :=
  [query (.createIndex child.table ["session_uuid"]),
    query (.createIndex child.table ["session_uuid", "timestamp_unix"])]

def schemaSql : Migration V Bool :=
  allOf ([query (.pragma "journal_mode = WAL"), query (.pragma "synchronous = NORMAL"),
      query (.createTableIfNotExists "sessions" sessionsColumns false),
      query (.createTableIfNotExists Child.samples.table Child.samples.columns true)] ++
    childIndexes .samples ++
    [query (.createTableIfNotExists Child.events.table Child.events.columns true)] ++
    childIndexes .events ++
    [query (.createIndex "sessions" ["end_time_unix"])])

def addColumn (table column : String) (default : V) : Migration V Bool := do
  let columns ← query (.columns table)
  if column ∈ columns then pure true else query (.addColumn table column default)

def renameColumn (table oldName newName : String) : Migration V Bool := do
  let columns ← query (.columns table)
  if oldName ∉ columns ∨ newName ∈ columns then pure true
  else query (.renameColumn table oldName newName)

def rebuildChildTableWithCascade (child : Child) : Migration V Bool := do
  let off ← query (.pragma "foreign_keys = OFF")
  if off then
    let ok ← allOf ([query (.renameTable child.table child.legacy),
        query (.createTable child.table child.columns true),
        query (.insertSelect child.table child.legacy child.columns),
        query (.dropTable child.legacy)] ++
      childIndexes child ++ [query (.pragma "foreign_keys = ON")])
    let _ ← query (.pragma "foreign_keys = ON")
    pure ok
  else pure false

def when (condition : Bool) (step : Migration V Bool) : Migration V Bool :=
  if condition then step else pure true

def hostMetrics : List String :=
  ["host_cpu_percent", "host_gpu_percent", "host_gpu_encoder_percent", "host_ram_percent",
    "host_vram_percent", "host_cpu_temp_c", "host_gpu_temp_c", "host_net_rx_bps",
    "host_net_tx_bps"]

def rebuildTables (currentVersion : Nat) : Migration V Bool := do
  let samples ← query (.hasDeleteCascade Child.samples.table)
  let events ← query (.hasDeleteCascade Child.events.table)
  when (currentVersion < 7 || !samples || !events)
    (allOf [rebuildChildTableWithCascade .samples, rebuildChildTableWithCascade .events])

def migrateFrom (currentVersion : Nat) : Migration V Bool :=
  allOf [
    when (currentVersion < 2)
      (addColumn "sessions" "target_requested_bitrate_kbps" literals.null),
    when (currentVersion < 3)
      (allOf ([addColumn "sessions" "host_cpu_model" literals.null,
          addColumn "sessions" "host_gpu_model" literals.null] ++
        hostMetrics.map fun column => addColumn Child.samples.table column literals.minusOne)),
    when (currentVersion < 4)
      (allOf [addColumn "sessions" "yuv444" literals.zero,
        addColumn "sessions" "server_version" literals.null]),
    when (currentVersion < 5) (addColumn "sessions" "stream_gpu_model" literals.null),
    when (currentVersion < 6)
      (allOf [renameColumn "sessions" "target_bitrate_kbps" "encoder_bitrate_kbps",
        renameColumn "sessions" "target_requested_bitrate_kbps" "requested_bitrate_kbps"]),
    rebuildTables currentVersion]

def hadExistingHistoryTables : Migration V Bool := do
  let sessions ← query (.tableExists "sessions")
  if sessions then pure true
  else
    let samples ← query (.tableExists Child.samples.table)
    if samples then pure true else query (.tableExists Child.events.table)

def applySchemaAndMigrations (schemaVersion : Nat) : Migration V Bool := do
  let had ← hadExistingHistoryTables
  let created ← schemaSql
  if created then
    if had then
      let currentVersion ← query .userVersion
      allOf [migrateFrom literals currentVersion, query (.setUserVersion schemaVersion)]
    else query (.setUserVersion schemaVersion)
  else pure false

end

end Vibeshine.SessionHistory
