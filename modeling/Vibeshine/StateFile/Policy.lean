import Vibeshine.Library.Program
import Vibeshine.StateFile.Tree

/-! # Recovery and write policy of the state files

The functions of the policy reach their files by callbacks only. Each is a program that
makes its reads and writes and goes on with whatever the callbacks return. Every state file
has a backup beside it.
-/

namespace Vibeshine.StateFile

open Library

inductive ReadStatus where
  | loaded | missing | failed
  deriving DecidableEq

structure ReadResult where
  status : ReadStatus
  contents : String
  deriving DecidableEq

inductive LoadResult where
  | loaded | missing | corrupt | failed
  deriving DecidableEq

inductive Request where
  | read (path : String)
  | write (path contents : String)
  deriving DecidableEq

@[reducible] def Request.Reply : Request → Type
  | .read _ => ReadResult
  | .write _ _ => Bool

abbrev StorageProgram := Program Request Request.Reply

/-- `read_file_t`, nothing when it is empty. -/
abbrev ReadFile := Option (String → StorageProgram ReadResult)

/-- `write_file_t`, nothing when it is empty. -/
abbrev WriteFile := Option (String → String → StorageProgram Bool)

def readFile (present : Bool) : ReadFile :=
  if present then some fun path => Program.request (Request.read path) else none

def writeFile (present : Bool) : WriteFile :=
  if present then some fun path contents => Program.request (Request.write path contents)
  else none

def backupPath (path : String) : String := path ++ ".bak"

def byteOrderMark : List Char := ['\u00ef', '\u00bb', '\u00bf']

variable (contents : String)

def withoutByteOrderMark : String :=
  if byteOrderMark.isPrefixOf contents.toList then String.ofList (contents.toList.drop 3)
  else contents

def isBlank : Bool :=
  contents.toList.all fun c => c ∈ [' ', '\t', '\r', '\n', '\x0c', '\x0b']

namespace TreeLibrary

variable (lib : TreeLibrary)

def parsesAsJson (contents : String) : Bool := (lib.readJson contents).isSome

/-- What `load_json_for_read` makes of the outcome of the read. -/
def loadContents (result : ReadResult) : LoadResult × PTree :=
  match result.status with
  | .missing => (.missing, .empty)
  | .failed => (.failed, .empty)
  | .loaded =>
    let contents := withoutByteOrderMark result.contents
    if isBlank contents then (.corrupt, .empty)
    else match lib.readJson contents with
      | some tree => (.loaded, tree)
      | none => (.corrupt, .empty)

variable (path : String)

def loadJsonForRead : ReadFile → StorageProgram (LoadResult × PTree)
  | none => pure (.failed, .empty)
  | some read =>
    if path = "" then pure (.failed, .empty)
    else do
      let result ← read path
      pure (lib.loadContents result)

def writeJsonAtomic (tree : PTree) : WriteFile → ReadFile → StorageProgram (Except String Unit)
  | some write, some read =>
    if path = "" then pure (.error "atomic JSON write path is empty")
    else match lib.writeJson tree with
      | none => pure (.error "write_json")
      | some contents =>
        if !lib.parsesAsJson contents then pure (.error "refusing to write malformed JSON")
        else do
          let succeeded ← write path contents
          if !succeeded then pure (.error "atomic JSON write failed")
          else do
            let written ← read path
            if written.status ≠ .loaded ∨ !lib.parsesAsJson written.contents then
              pure (.error "atomic JSON write verification failed")
            else pure (.ok ())
  | _, _ =>
    if path = "" then pure (.error "atomic JSON write path is empty")
    else pure (.error "atomic JSON storage operations are unavailable")

def writeVibeshineState (tree : PTree) (write : WriteFile) (read : ReadFile) :
    StorageProgram (Except String Unit) :=
  if !lib.validVibeshineTree tree then
    pure (.error "refusing to write invalid auxiliary state")
  else do
    match ← lib.writeJsonAtomic path tree write read with
    | .error what => pure (.error what)
    | .ok () => lib.writeJsonAtomic (backupPath path) tree write read

def loadVibeshineState (read : ReadFile) (write : WriteFile) :
    StorageProgram (LoadResult × PTree) := do
  let (primary, tree) ← lib.loadJsonForRead path read
  if primary = .failed then pure (.failed, tree)
  else do
    let (backup, backupTree) ← lib.loadJsonForRead (backupPath path) read
    if primary = .loaded ∧ lib.validVibeshineTree tree then
      if (backup ≠ .loaded ∨ tree ≠ backupTree) ∧ backup ≠ .failed then do
        -- whatever comes of it, the valid primary remains usable
        let _ ← lib.writeJsonAtomic (backupPath path) tree write read
        pure (.loaded, tree)
      else pure (.loaded, tree)
    else if primary = .missing ∧ backup = .missing then pure (.missing, .empty)
    else if backup ≠ .loaded ∨ !lib.validVibeshineTree backupTree then pure (.failed, .empty)
    else do
      match ← lib.writeJsonAtomic path backupTree write read with
      | .error _ => pure (.failed, .empty)
      | .ok () => pure (.loaded, backupTree)

/-! ## The primary state -/

/-- `primary_diagnostic_t`, nothing when it is empty. -/
abbrev PrimaryDiagnostic := Option (PTree → String)

variable (tree : PTree)

def describe (diagnostic : PrimaryDiagnostic) (snapshot : PTree) : LoadResult → String
  | .loaded =>
    match diagnostic with
    | none => "invalid pairing snapshot"
    | some diagnose =>
      let reason := diagnose snapshot
      if reason ≠ "" then reason else "invalid pairing snapshot"
  | .missing => "missing"
  | .corrupt => "blank or malformed JSON"
  | .failed => "inspection or read failed"

/-- What `load_primary_state_for_update` leaves behind. -/
structure PrimaryLoad where
  result : LoadResult
  tree : PTree
  failureReason : String

def PrimaryLoad.fail (reason : String) : PrimaryLoad := ⟨.failed, .empty, reason⟩

end TreeLibrary

end Vibeshine.StateFile
