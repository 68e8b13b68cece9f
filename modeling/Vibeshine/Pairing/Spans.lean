import Vibeshine.Library.JsonText
import Vibeshine.StateFile.Policy

/-! # Text ranges of a pairing snapshot

Pairing recovery edits the text of a snapshot in place. A scanner that looks at quotes and
brackets only finds where a value ends, and with it the members of an object and the
records of the named clients. It agrees with the grammar on every text that has been parsed.
-/

namespace Vibeshine.Pairing

open Library Library.JsonText
open Library.Json (isBlank Delimited)
open StateFile (byteOrderMark)

inductive RecoveryError where
  | recovery (message : String)
  | library
  deriving DecidableEq

def require (condition : Bool) (message : String) : Except RecoveryError Unit :=
  if condition then .ok () else .error (.recovery message)

structure Span where
  start : Nat
  stop : Nat
  deriving DecidableEq

variable (bytes : List Char)

/-- `substr` of a range. -/
def slice (span : Span) : List Char :=
  (bytes.drop span.start).take (span.stop - span.start)

/-- What is used of the JSON library. -/
structure JsonLibrary (σ : Type) where
  lexicon : Lexicon σ
  /-- `json::parse`, with the members of objects as its callback sees them -/
  parse : List Char → Option (JsonTree σ)
  /-- `operator==` of documents -/
  same : JsonTree σ → JsonTree σ → Bool

namespace JsonLibrary

variable {σ : Type} (lib : JsonLibrary σ)

/-- The parser accepts the texts of the grammar, after a byte order mark too, and a document
equals itself. -/
structure Lawful : Prop where
  parse : ∀ {text tree}, lib.parse text = some tree ↔ Reads lib.lexicon byteOrderMark text tree
  same : ∀ document, lib.same document document

def parseSnapshot (bytes : List Char) : Except RecoveryError (JsonTree σ) :=
  match lib.parse bytes with
  | some tree =>
    if tree.depth ≤ 32 ∧ tree.Distinct then .ok tree.document
    else .error (.recovery "Snapshot is not unambiguous, bounded JSON.")
  | none => .error (.recovery "Snapshot is not unambiguous, bounded JSON.")

end JsonLibrary

/-! ## The scanner -/

def skipSpace (offset : Nat) : Except RecoveryError Nat :=
  match (bytes.drop offset).findIdx? fun c => !isBlank c with
  | some next => .ok (offset + next)
  | none => .error (.recovery "Unexpected end of the snapshot.")

/-- The loop of `value_span`: how many characters there are up to the end of the value. -/
def valueLength : (quoted : Bool) → (nesting : Nat) → List Char → Nat
  | _, _, [] => 0
  | true, _, ['\\'] => 1
  | true, nesting, '\\' :: _ :: text => 2 + valueLength true nesting text
  | true, nesting, c :: text =>
    if c = '"' then
      if nesting = 0 then 1 else 1 + valueLength false nesting text
    else 1 + valueLength true nesting text
  | false, nesting, c :: text =>
    if c = '"' then 1 + valueLength true nesting text
    else if c = '[' ∨ c = '{' then 1 + valueLength false (nesting + 1) text
    else if c = ']' ∨ c = '}' then
      if nesting = 0 then 0
      else if nesting - 1 = 0 then 1
      else 1 + valueLength false (nesting - 1) text
    else if nesting = 0 ∧ (c = ',' ∨ isBlank c) then 0
    else 1 + valueLength false nesting text

def valueSpan (offset : Nat) : Except RecoveryError Span := do
  let start ← skipSpace bytes offset
  pure { start, stop := start + valueLength false 0 (bytes.drop start) }

namespace JsonLibrary

variable {σ : Type} (lib : JsonLibrary σ)

/-- The loop of `member_span`. Every member passes a colon, so that there are no more
members than characters. -/
def memberLoop (bytes : List Char) (stop : Nat) (name : String) :
    (fuel offset : Nat) → Except RecoveryError Span
  | 0, _ => .error (.recovery "Missing named-client state boundary.")
  | fuel + 1, offset => do
      let offset ← skipSpace bytes offset
      if offset < stop ∧ bytes[offset]? ≠ some '}' then
        let key ← valueSpan bytes offset
        let colon ← skipSpace bytes key.stop
        require (bytes[colon]? = some ':') "Invalid object boundary in the snapshot."
        let value ← valueSpan bytes (colon + 1)
        match lib.parse (slice bytes key) with
        | some (.string found) =>
          if found = name then pure value
          else do
            let next ← skipSpace bytes value.stop
            memberLoop bytes stop name fuel (if bytes[next]? = some ',' then next + 1 else next)
        | _ => .error .library
      else .error (.recovery "Missing named-client state boundary.")

def memberSpan (bytes : List Char) (object : Span) (name : String) : Except RecoveryError Span :=
  lib.memberLoop bytes object.stop name (bytes.length + 1) (object.start + 1)

end JsonLibrary

/-- The loop of `named_record_spans`. A record that has been parsed is not empty. -/
def recordLoop (bytes : List Char) (stop : Nat) :
    (fuel offset : Nat) → Except RecoveryError (List Span)
  | 0, _ => .error (.recovery "Could not identify named-client state boundaries.")
  | fuel + 1, offset => do
      let offset ← skipSpace bytes offset
      if offset < stop ∧ bytes[offset]? ≠ some ']' then
        let value ← valueSpan bytes offset
        let next ← skipSpace bytes value.stop
        let spans ← recordLoop bytes stop fuel (if bytes[next]? = some ',' then next + 1 else next)
        pure (value :: spans)
      else pure []

def markLength : Nat := if byteOrderMark.isPrefixOf bytes then 3 else 0

namespace JsonLibrary

variable {σ : Type} (lib : JsonLibrary σ)

def namedRecordSpans (bytes : List Char) : Except RecoveryError (List Span) := do
  let document ← valueSpan bytes (markLength bytes)
  let root ← lib.memberSpan bytes document "root"
  let named ← lib.memberSpan bytes root "named_devices"
  recordLoop bytes named.stop (bytes.length + 1) (named.start + 1)

end JsonLibrary

end Vibeshine.Pairing
