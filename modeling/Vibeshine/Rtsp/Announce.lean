import Vibeshine.Library.Scan
import Mathlib.Data.List.TakeWhile

/-! # The body of an announcement

`cmd_announce` cuts the body into lines and collects the attributes. Only a line that is ended is
kept, and a line without a colon is kept under all that follows its type.
-/

namespace Vibeshine.Rtsp

open List

open Library.Scan (cut)

abbrev Text := List Char

def whitespace (ch : Char) : Bool := ch = '\n' || ch = '\r'

/-- The lines that are ended, from the characters of the current one. There is none while line ends
are skipped. -/
def splitLines : Option Text → Text → List Text
  | _, [] => []
  | none, ch :: payload =>
    if whitespace ch then splitLines none payload else splitLines (some [ch]) payload
  | some line, ch :: payload =>
    if whitespace ch then line :: splitLines none payload
    else splitLines (some (line ++ [ch])) payload

structure Announced where
  client : Text := []
  /-- The first entry of a name counts. -/
  args : List (Text × Text) := []

/-- The index of the last character wraps at an empty value, which follows the colon of its line:
that colon is what is read. -/
def trimmed (val : Text) : Text := if val.getLastD ':' = ' ' then val.dropLast else val

def entry (line : Text) : Option (Text × Text) :=
  match line with
  -- Without a colon `npos - 2` takes the rest, and `npos + 1` is the start of the line.
  | 'a' :: '=' :: rest => some ((cut (· = ':') rest).getD (rest, line))
  | _ => none

def readLine (s : Announced) (line : Text) : Announced :=
  match line, entry line with
  | 's' :: '=' :: client, _ => { s with client := client }
  | _, some (name, val) => { s with args := s.args ++ [(name, trimmed val)] }
  | _, none => s

def announced (payload : Text) : Announced :=
  (splitLines (some []) payload).foldl readLine {}

def bodyLines (payload : Text) : List Text := payload.splitOnP whitespace

def ended (payload : Text) : List Text := (bodyLines payload).dropLast

end Vibeshine.Rtsp
