import Mathlib.Data.Nat.Digits.Lemmas
import Mathlib.Tactic.Common

/-! # Hexadecimal texts

Bytes are written as pairs of digits, and read from the end of a text, two digits at a time. A last
digit that is left over is not read, and the size of the value is not compared with the digits.
-/

namespace Vibeshine.ConfigFile

open List

/-- `_bits`, the digit of a number below 16. -/
def hexBit (n : Nat) : Char :=
  ['0', '1', '2', '3', '4', '5', '6', '7', '8', '9', 'A', 'B', 'C', 'D', 'E', 'F'].getD n '0'

def hexVec (x : List UInt8) (rev : Bool) : List Char :=
  (if rev then x else x.reverse).flatMap fun b => [hexBit (b.toNat / 16), hexBit (b.toNat % 16)]

def isConvertable (ch : Char) : Bool :=
  ch.isDigit || (97 ≤ ch.toNat ||| 32 && ch.toNat ||| 32 ≤ 122)

def convert (ch : Char) : Nat := if ch.isDigit then ch.toNat - 48 else (ch.toNat ||| 32) - 97 + 10

def nextDigit (data : List Char) : Option (Nat × List Char) :=
  match data.dropWhile fun ch => !isConvertable ch with
  | [] => none
  | ch :: data => some (convert ch, data)

/-- The bytes that are read from the end, of which the last character comes first here. There are
none when the front of the text is passed. -/
def nextBytes : Nat → List Char → Option (List UInt8)
  | 0, _ => some []
  | n + 1, data => do
    let (right, data) ← nextDigit data
    let (left, data) ← nextDigit data
    let rest ← nextBytes n data
    some (UInt8.ofNat (left <<< 4 ||| right) :: rest)

def bufSize (hex : List Char) : Nat := hex.countP isConvertable / 2

/-- `from_hex` into a value of `size` bytes, where nothing is written behind the buffer. -/
def fromHex (size : Nat) (hex : List Char) (rev : Bool) : Option (List UInt8) :=
  if bufSize hex ≤ size then
    (nextBytes (bufSize hex) hex.reverse).map fun bytes =>
      let buf := bytes ++ List.replicate (size - bufSize hex) 0
      if rev then buf.reverse else buf
  else none

def fromHexVec (hex : List Char) (rev : Bool) : Option (List UInt8) :=
  (nextBytes (bufSize hex) hex.reverse).map fun buf => if rev then buf.reverse else buf

/-- `util::from_view`, whose digits are not checked. -/
def fromView : List Char → Int
  | [] => 0
  | first :: rest =>
    let res := rest.foldl (fun (res : Int) ch => 10 * res + (ch.toNat - 48)) 0
    if first ≠ '-' then res + (first.toNat - 48) * 10 ^ rest.length else -res

/-- The `int` that `int_f` stores, as its residue. -/
def intF (val : List Char) : Option Nat :=
  let val := if 2 ≤ val.length ∧ val.head? = some '"' then (val.drop 1).take (val.length - 2) else val
  if val.take 2 = ['0', 'x'] then
    (fromHex 4 (val.drop 2) false).map fun buf => Nat.ofDigits 256 (buf.map UInt8.toNat)
  else some (fromView val % 2 ^ 32).toNat

def hexDigits : List Char :=
  ['0', '1', '2', '3', '4', '5', '6', '7', '8', '9', 'A', 'B', 'C', 'D', 'E', 'F', 'a', 'b', 'c', 'd',
    'e', 'f']

def denoted (digits : List Char) : Nat := Nat.ofDigits 16 (digits.reverse.map convert)

lemma hexDigit_spec : ∀ ch ∈ hexDigits, isConvertable ch = true ∧ convert ch < 16 ∧
    hexBit (convert ch) = ch.toUpper ∧ (convert ch = 0 ↔ ch = '0') := by
  simp only [hexDigits, forall_mem_cons]
  simp [isConvertable, convert, hexBit]

lemma hexBit_spec : ∀ n < 16, hexBit n ∈ hexDigits ∧ convert (hexBit n) = n := by decide

lemma nextBytes_succ {n left right : Nat} {data data' data'' : List Char}
    (hright : nextDigit data = some (right, data')) (hleft : nextDigit data' = some (left, data'')) :
    nextBytes (n + 1) data =
      (nextBytes n data'').map fun rest => UInt8.ofNat (left <<< 4 ||| right) :: rest := by
  simp only [nextBytes, hright, hleft, Option.bind_eq_bind, Option.bind_some]
  cases nextBytes n data'' <;> rfl

lemma nextDigit_cons {ch : Char} (h : ch ∈ hexDigits) (data : List Char) :
    nextDigit (ch :: data) = some (convert ch, data) := by
  simp [nextDigit, (hexDigit_spec ch h).1]

lemma countP_hexDigits {hex : List Char} (h : ∀ ch ∈ hex, ch ∈ hexDigits) :
    bufSize hex = hex.length / 2 := by
  rw [bufSize, countP_eq_length.mpr fun ch hch => (hexDigit_spec ch (h ch hch)).1]

/-! ## Reading -/

lemma nextDigit_some (data : List Char) (h : 0 < data.countP isConvertable) :
    ∃ digit rest, nextDigit data = some (digit, rest) ∧
      data.countP isConvertable = rest.countP isConvertable + 1 := by
  induction data with
  | nil => simp at h
  | cons ch data ih =>
    cases hch : isConvertable ch with
    | true => exact ⟨convert ch, data, by simp [nextDigit, hch], by simp [hch]⟩
    | false =>
      rw [countP_cons_of_neg (by simp [hch])] at h ⊢
      obtain ⟨digit, rest, hdigit, hcount⟩ := ih h
      exact ⟨digit, rest, by simpa [nextDigit, hch] using hdigit, hcount⟩

lemma nextBytes_some (n : Nat) (data : List Char) (h : 2 * n ≤ data.countP isConvertable) :
    ∃ bytes, nextBytes n data = some bytes := by
  induction n generalizing data with
  | zero => exact ⟨[], rfl⟩
  | succ n ih =>
    obtain ⟨right, data', hright, hcount⟩ := nextDigit_some data (by omega)
    obtain ⟨left, data'', hleft, hcount'⟩ := nextDigit_some data' (by omega)
    obtain ⟨bytes, hbytes⟩ := ih data'' (by omega)
    exact ⟨_, (nextBytes_succ hright hleft).trans (congrArg _ hbytes)⟩

/-- What is read is what would be written, and has the value of the digits. -/
lemma nextBytes_digits (n : Nat) (data extra : List Char) (h : ∀ ch ∈ data, ch ∈ hexDigits)
    (hlength : data.length = 2 * n) : ∃ bytes, nextBytes n (data ++ extra) = some bytes ∧
      bytes.flatMap (fun b => [hexBit (b.toNat % 16), hexBit (b.toNat / 16)]) = data.map Char.toUpper ∧
      Nat.ofDigits 256 (bytes.map UInt8.toNat) = Nat.ofDigits 16 (data.map convert) := by
  induction n generalizing data with
  | zero =>
    obtain rfl : data = [] := by simpa using hlength
    exact ⟨[], rfl, rfl, rfl⟩
  | succ n ih =>
    obtain ⟨right, left, data, rfl⟩ : ∃ right left rest, data = right :: left :: rest := by
      match data, hlength with
      | right :: left :: rest, _ => exact ⟨right, left, rest, rfl⟩
    simp only [forall_mem_cons] at h
    obtain ⟨hright, hleft, hrest⟩ := h
    obtain ⟨bytes, hbytes, htext, hvalue⟩ := ih data hrest (by simp at hlength; omega)
    obtain ⟨-, hlow, hlowBit, -⟩ := hexDigit_spec right hright
    obtain ⟨-, hhigh, hhighBit, -⟩ := hexDigit_spec left hleft
    have hbyte : (UInt8.ofNat (convert left <<< 4 ||| convert right)).toNat =
        16 * convert left + convert right := by
      rw [← Nat.shiftLeft_add_eq_or_of_lt (by omega), Nat.shiftLeft_eq, UInt8.toNat_ofNat']
      omega
    refine ⟨_, (nextBytes_succ (nextDigit_cons hright _) (nextDigit_cons hleft _)).trans
      (congrArg _ hbytes), ?_, ?_⟩
    · rw [flatMap_cons, htext, hbyte, Nat.mul_add_mod, Nat.mod_eq_of_lt hlow, hlowBit,
        Nat.mul_add_div (by decide), Nat.div_eq_of_lt hlow, Nat.add_zero, hhighBit]
      rfl
    · simp only [map_cons, Nat.ofDigits_cons, hbyte, hvalue]
      omega

lemma nextBytes_written (x : List UInt8) :
    nextBytes x.length (x.flatMap fun b => [hexBit (b.toNat % 16), hexBit (b.toNat / 16)]) = some x := by
  induction x with
  | nil => rfl
  | cons b x ih =>
    have hb := b.toNat_lt
    obtain ⟨hlow, hlowDigit⟩ := hexBit_spec (b.toNat % 16) (by omega)
    obtain ⟨hhigh, hhighDigit⟩ := hexBit_spec (b.toNat / 16) (by omega)
    have hbyte : UInt8.ofNat ((b.toNat / 16) <<< 4 ||| b.toNat % 16) = b := by
      rw [← Nat.shiftLeft_add_eq_or_of_lt (by omega), Nat.shiftLeft_eq]
      rw [show b.toNat / 16 * 2 ^ 4 + b.toNat % 16 = b.toNat by omega]
      exact UInt8.ofNat_toNat
    rw [flatMap_cons, length_cons]
    refine (nextBytes_succ (nextDigit_cons hlow _) (nextDigit_cons hhigh _)).trans ?_
    rw [hlowDigit, hhighDigit, hbyte]
    exact congrArg _ ih

lemma fromHexVec_written (x : List UInt8) (rev : Bool) : fromHexVec (hexVec x rev) rev = some x := by
  have hdigits : ∀ ch ∈ hexVec x rev, ch ∈ hexDigits := by
    intro ch hch
    obtain ⟨b, -, hb⟩ := mem_flatMap.mp hch
    have hlt := b.toNat_lt
    rcases mem_pair.mp hb with rfl | rfl
    · exact (hexBit_spec _ (by omega)).1
    · exact (hexBit_spec _ (by omega)).1
  have hlength : (hexVec x rev).length / 2 = x.length := by
    cases rev <;> simp [hexVec, length_flatMap]
  have hreverse : (hexVec x rev).reverse =
      (if rev then x.reverse else x).flatMap fun b => [hexBit (b.toNat % 16), hexBit (b.toNat / 16)] := by
    cases rev <;> simp [hexVec, reverse_flatMap, Function.comp_def]
  rw [fromHexVec, countP_hexDigits hdigits, hlength, hreverse]
  cases rev
  · exact congrArg _ (nextBytes_written x)
  · have hx := nextBytes_written x.reverse
    rw [length_reverse] at hx
    simp [hx]

lemma hexVec_read {s : List Char} (hs : ∀ ch ∈ s, ch ∈ hexDigits) (heven : s.length % 2 = 0)
    (rev : Bool) : (fromHexVec s rev).map (hexVec · rev) = some (s.map Char.toUpper) := by
  obtain ⟨bytes, hbytes, htext, -⟩ := nextBytes_digits (s.length / 2) s.reverse []
    (by simpa using hs) (by rw [length_reverse]; omega)
  rw [append_nil] at hbytes
  have hpairs := congrArg reverse htext
  rw [← map_reverse, reverse_reverse] at hpairs
  rw [fromHexVec, countP_hexDigits hs, hbytes, ← hpairs]
  cases rev <;> simp [hexVec, reverse_flatMap, Function.comp_def]

/-! ## Configuration values -/

lemma intF_digits {digits : List Char} (hdigits : ∀ ch ∈ digits, ch ∈ hexDigits)
    (hlength : digits.length ≤ 8) :
    intF (['0', 'x'] ++ digits) = some (denoted (digits.drop (digits.length % 2))) := by
  obtain ⟨bytes, hbytes, -, hvalue⟩ := nextBytes_digits (digits.length / 2)
    (digits.drop (digits.length % 2)).reverse (digits.take (digits.length % 2)).reverse
    (fun ch hch => hdigits ch (mem_of_mem_drop (mem_reverse.mp hch)))
    (by rw [length_reverse, length_drop]; omega)
  rw [← reverse_append, take_append_drop] at hbytes
  have hsize := countP_hexDigits hdigits
  have hval : intF (['0', 'x'] ++ digits) =
      (fromHex 4 digits false).map fun buf => Nat.ofDigits 256 (buf.map UInt8.toNat) := rfl
  rw [hval, fromHex, if_pos (by omega), hsize, hbytes]
  simp only [Option.map_some, Bool.false_eq_true, if_false, map_append, map_replicate,
    UInt8.toNat_zero, Nat.ofDigits_append_replicate_zero, hvalue]
  rfl

lemma intF_quoted (digits : List Char) :
    intF ('"' :: (['0', 'x'] ++ digits) ++ ['"']) = intF (['0', 'x'] ++ digits) := by
  simp [intF]

/-- Hexadecimal conversions: a value is read in bounds if and only if it has room for the pairs of
digits; a configuration value of up to eight digits is the number that they denote if and only if
they are even in number or begin with 0; bytes survive being written and read, and digits survive
being read and written. -/
theorem hex_conversions (size : Nat) (rev : Bool) :
    (∀ hex, (fromHex size hex rev).isSome ↔ hex.countP isConvertable / 2 ≤ size) ∧
      (∀ digits : List Char, digits ≠ [] → digits.length ≤ 8 → (∀ ch ∈ digits, ch ∈ hexDigits) →
        ∀ val ∈ [['0', 'x'] ++ digits, '"' :: (['0', 'x'] ++ digits) ++ ['"']],
          (intF val = some (denoted digits % 2 ^ 32) ↔
            digits.length % 2 = 0 ∨ digits.head? = some '0')) ∧
      (∀ x, x ≠ [] → fromHexVec (hexVec x rev) rev = some x) ∧
      ∀ s, s ≠ [] → (∀ ch ∈ s, ch ∈ hexDigits) → s.length % 2 = 0 →
        (fromHexVec s rev).map (hexVec · rev) = some (s.map Char.toUpper) := by
  refine ⟨fun hex => ?_, fun digits hne hlength hdigits val hval => ?_,
    fun x _ => fromHexVec_written x rev, fun s _ hs heven => hexVec_read hs heven rev⟩
  · obtain ⟨bytes, hbytes⟩ := nextBytes_some (bufSize hex) hex.reverse (by
      rw [countP_reverse, bufSize]
      omega)
    rw [← bufSize, fromHex, hbytes]
    split <;> simp [*]
  · have hread : intF val = some (denoted (digits.drop (digits.length % 2))) := by
      rcases mem_pair.mp hval with rfl | rfl
      · exact intF_digits hdigits hlength
      · exact (intF_quoted digits).trans (intF_digits hdigits hlength)
    have hbound : denoted digits < 2 ^ 32 := by
      have hlt := Nat.ofDigits_lt_base_pow_length (by decide : 1 < 16)
        (l := digits.reverse.map convert) (by
          simp only [mem_map, mem_reverse]
          rintro _ ⟨ch, hch, rfl⟩
          exact (hexDigit_spec ch (hdigits ch hch)).2.1)
      rw [length_map, length_reverse] at hlt
      exact hlt.trans_le (Nat.pow_le_pow_right (by decide) hlength : 16 ^ digits.length ≤ 16 ^ 8)
    rw [hread, Nat.mod_eq_of_lt hbound, Option.some_inj]
    obtain ⟨first, rest, rfl⟩ := exists_cons_of_ne_nil hne
    have hfirst := (hexDigit_spec first (hdigits first mem_cons_self)).2.2.2
    have hsplit : denoted (first :: rest) = denoted rest + 16 ^ rest.length * convert first := by
      simp [denoted, Nat.ofDigits_append]
    rcases Nat.mod_two_eq_zero_or_one (first :: rest).length with heven | hodd
    · rw [heven, drop_zero]
      simp
    · rw [hodd, drop_one, tail_cons, hsplit]
      simp [← hfirst]

/-- Of three digits the first is lost, and ten digits are more than an `int` has room for. -/
theorem hex_digits_lost : intF ['0', 'x', 'A', 'B', 'C'] = some 0xBC ∧
      fromHex 4 ['1', '2', '3', '4', '5', '6', '7', '8', '9', '0'] false = none := by decide

end Vibeshine.ConfigFile
