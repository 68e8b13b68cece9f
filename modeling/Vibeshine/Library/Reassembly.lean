import Mathlib.Data.List.Basic

/-! # Records parsed from a rolling buffer

A parser takes one record at a time from the head of a buffer that grows by pieces. What
it makes of a record does not depend on the bytes behind the record. A tag says where the
head of the buffer came from. Here it is shown once that the pieces do not matter.
-/

namespace Vibeshine.Library

open List

inductive Verdict (σ : Type) where
  | incomplete
  /-- The parser is done with the stream, and the buffer is dropped. -/
  | stop (core : σ)
  | consume (size : Nat) (core : σ)
  deriving DecidableEq

structure RecordParser (σ β τ : Type) where
  halted : σ → Bool
  parse : σ → τ → List β → Verdict σ
  /-- The tag of an empty buffer. -/
  idle : τ
  stable : ∀ {core tag bytes}, parse core tag bytes ≠ .incomplete →
    ∀ more, parse core tag (bytes ++ more) = parse core tag bytes
  bounded : ∀ {core tag bytes size next}, parse core tag bytes = .consume size next →
    0 < size ∧ size ≤ bytes.length
  stops : ∀ {core tag bytes next}, parse core tag bytes = .stop next → halted next
  continues : ∀ {core tag bytes size next}, halted core = false →
    parse core tag bytes = .consume size next → halted next = false
  nothing : ∀ core tag, parse core tag [] = .incomplete

namespace RecordParser

structure Reader (σ β τ : Type) where
  core : σ
  bytes : List β
  tag : τ
  deriving DecidableEq

variable {σ β τ : Type} (P : RecordParser σ β τ)

/-- Parses while there are records, for `fuel` records at most. -/
def drain (now : τ) : Nat → Reader σ β τ → Reader σ β τ
  | 0, reader => reader
  | fuel + 1, reader =>
    if P.halted reader.core then reader
    else
      match P.parse reader.core reader.tag reader.bytes with
      | .incomplete => reader
      | .stop core => { core := core, bytes := [], tag := P.idle }
      | .consume size core =>
        let bytes := reader.bytes.drop size
        drain now fuel
          { core := core, bytes := bytes, tag := if bytes.isEmpty then P.idle else now }

def accept (now : τ) (reader : Reader σ β τ) (piece : List β) : Reader σ β τ :=
  { reader with
    bytes := reader.bytes ++ piece
    tag := if reader.bytes.isEmpty then now else reader.tag }

def absorb (now : τ) (reader : Reader σ β τ) (piece : List β) : Reader σ β τ :=
  P.drain now ((reader.bytes ++ piece).length + 1) (accept now reader piece)

def absorbAll (now : τ) : Reader σ β τ → List (List β) → Reader σ β τ
  | reader, [] => reader
  | reader, piece :: pieces =>
    if P.halted reader.core then reader else absorbAll now (P.absorb now reader piece) pieces

variable {P} {now : τ} {reader : Reader σ β τ} {fuel : Nat} {piece rest : List β}

@[simp] lemma accept_bytes : (accept now reader piece).bytes = reader.bytes ++ piece := rfl

lemma drain_fuel {first second : Nat} (hfirst : reader.bytes.length < first)
    (hsecond : reader.bytes.length < second) :
    P.drain now first reader = P.drain now second reader := by
  induction first generalizing reader second with
  | zero => exact absurd hfirst (Nat.not_lt_zero _)
  | succ first ih =>
    obtain ⟨second, rfl⟩ := Nat.exists_eq_succ_of_ne_zero (Nat.ne_zero_of_lt hsecond)
    rw [drain, drain]
    split
    case isTrue => rfl
    case isFalse =>
      cases hparse : P.parse reader.core reader.tag reader.bytes with
      | incomplete => rfl
      | stop core => rfl
      | consume size core =>
        obtain ⟨hpos, hsize⟩ := P.bounded hparse
        have hdrop : (reader.bytes.drop size).length = reader.bytes.length - size :=
          length_drop
        exact ih (by dsimp only; omega) (by dsimp only; omega)

inductive Takes (P : RecordParser σ β τ) (now : τ) (reader : Reader σ β τ) : Reader σ β τ → Prop where
  | stop {core : σ} (hparse : P.parse reader.core reader.tag reader.bytes = .stop core) :
      Takes P now reader { core := core, bytes := [], tag := P.idle }
  | consume {size : Nat} {core : σ}
      (hparse : P.parse reader.core reader.tag reader.bytes = .consume size core) :
      Takes P now reader
        { core := core
          bytes := reader.bytes.drop size
          tag := if (reader.bytes.drop size).isEmpty then P.idle else now }

lemma drain_invariant {inv : Reader σ β τ → Prop} (hinv : inv reader)
    (hstep : ∀ reader next, inv reader → P.halted reader.core = false → Takes P now reader next →
      inv next) : inv (P.drain now fuel reader) := by
  induction fuel generalizing reader with
  | zero => exact hinv
  | succ fuel ih =>
    rw [drain]
    split
    case isTrue => exact hinv
    case isFalse hrun =>
      have hrunning : P.halted reader.core = false := by simpa using hrun
      cases hparse : P.parse reader.core reader.tag reader.bytes with
      | incomplete => exact hinv
      | stop core => exact hstep reader _ hinv hrunning (.stop hparse)
      | consume size core => exact ih (hstep reader _ hinv hrunning (.consume hparse))

lemma length_absorb_le :
    (P.absorb now reader piece).bytes.length ≤ reader.bytes.length + piece.length := by
  let inv (next : Reader σ β τ) : Prop := next.bytes.length ≤ reader.bytes.length + piece.length
  suffices inv (P.absorb now reader piece) from this
  refine drain_invariant ?_ ?_
  · simp only [inv, accept_bytes, length_append, Nat.le_refl]
  · intro before next hbefore _ htakes
    cases htakes with
    | stop => exact Nat.zero_le _
    | consume => exact Nat.le_trans (by simp) hbefore

lemma accept_tag (h : reader.bytes ≠ []) : (accept now reader piece).tag = reader.tag :=
  if_neg (mt List.isEmpty_iff.mp h)

section

variable (hrun : P.halted reader.core = false)

include hrun

lemma drain_accept (hrest : rest ≠ []) (hfuel : reader.bytes.length < fuel) :
    P.drain now (fuel + rest.length) (accept now reader rest) =
      if P.halted (P.drain now fuel reader).core then P.drain now fuel reader
      else P.absorb now (P.drain now fuel reader) rest := by
  induction fuel generalizing reader with
  | zero => exact absurd hfuel (Nat.not_lt_zero _)
  | succ fuel ih =>
    have hgo : ¬P.halted (accept now reader rest).core = true := by simpa [accept] using hrun
    cases hparse : P.parse reader.core reader.tag reader.bytes with
    | incomplete =>
      have hdrain : P.drain now (fuel + 1) reader = reader := by
        rw [drain, hparse]
        split <;> rfl
      rw [hdrain, if_neg (by simpa using hrun), absorb]
      apply drain_fuel <;> simp only [accept_bytes, length_append] <;> omega
    | stop core =>
      have hne : reader.bytes ≠ [] := fun hnil => by
        rw [hnil, P.nothing] at hparse
        cases hparse
      have hmore := P.stable (by rw [hparse]; nofun) rest
      have hdrain : P.drain now (fuel + 1) reader = ⟨core, [], P.idle⟩ := by
        rw [drain, if_neg (by simpa using hrun), hparse]
      rw [hdrain, if_pos (P.stops hparse), Nat.add_right_comm, drain, if_neg hgo, accept_tag hne,
        accept_bytes, accept, hmore, hparse]
    | consume size core =>
      obtain ⟨hpos, hsize⟩ := P.bounded hparse
      have hne : reader.bytes ≠ [] := fun hnil => by
        rw [hnil, P.nothing] at hparse
        cases hparse
      have hmore := P.stable (by rw [hparse]; nofun) rest
      have hsplit : (reader.bytes ++ rest).drop size = reader.bytes.drop size ++ rest :=
        drop_append_of_le_length hsize
      have hnonempty : (reader.bytes.drop size ++ rest).isEmpty = false := by
        simp [hrest]
      have hdrop : (reader.bytes.drop size).length = reader.bytes.length - size :=
        length_drop
      let next : Reader σ β τ :=
        ⟨core, reader.bytes.drop size, if (reader.bytes.drop size).isEmpty then P.idle else now⟩
      have hdrain : P.drain now (fuel + 1) reader = P.drain now fuel next := by
        rw [drain, if_neg (by simpa using hrun), hparse]
      have haccept : accept now next rest = ⟨core, reader.bytes.drop size ++ rest, now⟩ := by
        simp only [accept, next]
        split <;> simp_all
      have hleft : P.drain now (fuel + 1 + rest.length) (accept now reader rest) =
          P.drain now (fuel + rest.length) (accept now next rest) := by
        rw [Nat.add_right_comm, drain, if_neg hgo, accept_tag hne, accept_bytes,
          show (accept now reader rest).core = reader.core from rfl, hmore, hparse]
        simp only [hsplit, hnonempty, Bool.false_eq_true, if_false]
        rw [haccept]
      rw [hleft, hdrain]
      exact ih (P.continues hrun hparse) (by simp only [next]; omega)

lemma absorb_append (hpiece : piece ≠ []) (hrest : rest ≠ []) :
    P.absorb now reader (piece ++ rest) =
      if P.halted (P.absorb now reader piece).core then P.absorb now reader piece
      else P.absorb now (P.absorb now reader piece) rest := by
  have haccept : accept now reader (piece ++ rest) = accept now (accept now reader piece) rest := by
    have hne : (reader.bytes ++ piece).isEmpty = false := by simp [hpiece]
    simp only [accept, append_assoc, hne, Bool.false_eq_true, if_false]
  have hgo : P.halted (accept now reader piece).core = false := hrun
  refine Eq.trans ?_ (drain_accept hgo hrest (Nat.lt_succ_self _))
  rw [absorb, haccept]
  apply drain_fuel <;> simp only [accept_bytes, length_append] <;> omega

lemma absorbAll_eq {pieces : List (List β)}
    (hpieces : ∀ piece ∈ pieces, piece ≠ []) (hsome : pieces ≠ []) :
    P.absorbAll now reader pieces = P.absorb now reader pieces.flatten := by
  induction pieces generalizing reader with
  | nil => exact absurd rfl hsome
  | cons piece pieces ih =>
    have hpiece := hpieces piece mem_cons_self
    rw [absorbAll, if_neg (by simpa using hrun), flatten_cons]
    cases pieces with
    | nil => rw [absorbAll, flatten_nil, append_nil]
    | cons next pieces =>
      have hothers : ∀ piece ∈ next :: pieces, piece ≠ [] := fun other hother =>
        hpieces other (mem_cons_of_mem _ hother)
      have hrest : (next :: pieces).flatten ≠ [] := by
        have hnext := hothers next mem_cons_self
        simp [hnext]
      rw [absorb_append hrun hpiece hrest]
      split
      case isTrue hhalted => rw [absorbAll, if_pos hhalted]
      case isFalse hgo => exact ih (by simpa using hgo) hothers (cons_ne_nil _ _)

end

end RecordParser

end Vibeshine.Library
