import Vibeshine.Steam.VdfText
import Mathlib.Data.Nat.Digits.Defs

/-! # Steam's binary cache of application data

`parse_binary_vdf` reads a record of `appinfo.vdf`. Its keys stand in a table of the file. An
offset is what remains of the file from there on, and the end of a record is the number of bytes
behind it.
-/

namespace Vibeshine.Steam

open List

/-! ## Nodes -/

inductive Stop where
  | thrown
  | wild
deriving DecidableEq

abbrev Read (α : Type) := Except Stop (α × Bytes)

def fromBytes : Bytes → Nat
  | [] => 0
  | byte :: rest => byte.toNat + 256 * fromBytes rest

/-- `read_u32` and `read_u64`, by their width. They check the end of the file. -/
def readUnsigned (width : Nat) (s : Bytes) : Read Nat :=
  if s.length < width then .error .thrown else .ok (fromBytes (s.take width), s.drop width)

def readU32 : Bytes → Read Nat := readUnsigned 4

def readU64 : Bytes → Read Nat := readUnsigned 8

def readCstring (behind : Nat) : Bytes → Read Bytes
  | [] => .error .thrown
  | c :: rest =>
    if rest.length < behind then .error .thrown
    else if c = 0 then .ok ([], rest)
    else (readCstring behind rest).map fun read => (c :: read.1, read.2)

def readWide (behind : Nat) : Bytes → Read Bytes
  | low :: high :: rest =>
    if rest.length < behind then .error .thrown
    else if low = 0 ∧ high = 0 then .ok ([], rest)
    else
      (readWide behind rest).map fun read =>
        ((if low < 128 ∧ high = 0 then low else 63) :: read.1, read.2)
  | _ => .error .thrown

/-- `std::to_string`. -/
def decimal (n : Nat) : Bytes := (Nat.toDigits 10 n).map fun digit => digit.toNat.toUInt8

def leaf (value : Bytes) : VdfNode := .node value []

def readLeaf (behind : Nat) (type : UInt8) (s : Bytes) : Read VdfNode :=
  if type = 1 then (readCstring behind s).map fun read => (leaf read.1, read.2)
  else if type = 2 ∨ type = 3 ∨ type = 4 ∨ type = 6 then
    (readU32 s).map fun read => (leaf (decimal read.1), read.2)
  else if type = 5 then (readWide behind s).map fun read => (leaf read.1, read.2)
  else if type = 7 ∨ type = 10 then
    (readU64 s).map fun read => (leaf (decimal read.1), read.2)
  else .error .thrown

/-- A key and its value; `object` reads the children of an object. -/
def readEntry (behind : Nat) (keys : List Bytes)
    (object : Bytes → Read (List (Bytes × VdfNode))) (type : UInt8) (s : Bytes) :
    Read (Bytes × VdfNode) :=
  (readU32 s).bind fun index =>
    match keys[index.1]? with
    | none => .error .thrown
    | some key =>
      (if type = 0 then (object index.2).map fun read => (VdfNode.node [] read.1, read.2)
        else readLeaf behind type index.2).map fun read => ((key, read.1), read.2)

def readChildren (behind : Nat) (keys : List Bytes) : Nat → Bytes → Read (List (Bytes × VdfNode))
  | 0, _ => .error .thrown
  | fuel + 1, s =>
    if s.length ≤ behind then .error .thrown
    else
      match s with
      | [] => .error .wild
      | type :: s =>
        if type = 8 then .ok ([], s)
        else
          (readEntry behind keys (readChildren behind keys fuel) type s).bind fun entry =>
            (readChildren behind keys fuel entry.2).map fun read => (entry.1 :: read.1, read.2)

def parseBinaryVdf (behind : Nat) (keys : List Bytes) (s : Bytes) : Except Stop VdfNode :=
  (readChildren behind keys (s.length + 1) s).map fun read => .node [] read.1

/-! ### Progress -/

def Sound {α : Type} (s : Bytes) (read : Read α) : Prop :=
  read ≠ .error .wild ∧ ∀ value rest, read = .ok (value, rest) → rest.length < s.length

section

variable {α β : Type} {s : Bytes} {read : Read α}

lemma sound_thrown : Sound s (.error .thrown : Read α) := ⟨nofun, nofun⟩

lemma sound_ok {value : α} {rest : Bytes} (h : rest.length < s.length) :
    Sound s (.ok (value, rest)) := by
  refine ⟨nofun, fun value' rest' heq => ?_⟩
  cases heq
  exact h

lemma Sound.map (h : Sound s read) (f : α → β) :
    Sound s (read.map fun read => (f read.1, read.2)) := by
  rcases read with stop | ⟨value, rest⟩
  · exact ⟨fun heq => h.1 (by cases heq; rfl), nofun⟩
  · exact sound_ok (h.2 value rest rfl)

lemma Sound.bind (h : Sound s read) {next : α × Bytes → Read β}
    (hnext : ∀ value rest, rest.length < s.length → Sound rest (next (value, rest))) :
    Sound s (read.bind next) := by
  rcases read with stop | ⟨value, rest⟩
  · exact ⟨fun heq => h.1 (by cases heq; rfl), nofun⟩
  · have hrest := h.2 value rest rfl
    obtain ⟨hwild, htakes⟩ := hnext value rest hrest
    exact ⟨hwild, fun value' rest' heq => (htakes value' rest' heq).trans hrest⟩

lemma Sound.of_suffix {t : Bytes} (h : Sound t read) (hle : t.length ≤ s.length) : Sound s read :=
  ⟨h.1, fun value rest heq => (h.2 value rest heq).trans_le hle⟩

end

lemma readUnsigned_sound {width : Nat} (hwidth : 0 < width) (s : Bytes) :
    Sound s (readUnsigned width s) := by
  unfold readUnsigned
  split
  · exact sound_thrown
  · apply sound_ok
    rw [length_drop]
    omega

lemma readCstring_sound (behind : Nat) (s : Bytes) : Sound s (readCstring behind s) := by
  induction s with
  | nil => exact sound_thrown
  | cons c rest ih =>
    unfold readCstring
    split_ifs
    · exact sound_thrown
    · exact sound_ok (Nat.lt_succ_self _)
    · exact (ih.map (c :: ·)).of_suffix (Nat.le_succ _)

lemma readWide_sound (behind : Nat) (s : Bytes) : Sound s (readWide behind s) := by
  fun_induction readWide behind s with
  | case1 => exact sound_thrown
  | case2 => exact sound_ok (by simp only [length_cons]; omega)
  | case3 low high rest _ _ ih => exact (ih.map _).of_suffix (by simp only [length_cons]; omega)
  | case4 => exact sound_thrown

lemma readLeaf_sound (behind : Nat) (type : UInt8) (s : Bytes) :
    Sound s (readLeaf behind type s) := by
  unfold readLeaf
  split_ifs
  · exact (readCstring_sound behind s).map leaf
  · exact (readUnsigned_sound (by decide) s).map fun n => leaf (decimal n)
  · exact (readWide_sound behind s).map leaf
  · exact (readUnsigned_sound (by decide) s).map fun n => leaf (decimal n)
  · exact sound_thrown

section

variable {behind : Nat} {keys : List Bytes}

lemma readEntry_sound {object : Bytes → Read (List (Bytes × VdfNode))}
    (hobject : ∀ s, Sound s (object s)) (type : UInt8) (s : Bytes) :
    Sound s (readEntry behind keys object type s) := by
  apply (readUnsigned_sound (by decide) s).bind
  intro index rest _
  dsimp only
  split
  · exact sound_thrown
  next key _ =>
    apply Sound.map (f := fun value => (key, value))
    split
    · exact (hobject rest).map (VdfNode.node [])
    · exact readLeaf_sound behind type rest

lemma readChildren_sound (fuel : Nat) (s : Bytes) : Sound s (readChildren behind keys fuel s) := by
  induction fuel generalizing s with
  | zero => exact sound_thrown
  | succ fuel ih =>
    unfold readChildren
    split
    · exact sound_thrown
    next hlength =>
      cases s with
      | nil => exact absurd (Nat.zero_le _) hlength
      | cons type s =>
        dsimp only
        split
        · exact sound_ok (Nat.lt_succ_self _)
        · apply ((readEntry_sound ih type s).of_suffix (Nat.le_succ _)).bind
          intro entry rest _
          exact (ih rest).map (entry :: ·)

lemma readEntry_congr {object object' : Bytes → Read (List (Bytes × VdfNode))} (type : UInt8)
    {s : Bytes} (h : ∀ t : Bytes, t.length < s.length → object t = object' t) :
    readEntry behind keys object type s = readEntry behind keys object' type s := by
  unfold readEntry
  cases hread : readU32 s with
  | error => rfl
  | ok index =>
    have hlength := (readUnsigned_sound (by decide) s).2 index.1 index.2 hread
    simp only [Except.bind, h index.2 hlength]

/-- As much fuel as there are bytes is enough. -/
lemma readChildren_fuel {fuel fuel' : Nat} {s : Bytes} (hfuel : s.length < fuel)
    (hfuel' : s.length < fuel') :
    readChildren behind keys fuel s = readChildren behind keys fuel' s := by
  induction fuel generalizing fuel' s with
  | zero => exact absurd hfuel (Nat.not_lt_zero _)
  | succ fuel ih =>
    cases fuel' with
    | zero => exact absurd hfuel' (Nat.not_lt_zero _)
    | succ fuel' =>
      unfold readChildren
      cases s with
      | nil => rfl
      | cons type s =>
        have hshort : ∀ t : Bytes, t.length ≤ s.length →
            readChildren behind keys fuel t = readChildren behind keys fuel' t := by
          intro t ht
          rw [length_cons] at hfuel hfuel'
          exact ih (by omega) (by omega)
        have hentry : readEntry behind keys (readChildren behind keys fuel) type s =
            readEntry behind keys (readChildren behind keys fuel') type s :=
          readEntry_congr type fun t ht => hshort t ht.le
        dsimp only
        rw [hentry]
        cases hread : readEntry behind keys (readChildren behind keys fuel') type s with
        | error => rfl
        | ok entry =>
          have hlength := (readEntry_sound (readChildren_sound fuel') type s).2 entry.1 entry.2 hread
          simp only [Except.bind, hshort entry.2 hlength.le]

end

/-! ### Records by themselves -/

section

variable {α β : Type} {behind : Bytes}

def shift (behind : Bytes) (read : Read α) : Read α :=
  read.map fun read => (read.1, read.2 ++ behind)

/-- The read of a record in its file agrees with that of the record alone, or it goes on behind
the record, where the record alone is too short. -/
def Within (behind : Bytes) (read alone : Read α) : Prop :=
  read = shift behind alone ∨
    alone = .error .thrown ∧ ∃ value rest, read = .ok (value, rest) ∧ rest.length ≤ behind.length

variable {read alone : Read α}

section

variable (h : Within behind read alone)

include h

lemma Within.map (f : α → β) : Within behind (read.map fun read => (f read.1, read.2))
      (alone.map fun read => (f read.1, read.2)) := by
  obtain rfl | ⟨rfl, value, rest, rfl, hrest⟩ := h
  · left
    cases alone <;> rfl
  · exact .inr ⟨rfl, f value, rest, rfl, hrest⟩

lemma Within.bind {next next' : α × Bytes → Read β}
    (hnext : ∀ value rest, Within behind (next (value, rest ++ behind)) (next' (value, rest)))
    (hsound : ∀ value rest, Sound rest (next (value, rest))) :
    Within behind (read.bind next) (alone.bind next') := by
  obtain rfl | ⟨rfl, value, rest, rfl, hrest⟩ := h
  · rcases alone with stop | ⟨value, rest⟩
    · exact .inl rfl
    · exact hnext value rest
  · change Within behind (next (value, rest)) (.error .thrown)
    obtain ⟨hwild, htakes⟩ := hsound value rest
    cases hread : next (value, rest) with
    | error stop =>
      cases stop with
      | thrown => exact .inl rfl
      | wild => exact absurd hread hwild
    | ok result =>
      exact .inr ⟨rfl, result.1, result.2, rfl, ((htakes _ _ hread).le).trans hrest⟩

/-- Where what follows throws behind the record, the reads agree. -/
lemma Within.bind_eq {next next' : α × Bytes → Read β}
    (hnext : ∀ value rest, next (value, rest ++ behind) = shift behind (next' (value, rest)))
    (hpast : ∀ value rest, rest.length ≤ behind.length → next (value, rest) = .error .thrown) :
    read.bind next = shift behind (alone.bind next') := by
  obtain rfl | ⟨rfl, value, rest, rfl, hrest⟩ := h
  · rcases alone with stop | ⟨value, rest⟩
    · rfl
    · exact hnext value rest
  · exact hpast value rest hrest

end

end

section

variable {keys : List Bytes} (behind : Bytes)

lemma readUnsigned_within (width : Nat) (front : Bytes) :
    Within behind (readUnsigned width (front ++ behind)) (readUnsigned width front) := by
  unfold readUnsigned
  by_cases hfront : front.length < width
  · rw [if_pos hfront]
    split
    · exact .inl rfl
    · refine .inr ⟨rfl, _, _, rfl, ?_⟩
      rw [length_drop, length_append]
      omega
  · have hwidth := Nat.not_lt.mp hfront
    have hall : ¬ (front ++ behind).length < width := by
      rw [length_append]
      omega
    rw [if_neg hfront, if_neg hall, take_append_of_le_length hwidth,
      drop_append_of_le_length hwidth]
    exact .inl rfl

lemma readCstring_shift (front : Bytes) :
    readCstring behind.length (front ++ behind) = shift behind (readCstring 0 front) := by
  induction front with
  | nil =>
    cases behind with
    | nil => rfl
    | cons c rest => exact if_pos (Nat.lt_succ_self _)
  | cons c front ih =>
    have hin : ¬ (front ++ behind).length < behind.length := by simp
    rw [cons_append, readCstring, readCstring, if_neg hin, if_neg (Nat.not_lt_zero _), ih]
    split
    · rfl
    · cases readCstring 0 front <;> rfl

lemma readWide_shift (front : Bytes) :
    readWide behind.length (front ++ behind) = shift behind (readWide 0 front) := by
  -- the recursion takes two bytes at a time, so a record may end between them
  match front with
  | [] =>
    cases behind with
    | nil => rfl
    | cons low rest =>
      cases rest with
      | nil => rfl
      | cons high rest => exact if_pos (by simp only [length_cons]; omega)
  | [low] =>
    cases behind with
    | nil => rfl
    | cons high rest => exact if_pos (Nat.lt_succ_self _)
  | low :: high :: front =>
    have hin : ¬ (front ++ behind).length < behind.length := by simp
    rw [cons_append, cons_append, readWide, readWide, if_neg hin,
      if_neg (Nat.not_lt_zero _), readWide_shift front]
    split
    · rfl
    · cases readWide 0 front <;> rfl

lemma readLeaf_within (type : UInt8) (front : Bytes) :
    Within behind (readLeaf behind.length type (front ++ behind)) (readLeaf 0 type front) := by
  unfold readLeaf
  split_ifs
  · exact Within.map (.inl (readCstring_shift behind front)) leaf
  · exact (readUnsigned_within behind 4 front).map fun n => leaf (decimal n)
  · exact Within.map (.inl (readWide_shift behind front)) leaf
  · exact (readUnsigned_within behind 8 front).map fun n => leaf (decimal n)
  · exact .inl rfl

lemma readEntry_within {object object' : Bytes → Read (List (Bytes × VdfNode))}
    (hobject : ∀ front, object (front ++ behind) = shift behind (object' front))
    (hsound : ∀ s, Sound s (object s)) (type : UInt8) (front : Bytes) :
    Within behind (readEntry behind.length keys object type (front ++ behind))
      (readEntry 0 keys object' type front) := by
  apply (readUnsigned_within behind 4 front).bind
  · intro index rest
    dsimp only
    cases keys[index]? with
    | none => exact .inl rfl
    | some key =>
      dsimp only
      apply Within.map (f := fun value => (key, value))
      split
      · exact Within.map (.inl (hobject rest)) (VdfNode.node [])
      · exact readLeaf_within behind type rest
  · intro index rest
    dsimp only
    cases keys[index]? with
    | none => exact sound_thrown
    | some key =>
      dsimp only
      apply Sound.map (f := fun value => (key, value))
      split
      · exact (hsound rest).map (VdfNode.node [])
      · exact readLeaf_sound behind.length type rest

lemma readChildren_past {fuel past : Nat} {s : Bytes} (h : s.length ≤ past) :
    readChildren past keys fuel s = .error .thrown := by
  cases fuel with
  | zero => rfl
  | succ fuel => exact if_pos h

lemma readChildren_shift (fuel : Nat) (front : Bytes) :
    readChildren behind.length keys fuel (front ++ behind) =
      shift behind (readChildren 0 keys fuel front) := by
  induction fuel generalizing front with
  | zero => rfl
  | succ fuel ih =>
    cases front with
    | nil =>
      rw [nil_append, readChildren_past le_rfl]
      rfl
    | cons type front =>
      have hin : ¬ (type :: front ++ behind).length ≤ behind.length := by
        simp only [cons_append, length_cons, length_append]
        omega
      unfold readChildren
      rw [if_neg hin, if_neg (by simp), cons_append]
      dsimp only
      split
      · rfl
      · apply (readEntry_within behind ih (readChildren_sound fuel) type front).bind_eq
        · intro entry rest
          dsimp only
          rw [ih]
          cases readChildren 0 keys fuel rest <;> rfl
        · intro entry rest hrest
          dsimp only
          rw [readChildren_past hrest]
          rfl

/-- A record is read by its own bytes and the keys. -/
lemma parseBinaryVdf_alone (front : Bytes) :
    parseBinaryVdf behind.length keys (front ++ behind) = parseBinaryVdf 0 keys front := by
  unfold parseBinaryVdf
  rw [readChildren_shift, readChildren_fuel (s := front) (by rw [length_append]; omega)
    (Nat.lt_succ_self _)]
  cases readChildren 0 keys (front.length + 1) front <;> rfl

end

/-! ### The standard encoding -/

def toBytes : Nat → Nat → Bytes
  | 0, _ => []
  | width + 1, n => (n % 256).toUInt8 :: toBytes width (n / 256)

inductive Encodes (keys : List Bytes) : List (Bytes × VdfNode) → Bytes → Prop
  | done : Encodes keys [] [8]
  | object {index : Nat} {key : Bytes} {inner children : List (Bytes × VdfNode)}
      {innerText text : Bytes} (hindex : index < 2 ^ 32) (hkey : keys[index]? = some key)
      (hinner : Encodes keys inner innerText) (hrest : Encodes keys children text) :
      Encodes keys ((key, .node [] inner) :: children) (0 :: toBytes 4 index ++ (innerText ++ text))
  | string {index : Nat} {key value : Bytes} {children : List (Bytes × VdfNode)} {text : Bytes}
      (hindex : index < 2 ^ 32) (hkey : keys[index]? = some key) (hvalue : 0 ∉ value)
      (hrest : Encodes keys children text) :
      Encodes keys ((key, leaf value) :: children) (1 :: toBytes 4 index ++ (value ++ 0 :: text))
  | wide {index : Nat} {key value : Bytes} {children : List (Bytes × VdfNode)} {text : Bytes}
      (hindex : index < 2 ^ 32) (hkey : keys[index]? = some key)
      (hvalue : ∀ c ∈ value, 0 < c ∧ c < 128) (hrest : Encodes keys children text) :
      Encodes keys ((key, leaf value) :: children)
        (5 :: toBytes 4 index ++ (value.flatMap (fun c => [c, 0]) ++ 0 :: 0 :: text))
  | number {index n width : Nat} {type : UInt8} {key : Bytes}
      {children : List (Bytes × VdfNode)} {text : Bytes}
      (hindex : index < 2 ^ 32) (hkey : keys[index]? = some key) (hn : n < 256 ^ width)
      (htype : type ∈ [2, 3, 4, 6] ∧ width = 4 ∨ type ∈ [7, 10] ∧ width = 8)
      (hrest : Encodes keys children text) :
      Encodes keys ((key, leaf (decimal n)) :: children)
        (type :: toBytes 4 index ++ (toBytes width n ++ text))

lemma length_toBytes (width n : Nat) : (toBytes width n).length = width := by
  induction width generalizing n with
  | zero => rfl
  | succ width ih => exact congrArg (· + 1) (ih _)

lemma fromBytes_toBytes {width n : Nat} (h : n < 256 ^ width) : fromBytes (toBytes width n) = n := by
  induction width generalizing n with
  | zero => exact (Nat.lt_one_iff.mp h).symm
  | succ width ih =>
    have hbyte : (n % 256).toUInt8.toNat = n % 256 :=
      UInt8.toNat_ofNat_of_lt' (Nat.mod_lt n (by decide))
    rw [toBytes, fromBytes, hbyte, ih (Nat.div_lt_of_lt_mul (by rwa [Nat.pow_succ'] at h))]
    exact Nat.mod_add_div n 256

lemma readUnsigned_toBytes {width n : Nat} (h : n < 256 ^ width) (rest : Bytes) :
    readUnsigned width (toBytes width n ++ rest) = .ok (n, rest) := by
  unfold readUnsigned
  rw [if_neg (by simp [length_toBytes]), take_left' (length_toBytes width n),
    drop_left' (length_toBytes width n), fromBytes_toBytes h]

lemma readCstring_string {value : Bytes} (h : 0 ∉ value) (rest : Bytes) :
    readCstring 0 (value ++ 0 :: rest) = .ok (value, rest) := by
  induction value with
  | nil => rfl
  | cons c value ih =>
    obtain ⟨hc, hvalue⟩ := not_or.mp fun hmem => h (mem_cons.mpr hmem)
    rw [cons_append, readCstring, if_neg (Nat.not_lt_zero _), if_neg (Ne.symm hc), ih hvalue]
    rfl

lemma readWide_wide {value : Bytes} (h : ∀ c ∈ value, 0 < c ∧ c < 128) (rest : Bytes) :
    readWide 0 (value.flatMap (fun c => [c, 0]) ++ 0 :: 0 :: rest) = .ok (value, rest) := by
  induction value with
  | nil => rfl
  | cons c value ih =>
    obtain ⟨⟨hpos, hascii⟩, hvalue⟩ := forall_mem_cons.mp h
    have hne : ¬ (c = 0 ∧ (0 : UInt8) = 0) := fun hc => absurd hpos (by rw [hc.1]; decide)
    rw [flatMap_cons, append_assoc, cons_append, cons_append, nil_append,
      readWide, if_neg (Nat.not_lt_zero _), if_neg hne, ih hvalue, if_pos ⟨hascii, rfl⟩]
    rfl

lemma readEntry_ok {keys : List Bytes} {object : Bytes → Read (List (Bytes × VdfNode))}
    {type : UInt8} {index : Nat} {key rest behind : Bytes} {value : VdfNode}
    (hindex : index < 2 ^ 32) (hkey : keys[index]? = some key)
    (hvalue : (if type = 0 then (object rest).map fun read => (VdfNode.node [] read.1, read.2)
      else readLeaf 0 type rest) = .ok (value, behind)) :
    readEntry 0 keys object type (toBytes 4 index ++ rest) = .ok ((key, value), behind) := by
  unfold readEntry readU32
  rw [readUnsigned_toBytes hindex]
  simp only [Except.bind, hkey]
  rw [hvalue]
  rfl

/-- An entry is read, and then the others. -/
lemma readChildren_step {keys : List Bytes} {fuel : Nat} {type : UInt8}
    {entry : Bytes × VdfNode} {s others rest : Bytes} {children : List (Bytes × VdfNode)}
    (htype : type ≠ 8)
    (hentry : readEntry 0 keys (readChildren 0 keys fuel) type s = .ok (entry, others))
    (hothers : readChildren 0 keys fuel others = .ok (children, rest)) :
    readChildren 0 keys (fuel + 1) (type :: s) = .ok (entry :: children, rest) := by
  rw [readChildren, if_neg (by simp)]
  simp only [if_neg htype, hentry]
  simp only [Except.bind, hothers, Except.map]

lemma readChildren_encoded {keys : List Bytes} {children : List (Bytes × VdfNode)} {text : Bytes}
    (h : Encodes keys children text) (rest : Bytes) {fuel : Nat} (hfuel : text.length ≤ fuel) :
    readChildren 0 keys fuel (text ++ rest) = .ok (children, rest) := by
  induction h generalizing rest fuel with
  | done =>
    cases fuel with
    | zero => cases hfuel
    | succ fuel => rfl
  | object hindex hkey _ _ ihinner ih =>
    cases fuel with
    | zero => cases hfuel
    | succ fuel =>
      simp only [length_cons, cons_append, length_append] at hfuel
      rw [cons_append, cons_append, append_assoc, append_assoc]
      refine readChildren_step (by decide) (readEntry_ok hindex hkey ?_) (ih rest (by omega))
      rw [if_pos rfl, ihinner _ (by omega)]
      rfl
  | string hindex hkey hvalue _ ih =>
    cases fuel with
    | zero => cases hfuel
    | succ fuel =>
      simp only [length_cons, cons_append, length_append] at hfuel
      rw [cons_append, cons_append, append_assoc, append_assoc, cons_append]
      refine readChildren_step (by decide) (readEntry_ok hindex hkey ?_) (ih rest (by omega))
      rw [if_neg (by decide), readLeaf, if_pos rfl, readCstring_string hvalue]
      rfl
  | wide hindex hkey hvalue _ ih =>
    cases fuel with
    | zero => cases hfuel
    | succ fuel =>
      simp only [length_cons, cons_append, length_append] at hfuel
      rw [cons_append, cons_append, append_assoc, append_assoc, cons_append, cons_append]
      refine readChildren_step (by decide) (readEntry_ok hindex hkey ?_) (ih rest (by omega))
      rw [if_neg (by decide), readLeaf, if_neg (by decide), if_neg (by decide), if_pos rfl,
        readWide_wide hvalue]
      rfl
  | number hindex hkey hn htype _ ih =>
    cases fuel with
    | zero => cases hfuel
    | succ fuel =>
      simp only [length_cons, cons_append, length_append] at hfuel
      rw [cons_append, cons_append, append_assoc, append_assoc]
      obtain ⟨htype, rfl⟩ | ⟨htype, rfl⟩ := htype
      · have hne : ∀ type ∈ ([2, 3, 4, 6] : List UInt8), type ≠ 8 ∧ type ≠ 0 ∧ type ≠ 1 := by
          simp only [forall_mem_cons]
          exact ⟨by decide, by decide, by decide, by decide, nofun⟩
        obtain ⟨hend, hobject, hstring⟩ := hne _ htype
        refine readChildren_step hend (readEntry_ok hindex hkey ?_) (ih rest (by omega))
        rw [if_neg hobject, readLeaf, if_neg hstring, if_pos (by simpa using htype), readU32,
          readUnsigned_toBytes hn]
        rfl
      · have hne : ∀ type ∈ ([7, 10] : List UInt8), type ≠ 8 ∧ type ≠ 0 ∧ type ≠ 1 ∧
            ¬ (type = 2 ∨ type = 3 ∨ type = 4 ∨ type = 6) ∧ type ≠ 5 := by
          simp only [forall_mem_cons]
          exact ⟨by decide, by decide, nofun⟩
        obtain ⟨hend, hobject, hstring, hword, hwide⟩ := hne _ htype
        refine readChildren_step hend (readEntry_ok hindex hkey ?_) (ih rest (by omega))
        rw [if_neg hobject, readLeaf, if_neg hstring, if_neg hword, if_neg hwide,
          if_pos (by simpa using htype), readU64, readUnsigned_toBytes hn]
        rfl

lemma parseBinaryVdf_encoded {keys : List Bytes} {children : List (Bytes × VdfNode)} {text : Bytes}
    (h : Encodes keys children text) : parseBinaryVdf 0 keys text = .ok (.node [] children) := by
  have hread := readChildren_encoded h [] (Nat.le_succ _)
  rw [append_nil] at hread
  rw [parseBinaryVdf, hread]
  rfl

end Vibeshine.Steam
