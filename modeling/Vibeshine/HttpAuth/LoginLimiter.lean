import Vibeshine.Library.KeyedMap

/-! # The limit on login attempts

The limiter counts the attempts of each key in windows and blocks a key that has used up its
attempts. The decisions on one key are those of a limiter that sees this key alone.
-/

namespace Vibeshine.HttpAuth

open Library List

def second : Nat := 1000000000

/-- The limits of a `LoginAttemptLimiter`. -/
structure LoginLimits where
  maxAttempts : Nat
  window : Nat
  blockDuration : Nat
  maxEntries : Nat
  attempts_pos : 0 < maxAttempts
  window_pos : 0 < window
  entries_pos : 0 < maxEntries

def LoginLimits.of (maxAttempts window blockDuration maxEntries : Nat) : LoginLimits where
  maxAttempts := max 1 maxAttempts
  window := max second window
  blockDuration := max second blockDuration
  maxEntries := max 1 maxEntries
  attempts_pos := by omega
  window_pos := by unfold second; omega
  entries_pos := by omega

structure Decision where
  allowed : Bool
  /-- In seconds. -/
  retryAfter : Nat := 0
deriving DecidableEq

structure LoginEntry where
  attempts : Nat := 0
  firstAttempt : Nat := 0
  lastSeen : Nat := 0
  blockedUntil : Nat := 0
deriving DecidableEq

namespace LoginLimits

variable (c : LoginLimits) {κ : Type} [LinearOrder κ]

def kept (now : Nat) (entry : LoginEntry) : Bool :=
  !(entry.blockedUntil ≤ now && max c.window c.blockDuration ≤ now - entry.lastSeen)

def prune (now : Nat) (entries : KeyedMap κ LoginEntry) : KeyedMap κ LoginEntry :=
  entries.filter fun item => c.kept now item.2

def evictOldest (entries : KeyedMap κ LoginEntry) : KeyedMap κ LoginEntry :=
  match entries.entries.argmin fun item => item.2.lastSeen with
  | some oldest => entries.erase oldest.1
  | none => entries

def fresh (now : Nat) : LoginEntry := { firstAttempt := now, lastSeen := now }

def counted (now : Nat) (entry : LoginEntry) : LoginEntry :=
  { entry with
    lastSeen := now
    attempts := entry.attempts + 1
    blockedUntil := if c.maxAttempts ≤ entry.attempts + 1 then now + c.blockDuration
      else entry.blockedUntil }

def denied (now : Nat) (entry : LoginEntry) : Decision :=
  { allowed := false, retryAfter := max 1 ((entry.blockedUntil - now) / second) }

def consume (entries : KeyedMap κ LoginEntry) (key : κ) (now : Nat) :
    Decision × KeyedMap κ LoginEntry :=
  let entries := c.prune now entries
  match entries.find? key with
  | some entry =>
    if now < entry.blockedUntil then (denied now entry, entries)
    else
      let entry := if c.window ≤ now - entry.firstAttempt then fresh now else entry
      ({ allowed := true }, entries.assign key (c.counted now entry))
  | none =>
    let entries := if c.maxEntries ≤ entries.entries.length then evictOldest entries else entries
    ({ allowed := true }, entries.assign key (c.counted now (fresh now)))

def log (entries : KeyedMap κ LoginEntry) : List (Nat × κ) → List (κ × Nat × Decision)
  | [] => []
  | (now, key) :: calls =>
    (key, now, (c.consume entries key now).1) :: log (c.consume entries key now).2 calls

def attemptsOf (calls : List (Nat × κ)) (key : κ) : List (Nat × Decision) :=
  ((c.log KeyedMap.empty calls).filter fun entry => entry.1 = key).map (·.2)

def entriesAfter (calls : List (Nat × κ)) : KeyedMap κ LoginEntry :=
  calls.foldl (fun entries call => (c.consume entries call.2 call.1).2) KeyedMap.empty

/-! ## The table -/

section

variable {c} {entries : KeyedMap κ LoginEntry} {key other : κ} {now : Nat}

lemma find?_prune :
    (c.prune now entries).find? other = (entries.find? other).filter (c.kept now) := by
  ext entry
  rw [prune, KeyedMap.find?_filter, Option.filter_eq_some_iff]

lemma length_le_of_keys {keys : List κ} (h : ∀ key, entries.find? key ≠ none → key ∈ keys) :
    entries.entries.length ≤ keys.length := by
  rw [← length_map (·.1)]
  refine (entries.nodup_keys.subperm fun key hkey => ?_).length_le
  obtain ⟨item, hitem, rfl⟩ := mem_map.mp hkey
  refine h _ ?_
  rw [KeyedMap.mem_entries.mp hitem]
  exact nofun

lemma mem_keys (h : entries.find? key ≠ none) : key ∈ entries.entries.map (·.1) := by
  obtain ⟨entry, hentry⟩ := Option.ne_none_iff_exists'.mp h
  exact mem_map.mpr ⟨(key, entry), KeyedMap.mem_entries.mpr hentry, rfl⟩

lemma consume_found {entry : LoginEntry} (h : (c.prune now entries).find? key = some entry) :
    c.consume entries key now =
      if now < entry.blockedUntil then (denied now entry, c.prune now entries)
      else ({ allowed := true }, (c.prune now entries).assign key
        (c.counted now (if c.window ≤ now - entry.firstAttempt then fresh now else entry))) := by
  simp only [consume, h]

lemma consume_missing (h : (c.prune now entries).find? key = none) :
    c.consume entries key now = ({ allowed := true },
      (if c.maxEntries ≤ (c.prune now entries).entries.length then evictOldest (c.prune now entries)
        else c.prune now entries).assign key (c.counted now (fresh now))) := by
  simp only [consume, h]

lemma length_evictOldest (hsize : entries.entries.length ≤ c.maxEntries) :
    (evictOldest entries).entries.length < c.maxEntries := by
  unfold evictOldest
  split
  · next oldest holdest =>
    refine lt_of_lt_of_le (length_filter_lt_length_iff_exists.mpr ?_) hsize
    exact ⟨oldest, argmin_mem holdest, by simp⟩
  · next hnone =>
    rw [argmin_eq_none.mp hnone]
    exact c.entries_pos

lemma length_consume (hsize : entries.entries.length ≤ c.maxEntries) :
    (c.consume entries key now).2.entries.length ≤ c.maxEntries := by
  have hpruned : (c.prune now entries).entries.length ≤ c.maxEntries :=
    (length_filter_le _ _).trans hsize
  have hassign (table : KeyedMap κ LoginEntry) (entry : LoginEntry) {keys : List κ}
      (hkey : key ∈ keys) (hkeys : table.entries.map (·.1) ⊆ keys) :
      (table.assign key entry).entries.length ≤ keys.length := by
    refine length_le_of_keys fun other hother => ?_
    rw [KeyedMap.find?_assign] at hother
    by_cases h : other = key
    · exact h ▸ hkey
    · rw [if_neg h] at hother
      exact hkeys (mem_keys hother)
  cases hfound : (c.prune now entries).find? key with
  | some entry =>
    rw [consume_found hfound]
    split
    · exact hpruned
    · refine (hassign _ _ (mem_keys ?_) (List.Subset.refl _)).trans (by simpa using hpruned)
      rw [hfound]
      exact nofun
  | none =>
    rw [consume_missing hfound]
    refine (hassign _ _ mem_cons_self (subset_cons_self _ _)).trans ?_
    rw [length_cons, length_map]
    split
    · exact length_evictOldest hpruned
    · omega

lemma length_entriesAfter (calls : List (Nat × κ)) :
    (c.entriesAfter calls).entries.length ≤ c.maxEntries := by
  unfold entriesAfter
  refine List.foldlRecOn
    (motive := fun entries : KeyedMap κ LoginEntry => entries.entries.length ≤ c.maxEntries) calls _
    (Nat.zero_le _) fun _ hsize _ _ => length_consume hsize

end

/-! ## One key alone -/

/-- What `consume` decides on an entry, and what becomes of the entry. -/
def decision (entry : Option LoginEntry) (now : Nat) : Decision × Option LoginEntry :=
  match entry.filter (c.kept now) with
  | some entry =>
    if now < entry.blockedUntil then (denied now entry, some entry)
    else
      ({ allowed := true },
        some (c.counted now (if c.window ≤ now - entry.firstAttempt then fresh now else entry)))
  | none => ({ allowed := true }, some (c.counted now (fresh now)))

def single (entry : Option LoginEntry) : List Nat → List (Nat × Decision)
  | [] => []
  | now :: times => (now, (c.decision entry now).1) :: single (c.decision entry now).2 times

section

variable {c} {entries : KeyedMap κ LoginEntry} {key other : κ} {now later : Nat}

lemma consume_spec (hroom : (c.prune now entries).find? key = none →
      (c.prune now entries).entries.length < c.maxEntries) :
    (c.consume entries key now).1 = (c.decision (entries.find? key) now).1 ∧
      ∀ other, (c.consume entries key now).2.find? other =
        if other = key then (c.decision (entries.find? key) now).2
        else (entries.find? other).filter (c.kept now) := by
  unfold decision
  rw [← find?_prune]
  cases hfound : (c.prune now entries).find? key with
  | some entry =>
    rw [consume_found hfound]
    dsimp only
    split
    · refine ⟨rfl, fun other => ?_⟩
      split
      · next h => exact h ▸ hfound
      · exact find?_prune
    · refine ⟨rfl, fun other => ?_⟩
      rw [KeyedMap.find?_assign, find?_prune]
  | none =>
    rw [consume_missing hfound, if_neg (Nat.not_le_of_lt (hroom hfound))]
    refine ⟨rfl, fun other => ?_⟩
    rw [KeyedMap.find?_assign, find?_prune]

lemma filter_kept (h : now ≤ later) (entry : Option LoginEntry) :
    (entry.filter (c.kept now)).filter (c.kept later) = entry.filter (c.kept later) := by
  cases entry with
  | none => rfl
  | some entry =>
    cases hnow : c.kept now entry
    · have hlater : c.kept later entry = false := by
        simp only [kept, Bool.not_eq_false', Bool.and_eq_true, decide_eq_true_eq] at hnow ⊢
        omega
      simp [Option.filter, hnow, hlater]
    · simp [Option.filter, hnow]

/-- The decisions on a key are those of its own attempts, if the table has room for every key. -/
lemma log_own {keys : List κ} (hkeys : keys.length ≤ c.maxEntries) {calls : List (Nat × κ)}
    (hcalls : ∀ call ∈ calls, call.2 ∈ keys) (hsorted : calls.Pairwise fun a b => a.1 ≤ b.1)
    (htable : ∀ other, entries.find? other ≠ none → other ∈ keys) {entry : Option LoginEntry}
    (hagree : ∀ call ∈ calls, (entries.find? key).filter (c.kept call.1) =
      entry.filter (c.kept call.1)) :
    ((c.log entries calls).filter fun item => item.1 = key).map (·.2) =
      c.single entry ((calls.filter fun call => call.2 = key).map (·.1)) := by
  induction calls generalizing entries entry with
  | nil => rfl
  | cons call calls ih =>
    obtain ⟨now, caller⟩ := call
    obtain ⟨hfirst, hrest⟩ := pairwise_cons.mp hsorted
    obtain ⟨hcaller, hothers⟩ := forall_mem_cons.mp hcalls
    obtain ⟨hnow, hlater⟩ := forall_mem_cons.mp hagree
    have hpruned (other : κ) (h : (c.prune now entries).find? other ≠ none) : other ∈ keys := by
      refine htable other fun hnone => h ?_
      rw [find?_prune, hnone]
      rfl
    have hroom (hmissing : (c.prune now entries).find? caller = none) :
        (c.prune now entries).entries.length < c.maxEntries := by
      have hnew : caller ∉ (c.prune now entries).entries.map (·.1) := by
        intro hmem
        obtain ⟨item, hitem, rfl⟩ := mem_map.mp hmem
        rw [KeyedMap.mem_entries.mp hitem] at hmissing
        cases hmissing
      have hsubset : caller :: (c.prune now entries).entries.map (·.1) ⊆ keys := by
        refine cons_subset.mpr ⟨hcaller, fun other hother => ?_⟩
        obtain ⟨item, hitem, rfl⟩ := mem_map.mp hother
        refine hpruned _ ?_
        rw [KeyedMap.mem_entries.mp hitem]
        exact nofun
      have hlength := ((nodup_cons.mpr ⟨hnew, KeyedMap.nodup_keys⟩).subperm hsubset).length_le
      rw [length_cons, length_map] at hlength
      omega
    obtain ⟨hdecision, hfound⟩ := consume_spec hroom
    have htable' (other : κ) (h : (c.consume entries caller now).2.find? other ≠ none) :
        other ∈ keys := by
      rw [hfound] at h
      split at h
      · next heq => exact heq ▸ hcaller
      · exact hpruned other (by rwa [find?_prune])
    rw [log]
    by_cases h : caller = key
    · subst h
      have hsame : c.decision (entries.find? caller) now = c.decision entry now := by
        unfold decision
        rw [hnow]
      rw [filter_cons_of_pos (by simp), filter_cons_of_pos (by simp), map_cons,
        map_cons, single, hdecision, hsame]
      refine congrArg _ (ih hothers hrest htable' fun call _ => ?_)
      rw [hfound, if_pos rfl, hsame]
    · rw [filter_cons_of_neg (by simpa using h), filter_cons_of_neg (by simpa using h)]
      refine ih hothers hrest htable' fun call hcall => ?_
      rw [hfound, if_neg (Ne.symm h), filter_kept (hfirst call hcall)]
      exact hlater call hcall

end

/-! ## Counting windows -/

def tally (window : Option (Nat × Nat)) (now : Nat) : Option (Nat × Nat) :=
  match window with
  | none => some (now, 1)
  | some (first, count) => if c.window ≤ now - first then some (now, 1) else some (first, count + 1)

def allowedTimes (decisions : List (Nat × Decision)) : List Nat :=
  (decisions.filter fun item => item.2.allowed).map (·.1)

/-- A window is counted up to the limit, and is over when a block is. -/
structure Counts (entry : LoginEntry) (now : Nat) : Prop where
  pos : 0 < entry.attempts
  small : entry.attempts ≤ c.maxAttempts
  order : entry.firstAttempt ≤ entry.lastSeen
  past : entry.lastSeen ≤ now
  full : c.maxAttempts ≤ entry.attempts → entry.blockedUntil = entry.lastSeen + c.blockDuration
  free : entry.attempts < c.maxAttempts → entry.blockedUntil = 0

def Tallied (stored : Option LoginEntry) (window : Option (Nat × Nat)) (now : Nat) : Prop :=
  stored.map (fun entry => (entry.firstAttempt, entry.attempts)) = window ∧
    ∀ entry, stored = some entry → c.Counts entry now

section

variable {c} {stored : Option LoginEntry} {window : Option (Nat × Nat)} {now later : Nat}

lemma counts_fresh : c.Counts (c.counted later (fresh later)) later where
  pos := Nat.one_pos
  small := c.attempts_pos
  order := le_refl _
  past := le_refl _
  full h := if_pos h
  free h := if_neg (Nat.not_le_of_lt h)

/-- An attempt is denied, or it is counted. -/
lemma decision_cases (h : c.Tallied stored window now) (hle : now ≤ later)
    (hblock : c.window ≤ c.blockDuration) :
    ((c.decision stored later).1.allowed = false ∧ (c.decision stored later).2 = stored) ∨
      ((c.decision stored later).1.allowed = true ∧ ∃ entry, (c.decision stored later).2 = some entry ∧
        entry.lastSeen = later ∧ c.Tallied (some entry) (c.tally window later) later) := by
  obtain ⟨rfl, hcounts⟩ := h
  have hnew (hwindow : ∀ entry, stored = some entry → c.window ≤ later - entry.firstAttempt) :
      c.Tallied (some (c.counted later (fresh later)))
        (c.tally (stored.map fun entry => (entry.firstAttempt, entry.attempts)) later) later := by
    refine ⟨?_, fun entry hentry => Option.some.inj hentry ▸ counts_fresh⟩
    cases stored with
    | none => rfl
    | some entry => exact (if_pos (hwindow entry rfl)).symm
  unfold decision
  cases stored with
  | none => exact .inr ⟨rfl, _, rfl, rfl, hnew nofun⟩
  | some entry =>
    obtain ⟨-, hsmall, horder, hpast, hfull, hfree⟩ := hcounts entry rfl
    cases hkept : c.kept later entry
    · rw [Option.filter_some_neg (by simp [hkept])]
      simp only [kept, Bool.not_eq_false', Bool.and_eq_true, decide_eq_true_eq] at hkept
      refine .inr ⟨rfl, _, rfl, rfl, hnew ?_⟩
      rintro _ ⟨⟩
      omega
    · rw [Option.filter_some_pos hkept]
      dsimp only
      split
      · exact .inl ⟨rfl, rfl⟩
      · next hopen =>
        refine .inr ⟨rfl, _, rfl, rfl, ?_⟩
        split
        · next hwindow =>
          refine hnew ?_
          rintro _ ⟨⟩
          exact hwindow
        · next hwindow =>
          have hroom : entry.attempts < c.maxAttempts := by
            by_contra hlimit
            have := hfull (Nat.le_of_not_lt hlimit)
            omega
          refine ⟨(if_neg hwindow).symm, ?_⟩
          rintro _ ⟨⟩
          exact ⟨Nat.succ_pos _, hroom, by show entry.firstAttempt ≤ later; omega, le_refl _, fun h => if_pos h, fun h =>
            (if_neg (Nat.not_le_of_lt h)).trans (hfree hroom)⟩

lemma Tallied.mono (h : c.Tallied stored window now) (hle : now ≤ later) :
    c.Tallied stored window later :=
  ⟨h.1, fun entry hentry => { h.2 entry hentry with past := (h.2 entry hentry).past.trans hle }⟩

/-- A run of decisions goes on from the tally of what it has allowed. -/
lemma single_tallied (hblock : c.window ≤ c.blockDuration) {times : List Nat}
    {done left : List (Nat × Decision)} (h : c.Tallied stored window now)
    (hsorted : (now :: times).Pairwise (· ≤ ·)) (hrun : c.single stored times = done ++ left) :
    ∃ now stored times, left = c.single stored times ∧ (now :: times).Pairwise (· ≤ ·) ∧
      c.Tallied stored ((allowedTimes done).foldl c.tally window) now := by
  induction done generalizing stored window now times with
  | nil => exact ⟨now, stored, times, hrun.symm, hsorted, h⟩
  | cons item done ih =>
    cases times with
    | nil => cases hrun
    | cons later times =>
      obtain ⟨hfirst, hrest⟩ := pairwise_cons.mp hsorted
      have hle := hfirst later mem_cons_self
      rw [single, cons_append, cons.injEq] at hrun
      obtain ⟨rfl, hrun⟩ := hrun
      rcases decision_cases h hle hblock with ⟨hdenied, hsame⟩ | ⟨hallowed, entry, hentry, -, hnext⟩
      · rw [hsame] at hrun
        simp only [allowedTimes, filter_cons, hdenied]
        exact ih (h.mono hle) hrest hrun
      · rw [hentry] at hrun
        simp only [allowedTimes, filter_cons, hallowed]
        exact ih hnext hrest hrun

lemma mem_single {times : List Nat} {item : Nat × Decision} (h : item ∈ c.single stored times) :
    item.1 ∈ times := by
  induction times generalizing stored with
  | nil => cases h
  | cons now times ih =>
    rcases mem_cons.mp h with rfl | h
    · exact mem_cons_self
    · exact mem_cons_of_mem _ (ih h)

lemma allowedTimes_single (later : Nat) (times : List Nat) :
    allowedTimes (c.single stored (later :: times)) =
      (if (c.decision stored later).1.allowed then [later] else []) ++
        allowedTimes (c.single (c.decision stored later).2 times) := by
  simp only [allowedTimes, single, filter_cons]
  split <;> rfl

/-- The attempts that are allowed before a time, which the window after next does not reach. -/
lemma single_count (hblock : c.window ≤ c.blockDuration) {times : List Nat} {entry : LoginEntry}
    (h : c.Tallied (some entry) window now) (hsorted : (now :: times).Pairwise (· ≤ ·)) {stop : Nat}
    (hstop : stop ≤ entry.firstAttempt + 2 * c.window) :
    (allowedTimes (c.single (some entry) times)).countP (· < stop) + entry.attempts ≤
      c.maxAttempts + if stop ≤ entry.firstAttempt + c.window then 0 else c.maxAttempts := by
  induction times generalizing entry window now with
  | nil => exact (zero_add _).le.trans ((h.2 entry rfl).small.trans (Nat.le_add_right _ _))
  | cons later times ih =>
    obtain ⟨hfirst, hrest⟩ := pairwise_cons.mp hsorted
    have hle := hfirst later mem_cons_self
    rw [allowedTimes_single]
    rcases decision_cases h hle hblock with ⟨hdenied, hsame⟩ | ⟨hallowed, next, hnext, -, htally⟩
    · rw [hdenied, hsame]
      exact ih (h.mono hle) hrest hstop
    · have hsmall := (h.2 entry rfl).small
      have hwidth := c.window_pos
      have hcount := @ih _ _ _ htally hrest
      rw [hallowed, hnext, if_pos rfl, singleton_append, countP_cons]
      obtain ⟨rfl, -⟩ := h
      obtain ⟨hwindow, -⟩ := htally
      simp only [tally, Option.map_some] at hwindow
      by_cases hnew : c.window ≤ later - entry.firstAttempt
      · rw [if_pos hnew, Option.some_inj, Prod.mk.injEq] at hwindow
        by_cases hlate : later < stop
        · have := hcount (by omega)
          rw [if_pos (show stop ≤ next.firstAttempt + c.window by omega)] at this
          rw [if_neg (show ¬stop ≤ entry.firstAttempt + c.window by omega)]
          simp only [hlate, decide_true, if_true]
          omega
        · have hnone : (allowedTimes (c.single (some next) times)).countP (· < stop) = 0 := by
            rw [countP_eq_zero]
            intro t ht
            obtain ⟨item, hitem, rfl⟩ := mem_map.mp ht
            have := (pairwise_cons.mp hrest).1 _ (mem_single (mem_of_mem_filter hitem))
            rw [decide_eq_true_eq]
            omega
          simp only [hnone, hlate, decide_false, Bool.false_eq_true, if_false]
          omega
      · rw [if_neg hnew, Option.some_inj, Prod.mk.injEq] at hwindow
        have := hcount (by omega)
        rw [hwindow.1, hwindow.2] at this
        split <;> omega

/-- The attempts that are allowed in an interval no longer than a window. -/
lemma single_interval (hblock : c.window ≤ c.blockDuration) {times : List Nat}
    (h : c.Tallied stored window now) (hsorted : (now :: times).Pairwise (· ≤ ·)) {start stop : Nat}
    (hstop : stop ≤ start + c.window) :
    (allowedTimes (c.single stored times)).countP (fun t => start ≤ t ∧ t < stop) ≤
      2 * c.maxAttempts - 1 := by
  induction times generalizing stored window now with
  | nil => exact zero_le
  | cons later times ih =>
    obtain ⟨hfirst, hrest⟩ := pairwise_cons.mp hsorted
    have hle := hfirst later mem_cons_self
    rw [allowedTimes_single]
    rcases decision_cases h hle hblock with ⟨hdenied, hsame⟩ | ⟨hallowed, next, hnext, -, htally⟩
    · rw [hdenied, hsame]
      exact ih (h.mono hle) hrest
    · rw [hallowed, hnext, if_pos rfl, singleton_append, countP_cons]
      by_cases hearly : later < start
      · rw [if_neg (by simp; omega)]
        exact ih htally hrest
      · have hmono : (allowedTimes (c.single (some next) times)).countP
            (fun t => start ≤ t ∧ t < stop) ≤
              (allowedTimes (c.single (some next) times)).countP (· < stop) :=
          countP_mono_left fun t _ ht => by simp_all
        have hcount := @single_count _ _ _ hblock _ _ htally hrest stop
        have hpos := c.attempts_pos
        have hwindow := c.window_pos
        obtain ⟨rfl, hcounts⟩ := h
        obtain ⟨htally, -⟩ := htally
        cases stored with
        | none =>
          rw [Option.map_none, tally, Option.map_some, Option.some_inj, Prod.mk.injEq] at htally
          have := hcount (by omega)
          rw [if_pos (by omega)] at this
          split <;> omega
        | some entry =>
          have hone := (hcounts entry rfl).pos
          simp only [tally, Option.map_some] at htally
          by_cases hnew : c.window ≤ later - entry.firstAttempt
          · rw [if_pos hnew, Option.some_inj, Prod.mk.injEq] at htally
            have := hcount (by omega)
            rw [if_pos (by omega)] at this
            split <;> omega
          · rw [if_neg hnew, Option.some_inj, Prod.mk.injEq] at htally
            have := hcount (by omega)
            split at this <;> split <;> omega

lemma single_blocked {entry : LoginEntry} {times : List Nat} (hsorted : times.Pairwise (· ≤ ·))
    {item : Nat × Decision} (hitem : item ∈ c.single (some entry) times)
    (hearly : item.1 < entry.blockedUntil) : item.2.allowed = false := by
  induction times with
  | nil => cases hitem
  | cons now times ih =>
    obtain ⟨hfirst, hrest⟩ := pairwise_cons.mp hsorted
    have hnow : now < entry.blockedUntil := by
      rcases mem_cons.mp (mem_single hitem) with heq | hmem
      · exact heq ▸ hearly
      · exact lt_of_le_of_lt (hfirst _ hmem) hearly
    have hdenied : c.decision (some entry) now = (denied now entry, some entry) := by
      have hkept : c.kept now entry = true := by simp [kept, Nat.not_le_of_lt hnow]
      simp [decision, Option.filter_some_pos hkept, hnow]
    rw [single, hdenied] at hitem
    rcases mem_cons.mp hitem with rfl | hitem
    · rfl
    · exact ih hrest hitem

end

/-- The limits on the attempts of one key, if the table has room for all the keys that are seen. The
table itself never outgrows its limit. -/
theorem login_attempts_limited (c : LoginLimits) {calls : List (Nat × κ)}
    (hsorted : calls.Pairwise fun a b => a.1 ≤ b.1)
    (hkeys : (calls.map (·.2)).dedup.length ≤ c.maxEntries)
    (hblock : c.window ≤ c.blockDuration) (key : κ) :
    (∀ start length, length ≤ c.window → (allowedTimes (c.attemptsOf calls key)).countP
        (fun t => start ≤ t ∧ t < start + length) ≤ 2 * c.maxAttempts - 1) ∧
      (∀ done t decision left, c.attemptsOf calls key = done ++ (t, decision) :: left →
        decision.allowed → ∀ first count,
          (allowedTimes done ++ [t]).foldl c.tally none = some (first, count) →
            c.maxAttempts ≤ count →
              ∀ item ∈ left, item.1 < t + c.blockDuration → item.2.allowed = false) ∧
      c.attemptsOf calls key = c.attemptsOf (calls.filter fun call => call.2 = key) key ∧
      ∀ calls : List (Nat × κ), (c.entriesAfter calls).entries.length ≤ c.maxEntries := by
  have hown (calls' : List (Nat × κ)) (hsub : calls'.Sublist calls) :
      c.attemptsOf calls' key = c.single none ((calls'.filter fun call => call.2 = key).map (·.1)) :=
    log_own hkeys (fun call hcall => mem_dedup.mpr (mem_map_of_mem (hsub.subset hcall)))
      (hsorted.sublist hsub) (fun _ h => absurd rfl h) fun _ _ => rfl
  have htimes : (0 :: (calls.filter fun call => call.2 = key).map (·.1)).Pairwise (· ≤ ·) :=
    pairwise_cons.mpr ⟨fun _ _ => Nat.zero_le _, pairwise_map.mpr (hsorted.sublist filter_sublist)⟩
  have hrun := hown calls (Sublist.refl _)
  have hempty : c.Tallied none none 0 := ⟨rfl, nofun⟩
  refine ⟨fun start length hlength => ?_, fun done t decision left hsplit hallowed first count hcount
    hfull item hitem hearly => ?_, ?_, length_entriesAfter⟩
  · rw [hrun]
    exact single_interval hblock hempty htimes (by omega)
  · obtain ⟨now, stored, times, hleft, hleftSorted, htallied⟩ :=
      single_tallied hblock hempty htimes (hrun.symm.trans hsplit)
    cases times with
    | nil => cases hleft
    | cons later times =>
      obtain ⟨hfirst, hrest⟩ := pairwise_cons.mp hleftSorted
      rw [single, cons.injEq, Prod.mk.injEq] at hleft
      obtain ⟨⟨rfl, rfl⟩, rfl⟩ := hleft
      rw [foldl_append, foldl_cons, foldl_nil] at hcount
      rcases decision_cases htallied (hfirst t mem_cons_self) hblock with
        ⟨hdenied, -⟩ | ⟨-, entry, hentry, hseen, htally⟩
      · rw [hdenied] at hallowed
        cases hallowed
      · rw [hentry] at hitem
        obtain ⟨hwindow, hcounts⟩ := htally
        rw [hcount, Option.map_some, Option.some_inj, Prod.mk.injEq] at hwindow
        have huntil := (hcounts entry rfl).full (by omega)
        refine single_blocked (pairwise_cons.mp hrest).2 hitem ?_
        rw [huntil, hseen]
        exact hearly
  · rw [hrun, hown _ filter_sublist, filter_filter]
    simp

theorem login_attempts_limited_twice :
    (allowedTimes ((LoginLimits.of 2 1 1 4).attemptsOf [(0, 7), (1, 7), (2, 8), (3, 7)] 7)).countP
      (fun t => 0 ≤ t ∧ t < 0 + second) ≤ 3 :=
  (login_attempts_limited (LoginLimits.of 2 1 1 4) (by simp) (by decide) (le_refl _) 7).1 0 second
    (le_max_left _ _)

end LoginLimits

end Vibeshine.HttpAuth
