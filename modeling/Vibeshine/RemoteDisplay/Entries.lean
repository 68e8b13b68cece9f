import Vibeshine.RemoteDisplay.Coordinator

/-! # Entries and their records

A release clears a role, runs callbacks that may retune the modes of any client, and
gives the role back when one of them fails. The record of an entry is everything but
its effective mode, so that a failed release is one that leaves the records alone.
-/

namespace Vibeshine.RemoteDisplay

open List

variable {clients : Clients} {uuid other : String} {client : Client} {f g : Client → Client}

/-! ## Lookup, update, and removal -/

lemma mem_of_lookup (h : clients.lookup uuid = some client) : (uuid, client) ∈ clients := by
  obtain ⟨front, back, rfl, -⟩ := lookup_eq_some_iff.mp h
  simp

lemma lookup_of_mem (hkeys : (clients.map (·.1)).Nodup) (h : (uuid, client) ∈ clients) :
    clients.lookup uuid = some client := by
  induction clients with
  | nil => cases h
  | cons entry rest ih =>
    obtain ⟨key, first⟩ := entry
    rw [map_cons, nodup_cons] at hkeys
    rcases mem_cons.mp h with hfirst | hrest
    · cases hfirst
      exact lookup_cons_self
    · have hne : uuid ≠ key := by
        rintro rfl
        exact hkeys.1 (mem_map.mpr ⟨_, hrest, rfl⟩)
      rw [lookup_cons, beq_eq_false_iff_ne.mpr hne]
      exact ih hkeys.2 hrest

lemma mem_unique (hkeys : (clients.map (·.1)).Nodup) {first second : Client}
    (hfirst : (uuid, first) ∈ clients) (hsecond : (uuid, second) ∈ clients) : first = second := by
  have := lookup_of_mem hkeys hfirst
  rw [lookup_of_mem hkeys hsecond] at this
  exact (Option.some.inj this).symm

lemma lookup_eq_none_iff_not_mem : clients.lookup uuid = none ↔ uuid ∉ clients.map (·.1) := by
  simp only [lookup_eq_none_iff, mem_map, bne_iff_ne, Prod.exists, not_exists, not_and]
  constructor
  · intro h key client hmem heq
    exact h (key, client) hmem heq.symm
  · intro h entry hmem heq
    exact h entry.1 entry.2 hmem heq.symm

@[simp] lemma modifyClient_keys : (modifyClient uuid f clients).map (·.1) = clients.map (·.1) := by
  simp only [modifyClient, map_map]
  refine map_congr_left fun entry _ => ?_
  dsimp only [Function.comp]
  split <;> rfl

variable {entry : String × Client}

lemma mem_modifyClient : entry ∈ modifyClient uuid f clients ↔ (entry ∈ clients ∧ entry.1 ≠ uuid) ∨
        ∃ client, (uuid, client) ∈ clients ∧ entry = (uuid, f client) := by
  simp only [modifyClient, mem_map]
  constructor
  · rintro ⟨source, hmem, rfl⟩
    by_cases hkey : source.1 = uuid
    · subst hkey
      simp only [if_true]
      exact .inr ⟨source.2, hmem, rfl⟩
    · simp only [if_neg hkey]
      exact .inl ⟨hmem, hkey⟩
  · rintro (⟨hmem, hkey⟩ | ⟨client, hmem, rfl⟩)
    · exact ⟨entry, hmem, if_neg hkey⟩
    · exact ⟨(uuid, client), hmem, if_pos rfl⟩

lemma lookup_modifyClient_self :
    (modifyClient uuid f clients).lookup uuid = (clients.lookup uuid).map f := by
  induction clients with
  | nil => rfl
  | cons entry rest ih =>
    obtain ⟨key, first⟩ := entry
    by_cases hkey : key = uuid
    · subst hkey
      simp [modifyClient]
    · have hne : (uuid == key) = false := beq_eq_false_iff_ne.mpr (Ne.symm hkey)
      have hhead : modifyClient uuid f ((key, first) :: rest) =
          (key, first) :: modifyClient uuid f rest := by simp [modifyClient, hkey]
      rw [hhead, lookup_cons, lookup_cons, hne]
      exact ih

lemma modifyClient_modifyClient :
    modifyClient uuid f (modifyClient uuid g clients) = modifyClient uuid (f ∘ g) clients := by
  simp only [modifyClient, map_map]
  refine map_congr_left fun entry _ => ?_
  by_cases hkey : entry.1 = uuid <;> simp [Function.comp, hkey]

lemma modifyClient_eq_self (h : ∀ client, (uuid, client) ∈ clients → f client = client) :
    modifyClient uuid f clients = clients := by
  conv_rhs => rw [← map_id clients]
  refine map_congr_left fun entry hmem => ?_
  by_cases hkey : entry.1 = uuid
  · subst hkey
    simp [h entry.2 hmem]
  · simp [hkey]

lemma modifyClient_congr (h : ∀ client, (uuid, client) ∈ clients → f client = g client) :
    modifyClient uuid f clients = modifyClient uuid g clients := by
  refine map_congr_left fun entry hmem => ?_
  by_cases hkey : entry.1 = uuid
  · subst hkey
    simp [h entry.2 hmem]
  · simp [hkey]

lemma mem_eraseClient : entry ∈ eraseClient uuid clients ↔ entry ∈ clients ∧ entry.1 ≠ uuid := by
  simp [eraseClient]

lemma eraseClient_modifyClient :
    eraseClient uuid (modifyClient uuid f clients) = eraseClient uuid clients := by
  induction clients with
  | nil => rfl
  | cons entry rest ih =>
    by_cases hkey : entry.1 = uuid
    · simpa [eraseClient, modifyClient, hkey] using ih
    · simpa [eraseClient, modifyClient, hkey] using ih

lemma eraseClient_keys_nodup (hkeys : (clients.map (·.1)).Nodup) :
    ((eraseClient uuid clients).map (·.1)).Nodup :=
  hkeys.sublist (filter_sublist.map _)

def Client.record (client : Client) : Client := { client with effectiveMode := {} }

def records (clients : Clients) : Clients := clients.map fun entry => (entry.1, entry.2.record)

@[simp] lemma records_keys : (records clients).map (·.1) = clients.map (·.1) := by
  simp only [records, map_map]
  rfl

lemma records_modifyClient (h : ∀ client, (f client).record = g client.record) :
    records (modifyClient uuid f clients) = modifyClient uuid g (records clients) := by
  simp only [records, modifyClient, map_map]
  refine map_congr_left fun entry _ => ?_
  by_cases hkey : entry.1 = uuid <;> simp [Function.comp, hkey, h]

lemma records_eraseClient :
    records (eraseClient uuid clients) = eraseClient uuid (records clients) := by
  simp only [records, eraseClient, filter_map]
  rfl

lemma records_lookup : (records clients).lookup uuid = (clients.lookup uuid).map Client.record := by
  induction clients with
  | nil => rfl
  | cons entry rest ih =>
    obtain ⟨key, first⟩ := entry
    have hhead : records ((key, first) :: rest) = (key, first.record) :: records rest := rfl
    rw [hhead, lookup_cons, lookup_cons]
    split
    · rfl
    · exact ih

lemma mem_records :
    entry ∈ records clients ↔ ∃ client, (entry.1, client) ∈ clients ∧ client.record = entry.2 := by
  simp only [records, mem_map]
  constructor
  · rintro ⟨source, hmem, rfl⟩
    exact ⟨source.2, hmem, rfl⟩
  · rintro ⟨client, hmem, hrecord⟩
    exact ⟨(entry.1, client), hmem, Prod.ext rfl hrecord⟩

@[simp] lemma Client.owning_record : client.record.owning = client.owning := rfl

section

variable (installed : Bool) (except : String) (observe : String → Option Mode)

lemma records_refreshClients (clients : Clients) :
    records (refreshClients installed except observe clients).2.1 = records clients := by
  induction clients with
  | nil => rfl
  | cons entry rest ih =>
    obtain ⟨key, first⟩ := entry
    unfold refreshClients
    split
    · exact congrArg (List.cons _) ih
    · split
      · rfl
      · split
        · rfl
        · split
          · rfl
          · exact congrArg (List.cons _) ih

lemma refreshClients_calls (clients : Clients) :
    ∀ call ∈ (refreshClients installed except observe clients).2.2,
      ∃ uuid answer, call = .observed uuid answer := by
  induction clients with
  | nil => intro call hmem; cases hmem
  | cons entry rest ih =>
    obtain ⟨key, first⟩ := entry
    unfold refreshClients
    split
    · exact ih
    · split
      · intro call hmem; cases hmem
      · split
        · intro call hmem
          exact ⟨key, none, mem_singleton.mp hmem⟩
        · split
          · intro call hmem
            exact ⟨key, _, mem_singleton.mp hmem⟩
          · intro call hmem
            rcases mem_append.mp hmem with hmem | hmem
            · exact ih call hmem
            · exact ⟨key, _, mem_singleton.mp hmem⟩

end

/-! ## Calls -/

/-- The latest answer of `observe_shared_mode` for a client. -/
def latestObservation (uuid : String) : List Call → Option (Option Mode)
  | [] => none
  | .observed other answer :: before =>
    if other = uuid then some answer else latestObservation uuid before
  | _ :: before => latestObservation uuid before

def Confirmed (calls : List Call) (uuid : String) (mode : Mode) : Prop :=
  ∃ observed, latestObservation uuid calls = some (some observed) ∧ observed.usable = true ∧
    mode.width = observed.width ∧ mode.height = observed.height ∧
    mode.refreshHz = observed.refreshHz

/-- Every owner whose shared geometry is unverified shows what was observed last. The
empty identity is the exemption of the default argument. -/
def Grounded (calls : List Call) (clients : Clients) (except : String) : Prop :=
  ∀ uuid client, (uuid, client) ∈ clients → client.owning = true →
    client.sharedModeUnverified = true → uuid ≠ except → uuid ≠ "" →
      Confirmed calls uuid client.effectiveMode

def Lawful (handles : List (String × Nat)) (before : List Call) : Call → Prop
  | .observed _ _ => True
  | .applied nodes baseline clients _ =>
    Grounded before clients "" ∧ ∃ layout, nodes = composeLocked layout baseline clients
  | .removed uuid clients _ | .terminated uuid clients _ =>
    (∀ token, (uuid, token) ∉ handles) ∧ ∀ client, (uuid, client) ∈ clients → client.owning = false

def LawfulCalls (handles : List (String × Nat)) : List Call → Prop
  | [] => True
  | call :: before => Lawful handles before call ∧ LawfulCalls handles before

lemma lawfulCalls_append_observed {handles : List (String × Nat)} {new before : List Call}
    (hnew : ∀ call ∈ new, ∃ uuid answer, call = .observed uuid answer)
    (h : LawfulCalls handles before) : LawfulCalls handles (new ++ before) := by
  induction new with
  | nil => exact h
  | cons call rest ih =>
    obtain ⟨uuid, answer, rfl⟩ := hnew call mem_cons_self
    exact ⟨trivial, ih fun call hmem => hnew call (mem_cons_of_mem _ hmem)⟩

lemma LawfulCalls.of_suffix {handles : List (String × Nat)} {calls before : List Call}
    {call : Call} (h : LawfulCalls handles calls) (hsuffix : call :: before <:+ calls) :
    Lawful handles before call := by
  induction calls with
  | nil => cases eq_nil_of_suffix_nil hsuffix
  | cons newest older ih =>
    rcases suffix_cons_iff.mp hsuffix with heq | hsuffix
    · cases heq
      exact h.1
    · exact ih h.2 hsuffix

lemma latestObservation_append_of_unobserved {new before : List Call}
    (h : ∀ answer, .observed uuid answer ∉ new) :
    latestObservation uuid (new ++ before) = latestObservation uuid before := by
  induction new with
  | nil => rfl
  | cons call rest ih =>
    have hrest : latestObservation uuid (rest ++ before) = latestObservation uuid before :=
      ih fun answer hmem => h answer (mem_cons_of_mem _ hmem)
    cases call with
    | observed key answer =>
      have hkey : key ≠ uuid := by
        rintro rfl
        exact h answer mem_cons_self
      simpa [latestObservation, hkey] using hrest
    | applied | removed | terminated => simpa [latestObservation] using hrest

lemma latestObservation_congr_of_ne (h : other ≠ uuid) (new before : List Call)
    {answer : Option Mode} : latestObservation uuid (new ++ ([.observed other answer] ++ before)) =
      latestObservation uuid (new ++ before) := by
  induction new with
  | nil => simp [latestObservation, h]
  | cons call rest ih =>
    cases call with
    | observed key observed =>
      by_cases hkey : key = uuid
      · simp [latestObservation, hkey]
      · simpa [latestObservation, hkey] using ih
    | applied | removed | terminated => simpa [latestObservation] using ih

section

variable (installed : Bool) (except : String) (observe : String → Option Mode)

lemma refreshClients_keys (clients : Clients) :
    (refreshClients installed except observe clients).2.1.map (·.1) = clients.map (·.1) := by
  rw [← records_keys, records_refreshClients, records_keys]

lemma refreshClients_observed (clients : Clients) {answer : Option Mode}
    (h : .observed uuid answer ∈ (refreshClients installed except observe clients).2.2) :
    uuid ∈ clients.map (·.1) := by
  induction clients with
  | nil => cases h
  | cons entry rest ih =>
    obtain ⟨key, first⟩ := entry
    unfold refreshClients at h
    split at h
    · exact mem_cons_of_mem _ (ih h)
    · split at h
      · cases h
      · split at h
        · cases mem_singleton.mp h
          exact mem_cons_self
        · split at h
          · cases mem_singleton.mp h
            exact mem_cons_self
          · rcases mem_append.mp h with h | h
            · exact mem_cons_of_mem _ (ih h)
            · cases mem_singleton.mp h
              exact mem_cons_self

lemma refreshClients_grounded (clients : Clients) (hkeys : (clients.map (·.1)).Nodup)
    (hknown : (refreshClients installed except observe clients).1 = true) (before : List Call) :
    Grounded ((refreshClients installed except observe clients).2.2 ++ before)
      (refreshClients installed except observe clients).2.1 except := by
  induction clients with
  | nil => intro uuid client hmem; cases hmem
  | cons entry rest ih =>
    obtain ⟨key, first⟩ := entry
    rw [map_cons, nodup_cons] at hkeys
    unfold refreshClients at hknown ⊢
    split at hknown
    · next hskip =>
      rw [if_pos hskip]
      intro uuid client hmem howning hunverified hexcept hempty
      rcases mem_cons.mp hmem with hfirst | hrest
      · cases hfirst
        simp [howning, hunverified, hexcept] at hskip
      · exact ih hkeys.2 hknown uuid client hrest howning hunverified hexcept hempty
    · next hskip =>
      rw [if_neg hskip]
      split at hknown
      · cases hknown
      · next hinstalled =>
        rw [if_neg hinstalled]
        split at hknown
        · cases hknown
        · next mode hobserve =>
          split at hknown
          · cases hknown
          · next husable =>
            simp only [if_neg husable]
            intro uuid client hmem howning hunverified hexcept hempty
            rcases mem_cons.mp hmem with hfirst | hrest
            · cases hfirst
              have hunobserved : ∀ answer, Call.observed key answer ∉
                  (refreshClients installed except observe rest).2.2 := fun answer hcall =>
                hkeys.1 (refreshClients_observed installed except observe rest hcall)
              refine ⟨mode, ?_, by simpa using husable, rfl, rfl, rfl⟩
              rw [append_assoc, latestObservation_append_of_unobserved hunobserved]
              simp [latestObservation]
            · rw [append_assoc]
              have hne : key ≠ uuid := by
                rintro rfl
                refine hkeys.1 ?_
                rw [← refreshClients_keys installed except observe rest]
                exact mem_map.mpr ⟨_, hrest, rfl⟩
              obtain ⟨observed, hlatest, hrest⟩ :=
                ih hkeys.2 hknown uuid client hrest howning hunverified hexcept hempty
              refine ⟨observed, ?_, hrest⟩
              exact (latestObservation_congr_of_ne hne _ before).trans hlatest

end

end Vibeshine.RemoteDisplay
