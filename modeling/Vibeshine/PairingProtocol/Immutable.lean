import Vibeshine.PairingProtocol.Authorization

/-! # The pending request under other requests

A request names its session by the unique id alone. The pending session stays
as it is under all requests but those that bring a well-formed phase parameter
under its own id.
-/

namespace Vibeshine.PairingProtocol

open Library

/-- The first phase parameter of the query that `pair` looks for is well formed. -/
def Args.hasPhaseParameter (args : Args) : Bool :=
  match args.clientchallenge with
  | some text => validHexField text 2 maxPairingHexFieldLength
  | none =>
    match args.serverchallengeresp with
    | some text => validHexField text 2 maxPairingHexFieldLength
    | none =>
      match args.clientpairingsecret with
      | some text => validHexField text 34 maxPairingHexFieldLength
      | none => false

namespace Host.Input

def isRequest : Input → Bool
  | .pair _ _ _ | .unpair _ _ _ => true
  | .pin _ _ _ | .administer _ => false

/-- A request that hands a phase parameter to the session of `uniqueId`. -/
def entersPhase (uniqueId : Text) : Input → Bool
  | .pair _ args _ =>
    args.uniqueid = some uniqueId && args.phrase ≠ some "getservercert".toList &&
      args.phrase ≠ some "pairchallenge".toList && args.hasPhaseParameter
  | _ => false

/-- A `getservercert` of the same id and certificate that is well formed. -/
def reopens (uniqueId : Text) (session : Session) : Input → Bool
  | .pair _ args _ =>
    args.uniqueid = some uniqueId && args.phrase = some "getservercert".toList &&
      validHexField (args.clientcert.getD []) 2 maxPairingHexFieldLength &&
      validHexField (args.salt.getD []) saltHexLength 128 &&
      session.cert = fromHexVec (args.clientcert.getD [])
  | _ => false

def expires (session : Session) : Input → Bool
  | .pair _ args around =>
    validUniqueId (args.uniqueid.getD []) && State.expired around.now session
  | _ => false

end Host.Input

namespace Host

variable {X509 : Type} {host : Host X509} {s : State} {uniqueId : Text} {session : Session}

lemma answer_sessions (connection : Nat) (reply : Reply) :
    (s.answer connection reply).sessions = s.sessions := rfl

lemma expirePairingSessions_sessions (now : Int) : (s.expirePairingSessions now).sessions =
      s.sessions.filter fun entry => !State.expired now entry.2 := by
  unfold State.expirePairingSessions
  generalize (s.sessions.filter fun entry => State.expired now entry.2) = gone
  generalize hkept : (s.sessions.filter fun entry => !State.expired now entry.2) = remaining
  have hsess : (State.mk remaining s.devices s.sent s.nextSerial s.log).sessions = remaining :=
    rfl
  generalize State.mk _ _ _ _ _ = kept at hsess ⊢
  induction gone generalizing kept with
  | nil => exact hsess
  | cons entry rest ih =>
    exact ih _ ((closePendingPairingResponse_sessions _ _ _ _).trans hsess)

lemma beginPairing_sessions (hsess : s.sessions = [(uniqueId, session)]) (connection : Nat)
    (requested : Text) (args : Args) (around : Surroundings)
    (hreopens : Input.reopens uniqueId session (.pair connection
      { args with uniqueid := some requested, phrase := some "getservercert".toList } around) =
        false) :
    (host.beginPairing s connection requested args around).sessions = s.sessions := by
  have hadmission : admitPendingSession requested (args.clientcert.getD []) (args.salt.getD [])
      s.sessions.length (s.find requested).isSome
      (sameIdentity (s.find requested) (args.clientcert.getD [])) ≠ none := by
    intro hadm
    obtain ⟨-, hcertificate, hsalt, hless | ⟨hreplacing, hsame⟩⟩ :=
      admitPendingSession_none hadm
    · rw [hsess] at hless
      exact absurd hless (by simp [maxPendingSessions])
    · unfold State.find at hreplacing hsame
      rw [hsess, List.lookup_cons] at hreplacing hsame
      split at hreplacing
      next heq =>
        simp only [heq, sameIdentity, hcertificate, Bool.true_and] at hsame
        have hid := beq_iff_eq.mp heq
        simp [Input.reopens, hid, hcertificate, hsalt, of_decide_eq_true hsame] at hreopens
      next => cases hreplacing
  unfold beginPairing
  dsimp only
  split
  next => rfl
  next hadm => exact absurd hadm hadmission

lemma lookupSession_fst {requested : Text} {args : Args} (around : Surroundings) (reply : Reply)
    (hparameter : args.hasPhaseParameter = false ∨ s.find requested = none) :
    (host.lookupSession s requested args around reply).1 = s := by
  unfold lookupSession
  split
  next => rfl
  next found hfound =>
    have hnone : args.hasPhaseParameter = false :=
      hparameter.resolve_right fun hnone => by rw [hnone] at hfound; cases hfound
    unfold Args.hasPhaseParameter at hnone
    unfold phaseParameters
    split
    next text htext =>
      simp only [htext] at hnone
      simp [hnone]
    next htext =>
      simp only [htext] at hnone
      split
      next text htext =>
        simp only [htext] at hnone
        simp [hnone]
      next htext =>
        simp only [htext] at hnone
        split
        next text htext =>
          simp only [htext] at hnone
          simp [hnone]
        next => rfl

lemma pair_sessions (hsess : s.sessions = [(uniqueId, session)]) (connection : Nat)
    (args : Args) (around : Surroundings)
    (henters : Input.entersPhase uniqueId (.pair connection args around) = false)
    (hexpires : Input.expires session (.pair connection args around) = false)
    (hreopens : Input.reopens uniqueId session (.pair connection args around) = false) :
    (host.pair s connection args around).sessions = s.sessions := by
  unfold pair
  split
  next => rfl
  next requested hrequested =>
    split
    next => rfl
    next hvalid =>
      rw [Bool.not_eq_true', Bool.not_eq_false] at hvalid
      have hlive : State.expired around.now session = false := by
        simpa [Input.expires, hrequested, hvalid] using hexpires
      have hkept : (s.expirePairingSessions around.now).sessions = [(uniqueId, session)] := by
        rw [expirePairingSessions_sessions, hsess]
        simp [hlive]
      dsimp only
      split
      next hphrase =>
        rw [beginPairing_sessions hkept, hkept, hsess]
        rw [← hrequested, ← hphrase]
        exact hreopens
      next hphrase =>
        split
        next =>
          rw [answer_sessions, hkept, hsess]
        next hother =>
          rw [answer_sessions, lookupSession_fst, hkept, hsess]
          by_cases hsame : requested = uniqueId
          · left
            simp only [Input.entersPhase, hrequested, hsame, hphrase, hother, ne_eq,
              not_false_eq_true, decide_true, Bool.true_and] at henters
            exact henters
          · right
            rw [State.find, hkept, List.lookup_cons, beq_false_of_ne hsame]
            rfl

lemma unpair_sessions (connection : Nat) (uuid : Option Text) (around : Surroundings) :
    (host.unpair s connection uuid around).sessions = s.sessions := by
  unfold unpair
  split
  next => split <;> rfl
  next => rfl

lemma step_sessions (hsess : s.sessions = [(uniqueId, session)]) {input : Input}
    (hrequest : input.isRequest = true) (henters : input.entersPhase uniqueId = false)
    (hexpires : input.expires session = false) (hreopens : input.reopens uniqueId session = false) :
    (host.step s input).sessions = [(uniqueId, session)] := by
  rw [← hsess]
  cases input with
  | pair connection args around =>
    exact pair_sessions hsess connection args around henters hexpires hreopens
  | unpair connection uuid around => exact unpair_sessions connection uuid around
  | pin | administer => cases hrequest

def Untouched (s : State) (uniqueId : Text) (session : Session) : Prop :=
  s.sessions = [(uniqueId, session)] ∧
    (session.lastPhase = .none → pinTarget s = some (uniqueId, session))

lemma Untouched.of_sessions (h : s.sessions = [(uniqueId, session)]) :
    Untouched s uniqueId session := by
  refine ⟨h, fun hphase => ?_⟩
  unfold pinTarget
  rw [h]
  exact if_pos hphase

/-- Requests that hand no phase parameter to the session leave it, and the
target of the next PIN, as they are until it expires or its own certificate
opens a new one. -/
theorem pending_request_immutable (h : host.server.Reachable s)
    (hfind : s.find uniqueId = some session) (inputs : List Input)
    (hinputs : ∀ input ∈ inputs, input.isRequest = true ∧ input.entersPhase uniqueId = false) :
    Untouched (host.server.run s inputs) uniqueId session ∨
      ∃ before last after, inputs = before ++ last :: after ∧
        Untouched (host.server.run s before) uniqueId session ∧
        (last.expires session = true ∨ last.reopens uniqueId session = true) := by
  have hsess := (invariant_of_reachable h).sessions_eq hfind
  clear h hfind
  induction inputs generalizing s with
  | nil => exact .inl (.of_sessions hsess)
  | cons input inputs ih =>
    obtain ⟨hrequest, henters⟩ := hinputs input List.mem_cons_self
    by_cases hends : input.expires session = true ∨ input.reopens uniqueId session = true
    · exact .inr ⟨[], input, inputs, rfl, .of_sessions hsess, hends⟩
    · obtain ⟨hexpires, hreopens⟩ := not_or.mp hends
      have hstep : (host.step s input).sessions = [(uniqueId, session)] :=
        step_sessions hsess hrequest henters (Bool.not_eq_true _ ▸ hexpires)
          (Bool.not_eq_true _ ▸ hreopens)
      refine (ih (fun other hother => hinputs other (List.mem_cons_of_mem _ hother)) hstep).imp id ?_
      rintro ⟨before, last, after, rfl, huntouched, hlast⟩
      exact ⟨input :: before, last, after, rfl, huntouched, hlast⟩

/-! ## A foreign request -/

def foreignArgs : Args where
  uniqueid := some "client".toList
  phrase := some "getservercert".toList
  clientcert := some "BB".toList
  salt := some (List.replicate 32 '0')

def pendingState : State := (plainHost false).server.run {} [.pair 1 openingArgs {}]

def pendingSession : Session where
  createdAt := 0
  uniqueId := "client".toList
  cert := [170]
  response := some 1
  salt := List.replicate 32 '0'
  serial := 0

def harmlessRequests : List Input :=
  [.pair 2 foreignArgs {}, .unpair 2 none {},
    .pair 2 { challengeArgs with phrase := some "pairchallenge".toList } {}]

theorem pending_request_immutable_harmless :
    Untouched ((plainHost false).server.run pendingState harmlessRequests) "client".toList
      pendingSession := by
  have hnone : ∀ last ∈ harmlessRequests, ¬(last.expires pendingSession = true ∨
      last.reopens "client".toList pendingSession = true) := by
    decide +kernel
  refine (pending_request_immutable (reachable_run _) (by decide +kernel) harmlessRequests
    (by decide +kernel)).resolve_right ?_
  rintro ⟨before, last, after, hinputs, -, hends⟩
  exact hnone last (hinputs ▸ List.mem_append_right _ List.mem_cons_self) hends

/-- A phase parameter out of order removes the request, and the next
`getservercert` puts another certificate in its place. -/
theorem pending_request_replaced : ¬ ∀ (host : Host Bytes) (s : State), host.server.Reachable s →
      ∀ (uniqueId : Text) (session : Session), s.find uniqueId = some session →
        ∀ inputs : List Input, (∀ input ∈ inputs, input.isRequest = true) →
          (∃ kept, (host.server.run s inputs).find uniqueId = some kept ∧
            kept.cert = session.cert ∧ kept.salt = session.salt ∧
            kept.lastPhase = session.lastPhase ∧ kept.response = session.response) ∨
          (∃ last ∈ inputs, last.expires session = true ∨ last.reopens uniqueId session = true) ∨
          ∃ secret sign, Entry.proved session.serial secret sign ∈
            (host.server.run s inputs).log := by
  intro hclaim
  have hrun := hclaim (plainHost false) pendingState (reachable_run _) "client".toList
    pendingSession (by decide +kernel) [.pair 2 challengeArgs {}, .pair 3 foreignArgs {}]
    (by decide +kernel)
  rcases hrun with ⟨kept, hkept, hcert, -⟩ | hends | ⟨secret, sign, hproved⟩
  · have htarget : ((plainHost false).server.run pendingState
        [.pair 2 challengeArgs {}, .pair 3 foreignArgs {}]).find "client".toList =
        some { pendingSession with cert := [187], response := some 3, serial := 1 } := by
      decide +kernel
    obtain rfl := Option.some.inj (htarget.symm.trans hkept)
    exact absurd hcert (by decide)
  · revert hends
    decide +kernel
  · have hlog : ((plainHost false).server.run pendingState
        [.pair 2 challengeArgs {}, .pair 3 foreignArgs {}]).log =
        [.created 0 [170], .created 1 [187]] := by
      decide +kernel
    rw [hlog] at hproved
    simp at hproved

end Host

end Vibeshine.PairingProtocol
