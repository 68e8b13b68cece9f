import Vibeshine.PairingProtocol.Grants

/-! # Authorization by pairing

A paired client that a request adds or enables is the end of one approved and
proven handshake, and a server secret is disclosed only once the hash of its
session is fixed.
-/

namespace Vibeshine.PairingProtocol

open Library List

namespace Host

variable {X509 : Type} {host : Host X509} {s : State}

/-! ## Changes of the paired clients -/

def Accounts (before after : State) : Prop :=
  ∀ device ∈ after.devices, device ∈ before.devices ∨
    ∃ serial, Entry.granted serial device ∈ after.log

lemma Accounts.of_eq {before after : State} (h : after.devices = before.devices) :
    Accounts before after := fun _ hdevice => .inl (h ▸ hdevice)

variable {devices : List Device}

lemma reauthorize_devices {around : Surroundings} {index : Nat}
    {device : Device} (h : device ∈ (host.reauthorize devices around index).devices) :
    device ∈ devices ∨ (host.reauthorize devices around index).granted = some device := by
  unfold reauthorize at h ⊢
  split at h
  next => exact .inl h
  next existing hexisting =>
    dsimp only
    split_ifs at h ⊢
    · exact .inl h
    · exact .inl h
    · exact (mem_or_eq_of_mem_set h).imp id fun heq => congrArg some heq.symm

lemma append_devices {around : Surroundings} {added device : Device}
    (h : device ∈ (host.append devices around added).devices) :
    device ∈ devices ∨ (host.append devices around added).granted = some device := by
  unfold append at h ⊢
  split_ifs at h ⊢
  · exact .inl h
  · exact .inl h
  · exact (mem_append.mp h).imp id fun hnew => congrArg some (mem_singleton.mp hnew).symm

lemma addAuthorizedClient_devices {around : Surroundings} {name : Text}
    {cert : Bytes} {device : Device}
    (h : device ∈ (host.addAuthorizedClient devices around name cert).devices) : device ∈ devices ∨
      (host.addAuthorizedClient devices around name cert).granted = some device := by
  unfold addAuthorizedClient at h ⊢
  split at h
  next => exact .inl h
  next candidate _ =>
    split_ifs at h ⊢
    · exact .inl h
    · split at h
      next => exact .inl h
      next records _ =>
        split at h
        next => exact .inl h
        next index _ => exact reauthorize_devices h
        next => exact append_devices h

section Handlers

variable {uniqueId : Text} {session : Session} {reply : Reply} (around : Surroundings)

lemma accounts_admitClient (secret sign : Bytes) :
    Accounts s (host.admitClient s session around secret sign reply).1 := by
  have hgranted : ∀ device ∈
      (host.addAuthorizedClient s.devices around session.name session.cert).devices,
      device ∈ s.devices ∨ ∃ serial, Entry.granted serial device ∈
        s.log ++ Entry.proved session.serial secret sign ::
          (host.addAuthorizedClient s.devices around session.name session.cert).granted.toList.map
            (Entry.granted session.serial) := by
    intro device hdevice
    refine (addAuthorizedClient_devices hdevice).imp id fun hnew => ⟨session.serial, ?_⟩
    exact mem_append_right _ (mem_cons_of_mem _ (by simp [hnew]))
  unfold admitClient
  dsimp only
  split
  next => exact hgranted
  next => exact hgranted

lemma accounts_clientpairingsecret (clientPairingSecret : Bytes) :
    Accounts s (host.clientpairingsecret s session around clientPairingSecret reply).1 := by
  unfold clientpairingsecret
  dsimp only
  split
  next => exact .of_eq rfl
  next =>
    split
    next => exact accounts_admitClient around _ _
    next => split <;> exact .of_eq rfl

lemma devices_getservercert (approval : Approval) :
    (host.getservercert s uniqueId session approval reply).1.devices = s.devices := by
  unfold getservercert
  dsimp only
  split <;> rfl

lemma devices_clientchallenge (challenge : Bytes) :
    (host.clientchallenge s uniqueId session around challenge reply).1.devices = s.devices := by
  unfold clientchallenge
  dsimp only
  split <;> rfl

lemma devices_serverchallengeresp (encryptedResponse : Bytes) :
    (host.serverchallengeresp s uniqueId session encryptedResponse reply).1.devices =
      s.devices := by
  unfold serverchallengeresp
  dsimp only
  split <;> rfl

lemma accounts_lookupSession (uniqueId : Text) (args : Args) (around : Surroundings) :
    Accounts s (host.lookupSession s uniqueId args around reply).1 := by
  unfold lookupSession
  split
  next => exact .of_eq rfl
  next session _ =>
    unfold phaseParameters
    split
    next =>
      split
      next => exact .of_eq rfl
      next => exact .of_eq (devices_clientchallenge around _)
    next =>
      split
      next =>
        split
        next => exact .of_eq rfl
        next => exact .of_eq (devices_serverchallengeresp _)
      next =>
        split
        next =>
          split
          next => exact .of_eq rfl
          next => exact accounts_clientpairingsecret around _
        next => exact .of_eq rfl

end Handlers

lemma devices_closePendingPairingResponse (session : Session) (statusCode : Nat)
    (statusMessage : String) :
    (s.closePendingPairingResponse session statusCode statusMessage).devices = s.devices := by
  unfold State.closePendingPairingResponse
  split <;> rfl

lemma devices_expirePairingSessions (now : Int) :
    (s.expirePairingSessions now).devices = s.devices := by
  unfold State.expirePairingSessions
  generalize (s.sessions.filter fun entry => State.expired now entry.2) = gone
  have hkept : (State.mk (s.sessions.filter fun entry => !State.expired now entry.2) s.devices
      s.sent s.nextSerial s.log).devices = s.devices := rfl
  generalize State.mk _ _ _ _ _ = kept at hkept ⊢
  induction gone generalizing kept with
  | nil => exact hkept
  | cons entry rest ih => exact ih _ ((devices_closePendingPairingResponse _ _ _).trans hkept)

variable (connection : Nat)

lemma accounts_openSession (uniqueId clientCertificate salt : Text)
    (args : Args) (around : Surroundings) :
    Accounts s (host.openSession s connection uniqueId clientCertificate salt args around) := by
  unfold openSession
  dsimp only
  split
  next =>
    intro device hdevice
    refine (accounts_lookupSession [] args around device hdevice).imp (fun hbefore => ?_) id
    rwa [devices_getservercert] at hbefore
  next => exact .of_eq rfl

lemma accounts_beginPairing (uniqueId : Text) (args : Args)
    (around : Surroundings) : Accounts s (host.beginPairing s connection uniqueId args around) := by
  unfold beginPairing
  dsimp only
  split
  next => exact .of_eq rfl
  next =>
    split
    next session _ =>
      intro device hdevice
      refine (accounts_openSession _ _ _ _ _ _ device hdevice).imp (fun hbefore => ?_) id
      exact devices_closePendingPairingResponse session _ _ ▸ hbefore
    next => exact accounts_openSession _ _ _ _ _ _

lemma accounts_pair (args : Args) (around : Surroundings) :
    Accounts s (host.pair s connection args around) := by
  have hexpired := @devices_expirePairingSessions s around.now
  unfold pair
  split
  next => exact .of_eq rfl
  next uniqueId _ =>
    split
    next => exact .of_eq rfl
    next =>
      intro device hdevice
      dsimp only at hdevice ⊢
      rw [← hexpired]
      split at hdevice
      next hphrase =>
        rw [if_pos hphrase]
        exact accounts_beginPairing connection uniqueId args around device hdevice
      next hphrase =>
        rw [if_neg hphrase]
        split at hdevice
        next => exact .inl hdevice
        next hother =>
          rw [if_neg hother]
          exact accounts_lookupSession uniqueId args around device hdevice

lemma devices_unpair (uuid : Option Text) (around : Surroundings) :
    ∀ device ∈ (host.unpair s connection uuid around).devices, device ∈ s.devices := by
  unfold unpair
  intro device hdevice
  split at hdevice
  next =>
    split at hdevice
    next => exact mem_of_mem_filter hdevice
    next => exact hdevice
  next => exact hdevice

lemma devices_pin (pin name : Text) (now : Int) : (host.pin s pin name now).1.devices = s.devices := by
  refine Eq.trans ?_ (devices_expirePairingSessions now)
  unfold Host.pin
  dsimp only
  split
  next => rfl
  next =>
    split
    next => rfl
    next =>
      split
      next => rfl
      next uniqueId session _ =>
        unfold submitPin
        split
        next => rfl
        next =>
          refine Eq.trans ?_ (@devices_getservercert _ host (s.expirePairingSessions now) uniqueId
            session {} (.web pin))
          dsimp only
          split
          next => rfl
          next =>
            split
            next => rfl
            next => split <;> rfl

/-! ## The guarantee -/

variable (host) in
def Authorized (log : List Entry) (device : Device) : Prop :=
  ∃ serial handshake, handshake.device = device ∧
    history serial log = host.entries serial handshake ∧ host.Approves handshake.approval ∧
    host.Proven handshake ∧ host.SameClient device handshake.cert

variable (host) in
def DisclosedAfterHash (log : List Entry) (serial : Nat) (pairingsecret : Text) : Prop :=
  ∃ handshake after, history serial log = (host.entries serial handshake).take 5 ++ after ∧
    host.pairingSecret handshake.serversecret = pairingsecret ∧
    ∀ clienthash, Entry.hashFixed serial clienthash ∉ after

lemma genuine_granted {serial : Nat} {log : List Entry} {device : Device}
    (h : host.Genuine serial log) (hmem : Entry.granted serial device ∈ log) :
    host.Authorized log device := by
  obtain ⟨handshake, stage, hreached, hhistory⟩ := h
  have hin : Entry.granted serial device ∈ history serial log := mem_history hmem rfl
  rw [hhistory] at hin
  have hlast : Entry.granted serial device = .granted serial handshake.device ∧ 7 ≤ stage := by
    match stage with
    | 0 | 1 | 2 | 3 | 4 | 5 | 6 => simp [entries] at hin
    | _ + 7 => exact ⟨by simpa [entries] using hin, by omega⟩
  obtain ⟨hdevice, hseven⟩ := hlast
  injection hdevice with _ hdevice
  refine ⟨serial, handshake, hdevice.symm, ?_, hreached.approved (by omega),
    hreached.proven (by omega), hdevice ▸ hreached.same hseven⟩
  rw [hhistory]
  exact take_of_length_le hseven

lemma genuine_disclosed {serial : Nat} {log : List Entry} {pairingsecret : Text}
    (h : host.Genuine serial log) (hmem : Entry.disclosed serial pairingsecret ∈ log) :
    host.DisclosedAfterHash log serial pairingsecret := by
  obtain ⟨handshake, stage, -, hhistory⟩ := h
  have hin : Entry.disclosed serial pairingsecret ∈ history serial log := mem_history hmem rfl
  rw [hhistory] at hin
  have hfive : 5 ≤ stage ∧ pairingsecret = host.pairingSecret handshake.serversecret := by
    match stage with
    | 0 | 1 | 2 | 3 | 4 => simp [entries] at hin
    | stage + 5 =>
      have hsub := mem_of_mem_take hin
      exact ⟨by omega, by simpa [entries] using hsub⟩
  refine ⟨handshake, ((host.entries serial handshake).take stage).drop 5, ?_, hfive.2.symm, ?_⟩
  · have hprefix : ((host.entries serial handshake).take stage).take 5 =
        (host.entries serial handshake).take 5 := by
      rw [take_take, Nat.min_eq_left hfive.1]
    rw [hhistory, ← hprefix, take_append_drop]
  · intro clienthash hafter
    rw [drop_take] at hafter
    simpa [entries] using mem_of_mem_take hafter

/-- Whatever the requests, PIN submissions and expiries so far, a client that
the next input pairs or enables is one whose handshake was opened with that
certificate, approved while alone and unopened, answered in order within one
session, and proven by the hash and the signature; and every server secret
sent out was disclosed after the client hash of its session. -/
theorem pairing_authorizes_only_approved (h : host.server.Reachable s) :
    (∀ input, (∀ devices, input ≠ .administer devices) → ∀ device ∈ (host.step s input).devices,
        device ∈ s.devices ∨ host.Authorized (host.step s input).log device) ∧
      ∀ message ∈ s.sent, ∀ text, message.2.pairingsecret = some text →
        ∃ serial, host.DisclosedAfterHash s.log serial text := by
  have hinvariant := invariant_of_reachable h
  refine ⟨fun input hpairing device hdevice => ?_, fun message hmessage text htext => ?_⟩
  · have hafter := invariant_step hinvariant input
    have haccounts : Accounts s (host.step s input) := by
      cases input with
      | pair connection args around => exact accounts_pair connection args around
      | unpair connection uuid around =>
        exact fun device hdevice => .inl (devices_unpair connection uuid around device hdevice)
      | pin pin name now => exact .of_eq (devices_pin pin name now)
      | administer devices => exact absurd rfl (hpairing devices)
    refine (haccounts device hdevice).imp id ?_
    rintro ⟨serial, hgranted⟩
    exact genuine_granted (hafter.genuine serial) hgranted
  · obtain ⟨serial, hdisclosed⟩ := hinvariant.sent message hmessage text htext
    exact ⟨serial, genuine_disclosed (hinvariant.genuine serial) hdisclosed⟩

/-! ## Two handshakes -/

lemma server_follows (inputs : List Input) (s : State) :
    host.server.Follows (fun _ _ => True) s inputs := by
  induction inputs generalizing s with
  | nil => trivial
  | cons input inputs ih => exact ⟨trivial, trivial, ih _⟩

lemma reachable_run (inputs : List Input) : host.server.Reachable (host.server.run {} inputs) :=
  .of_follows .refl (server_follows inputs _)

def plainHost (pinStdin : Bool) : Host Bytes where
  pinStdin := pinStdin
  freshState := false
  servercert := [1]
  serverSignature := [2]
  genAesKey := fun salt _ => salt
  encrypt := fun _ plaintext => plaintext
  decrypt := fun _ cipher => cipher
  hash := id
  sign256 := fun secret => secret ++ [9]
  x509 := some
  signature := fun certificate => certificate
  verify256 := fun certificate _ sign => sign = certificate
  encoded := some

/-- The `getservercert` request of the client `client` with certificate `AA`. -/
def openingArgs : Args where
  uniqueid := some "client".toList
  phrase := some "getservercert".toList
  clientcert := some "AA".toList
  salt := some (List.replicate 32 '0')

def challengeArgs : Args where
  uniqueid := some "client".toList
  clientchallenge := some "00".toList

/-- The hash of the challenge `07`, the signature `AA` and sixteen zero bytes. -/
def responseArgs : Args where
  uniqueid := some "client".toList
  serverchallengeresp := some ("07AA".toList ++ List.replicate 32 '0')

def secretArgs : Args where
  uniqueid := some "client".toList
  clientpairingsecret := some (List.replicate 32 '0' ++ "AA".toList)

def answers : List Input :=
  [.pair 2 challengeArgs { serversecret := [6], serverchallenge := [7] }, .pair 3 responseArgs {}]

def lastAnswer : Input :=
  .pair 4 secretArgs { uuid := "01234567-89ab-cdef-0123-456789abcdef".toList }

def pairedDevice : Device where
  name := "Moonlight Client".toList
  cert := [170]
  uuid := "01234567-89ab-cdef-0123-456789abcdef".toList
  enabled := true

theorem pairing_authorizes_only_approved_web : (plainHost false).Authorized
      ((plainHost false).step ((plainHost false).server.run {}
        (.pair 1 openingArgs {} :: .pin "1234".toList [] 0 :: answers)) lastAnswer).log
      pairedDevice :=
  ((pairing_authorizes_only_approved (reachable_run _)).1 lastAnswer (fun _ => nofun) pairedDevice
    (by decide +kernel)).resolve_left (by decide +kernel)

/-- With `PIN_STDIN` an empty console line is a PIN. -/
theorem pairing_accepts_empty_console_pin :
    ¬ ∀ (host : Host Bytes) (s : State), host.server.Reachable s →
      ∀ input, (∀ devices, input ≠ .administer devices) →
        ∀ device ∈ (host.step s input).devices, device ∈ s.devices ∨
          ∃ serial handshake, handshake.device = device ∧
            history serial (host.step s input).log = host.entries serial handshake ∧
            validPin handshake.approval.pin = true := by
  intro hclaim
  obtain ⟨serial, handshake, -, hhistory, hpin⟩ := (hclaim (plainHost true)
    ((plainHost true).server.run {} (.pair 1 openingArgs {} :: answers)) (reachable_run _) lastAnswer
    (fun _ => nofun) pairedDevice (by decide +kernel)).resolve_left (by decide +kernel)
  have hmem : Entry.approved serial handshake.approval 1 .none ∈ ((plainHost true).step
      ((plainHost true).server.run {} (.pair 1 openingArgs {} :: answers)) lastAnswer).log := by
    refine mem_of_mem_filter (p := fun entry => entry.serial = serial) ?_
    rw [← history, hhistory]
    simp [entries]
  have hlog : ((plainHost true).step ((plainHost true).server.run {}
      (.pair 1 openingArgs {} :: answers)) lastAnswer).log =
      [.created 0 [170], .approved 0 (.console []) 1 .none, .challenged 0 [7],
        .hashFixed 0 (7 :: 170 :: List.replicate 16 0),
        .disclosed 0 ((plainHost true).pairingSecret [6]),
        .proved 0 (List.replicate 16 0) [170], .granted 0 pairedDevice] := by
    decide +kernel
  rw [hlog] at hmem
  obtain ⟨-, happroval⟩ : serial = 0 ∧ handshake.approval = .console [] := by simpa using hmem
  rw [happroval] at hpin
  exact absurd hpin (by decide)

end Host

end Vibeshine.PairingProtocol
