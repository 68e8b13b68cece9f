import Vibeshine.Ipc.FramedPipe

/-! # The anonymous-pipe handshake

Server and client agree over a control pipe whether to move to a data pipe. Both decide by
deadlines of their own; a read may return any part of what is on the way.
-/

namespace Vibeshine.Ipc.Handshake

open Library List Bool

def ackMsg : UInt8 := 2
def kMaxHandshakeFrameLen : Nat := 2 * 1024 * 1024
def kMaxHandshakePrefetchBytes : Nat := 65536

/-- `sizeof(AnonConnectMsg)`: forty characters of two bytes. -/
def connectMsgSize : Nat := 80

def looksLikeFramedPayloadHeader : List UInt8 → Bool
  | a :: b :: c :: d :: _ =>
    decide (0 < FramedPipe.headerLength a b c d) &&
      decide (FramedPipe.headerLength a b c d ≤ kMaxHandshakeFrameLen)
  | _ => false

/-! ## The two ends -/

/-- Where `maybe_handshake` stands; the bytes are those buffered so far. -/
inductive Server where
  | idle
  /-- About to receive, in `wait_for_handshake_ack`. -/
  | waiting (buffered : List UInt8)
  /-- About to poll for what follows an ACK. -/
  | peeking (buffered : List UInt8)
  | acked (buffered : List UInt8)
  /-- The data pipe exists. -/
  | listening (buffered : List UInt8)
  /-- The data pipe had no client, and still exists. -/
  | closing (buffered : List UInt8)
  /-- Connected over the control pipe, through a `PrefetchedPipe` of these bytes. -/
  | control (prefetched : List UInt8)
  | data
  | stopped
  deriving DecidableEq

/-- Where `handshake_client` stands. -/
inductive Client where
  | receiving (prefetched : List UInt8)
  /-- The message is read; these bytes came with it. -/
  | acking (prefetched : List UInt8)
  | connecting (prefetched : List UInt8)
  | control (prefetched : List UInt8)
  | data
  | failed
  deriving DecidableEq

/-- Both ends, what is on the way, and a record of what the applications sent on each pipe and
received. -/
structure State where
  server : Server := .idle
  client : Client
  toServer : List UInt8 := []
  toClient : List UInt8 := []
  dataToServer : List UInt8 := []
  dataToClient : List UInt8 := []
  messageSent : Bool := false
  ackSent : Bool := false
  controlUp : List UInt8 := []
  controlDown : List UInt8 := []
  dataUp : List UInt8 := []
  dataDown : List UInt8 := []
  serverReceived : List UInt8 := []
  clientReceived : List UInt8 := []

variable (buffered : List UInt8)

def classify : Server :=
  if looksLikeFramedPayloadHeader buffered then .control buffered
  else if buffered.head? = some ackMsg then
    if buffered.length < 4 then .peeking buffered else .acked buffered.tail
  else if kMaxHandshakePrefetchBytes < buffered.length then .control buffered
  else .waiting buffered

def classifyMessage (prefetched : List UInt8) : Client :=
  if connectMsgSize ≤ prefetched.length then .acking (prefetched.drop connectMsgSize)
  else if looksLikeFramedPayloadHeader prefetched then .control prefetched
  else .receiving prefetched

inductive Event where
  /-- `maybe_handshake` begins; the message may fail to be sent. -/
  | offer (sent : Bool)
  | serverReads (count : Nat)
  /-- The ACK wait ends at its deadline, or because the pipe broke. -/
  | serverGivesUp
  | serverPeeks (count : Nat)
  /-- The poll finds nothing. -/
  | serverPeeksNothing
  | peekBreaks
  /-- `create_server` for the data pipe. -/
  | serverCreates (created : Bool)
  /-- `is_connected` of the data pipe. -/
  | serverInspects
  | serverCloses
  | serverStops
  | clientReads (count : Nat)
  /-- Deadline or empty reads: the client takes the control pipe for an inline one. -/
  | clientGivesUp
  | clientAcks
  | clientConnects
  /-- No data pipe before the deadline. -/
  | clientFallsBack
  | clientFails
  | serverSends (bytes : List UInt8)
  | serverReceives (count : Nat)
  | clientSends (bytes : List UInt8)
  | clientReceives (count : Nat)

variable (message : List UInt8)

/-- `PrefetchedPipe::receive`: the bytes handed over, what is left, and the pipe behind. -/
def prefetchedReceive (prefetched pipe : List UInt8) (count : Nat) :
    List UInt8 × List UInt8 × List UInt8 :=
  if prefetched = [] then (pipe.take count, [], pipe.drop count)
  else (prefetched.take count, prefetched.drop count, pipe)

def State.step (s : State) : Event → State
  | .offer sent =>
    if sent then
      { s with server := .waiting [], messageSent := true, toClient := s.toClient ++ message }
    else { s with server := .control [] }
  | .serverReads count =>
    match s.server with
    | .waiting buffered =>
      { s with
        server := classify (buffered ++ s.toServer.take count)
        toServer := s.toServer.drop count }
    | _ => s
  | .serverGivesUp =>
    match s.server with
    | .waiting buffered => { s with server := .control buffered }
    | _ => s
  | .serverPeeks count =>
    match s.server with
    | .peeking buffered =>
      { s with
        server := .waiting (buffered ++ s.toServer.take count)
        toServer := s.toServer.drop count }
    | _ => s
  | .serverPeeksNothing =>
    match s.server with
    | .peeking buffered => { s with server := .acked buffered.tail }
    | _ => s
  | .peekBreaks =>
    match s.server with
    | .peeking buffered => { s with server := .control buffered }
    | _ => s
  | .serverCreates created =>
    match s.server with
    | .acked buffered => { s with server := if created then .listening buffered else .control buffered }
    | _ => s
  | .serverInspects =>
    match s.server with
    | .listening buffered =>
      { s with server := if s.client = .data then .data else .closing buffered }
    | _ => s
  | .serverCloses =>
    match s.server with
    | .closing buffered => { s with server := .control buffered }
    | _ => s
  | .serverStops => { s with server := .stopped }
  | .clientReads count =>
    match s.client with
    | .receiving prefetched =>
      { s with
        client := classifyMessage (prefetched ++ s.toClient.take count)
        toClient := s.toClient.drop count }
    | _ => s
  | .clientGivesUp =>
    match s.client with
    | .receiving prefetched => { s with client := .control prefetched }
    | _ => s
  | .clientAcks =>
    match s.client with
    | .acking prefetched =>
      { s with
        client := .connecting prefetched
        ackSent := true
        toServer := s.toServer ++ [ackMsg] }
    | _ => s
  | .clientConnects => { s with client := .data }
  -- The pipe itself is returned, without the bytes that were read with the message.
  | .clientFallsBack => { s with client := .control [] }
  | .clientFails => { s with client := .failed }
  | .serverSends bytes =>
    match s.server with
    | .control _ => { s with controlDown := s.controlDown ++ bytes, toClient := s.toClient ++ bytes }
    | .data => { s with dataDown := s.dataDown ++ bytes, dataToClient := s.dataToClient ++ bytes }
    | _ => s
  | .serverReceives count =>
    match s.server with
    | .control prefetched =>
      let read := prefetchedReceive prefetched s.toServer count
      { s with
        server := .control read.2.1
        toServer := read.2.2
        serverReceived := s.serverReceived ++ read.1 }
    | .data =>
      { s with
        dataToServer := s.dataToServer.drop count
        serverReceived := s.serverReceived ++ s.dataToServer.take count }
    | _ => s
  | .clientSends bytes =>
    match s.client with
    | .control _ => { s with controlUp := s.controlUp ++ bytes, toServer := s.toServer ++ bytes }
    | .data => { s with dataUp := s.dataUp ++ bytes, dataToServer := s.dataToServer ++ bytes }
    | _ => s
  | .clientReceives count =>
    match s.client with
    | .control prefetched =>
      let read := prefetchedReceive prefetched s.toClient count
      { s with
        client := .control read.2.1
        toClient := read.2.2
        clientReceived := s.clientReceived ++ read.1 }
    | .data =>
      { s with
        dataToClient := s.dataToClient.drop count
        clientReceived := s.clientReceived ++ s.dataToClient.take count }
    | _ => s

variable (legacy : Bool)

def Framed (bytes : List UInt8) : Prop :=
  4 ≤ bytes.length → looksLikeFramedPayloadHeader bytes = true

def State.Admits (s : State) : Event → Prop
  | .offer _ => s.server = .idle
  | .serverReads count =>
    (∃ buffered, s.server = .waiting buffered) ∧ 0 < count ∧ count ≤ 64 ∧ count ≤ s.toServer.length
  | .serverGivesUp => ∃ buffered, s.server = .waiting buffered
  | .serverPeeks count =>
    (∃ buffered, s.server = .peeking buffered) ∧ 0 < count ∧ count ≤ 64 ∧ count ≤ s.toServer.length
  | .serverPeeksNothing | .peekBreaks => ∃ buffered, s.server = .peeking buffered
  | .serverCreates _ => ∃ buffered, s.server = .acked buffered
  | .serverInspects => ∃ buffered, s.server = .listening buffered
  | .serverCloses => ∃ buffered, s.server = .closing buffered
  | .clientReads count =>
    (∃ prefetched, s.client = .receiving prefetched) ∧ 0 < count ∧ count ≤ 256 ∧
      count ≤ s.toClient.length
  | .clientGivesUp => ∃ prefetched, s.client = .receiving prefetched
  | .clientAcks => ∃ prefetched, s.client = .acking prefetched
  | .clientConnects =>
    (∃ prefetched, s.client = .connecting prefetched) ∧
      ∃ buffered, s.server = .listening buffered ∨ s.server = .closing buffered
  | .clientFallsBack => ∃ prefetched, s.client = .connecting prefetched
  | .clientFails =>
    (∃ prefetched, s.client = .receiving prefetched ∨ s.client = .acking prefetched ∨
      s.client = .connecting prefetched) ∨
    (s.client = .data ∧ s.dataUp = [] ∧ s.clientReceived = [])
  | .clientSends bytes => legacy = true → Framed (s.controlUp ++ bytes)
  | .serverStops | .serverSends _ | .serverReceives _ | .clientReceives _ => True

def ends : System State Event where
  init := { client := if legacy then .control [] else .receiving [] }
  admits := State.Admits legacy
  step := State.step message

def State.Clean (s : State) : Event → Prop
  -- The client has not yet decided that there is no message.
  | .offer sent => sent = true → legacy = false → ∀ prefetched, s.client ≠ .control prefetched
  -- An ACK that is on the way is not taken for the start of a framed message.
  | .serverReads count => ∀ buffered, s.server = .waiting buffered → s.ackSent = true →
      looksLikeFramedPayloadHeader (buffered ++ s.toServer.take count) = false
  | .serverGivesUp | .peekBreaks => s.ackSent = false
  | .serverPeeksNothing => s.ackSent = true
  -- What is long enough for the message is the message.
  | .clientReads count => ∀ prefetched, s.client = .receiving prefetched →
      connectMsgSize ≤ (prefetched ++ s.toClient.take count).length → s.messageSent = true
  | .clientGivesUp => s.messageSent = false
  -- The server still waits for it, or is gone.
  | .clientAcks => (∃ buffered, s.server = .waiting buffered) ∨
      (s.server = .stopped ∧ s.client = .acking [])
  | .clientConnects => ∃ buffered, s.server = .listening buffered
  | _ => True

/-- Two connected ends use one pipe, and each application reads what the other sent on it. -/
structure Transparent (s : State) : Prop where
  same : ((∃ p, s.server = .control p) → s.client ≠ .data) ∧
    (s.server = .data → ∀ p, s.client ≠ .control p)
  upControl : ∀ p, s.server = .control p → s.serverReceived <+: s.controlUp
  upData : s.server = .data → s.serverReceived <+: s.dataUp
  downControl : legacy = false → ∀ p, s.client = .control p → s.clientReceived <+: s.controlDown
  downData : s.client = .data → s.clientReceived <+: s.dataDown

/-! ## The invariant -/

def Server.Early : Server → Prop
  | .control _ | .data | .stopped => False
  | _ => True

def State.ack (s : State) : List UInt8 := if s.ackSent then [ackMsg] else []

def State.offered (s : State) : List UInt8 := if s.messageSent then message else []

def Upstream (s : State) : Prop :=
  match s.server with
  | .idle => s.ack ++ s.controlUp = s.toServer ∧ s.serverReceived = []
  | .waiting b => s.ack ++ s.controlUp = b ++ s.toServer ∧ s.serverReceived = []
  | .peeking b =>
    s.ack ++ s.controlUp = b ++ s.toServer ∧ s.serverReceived = [] ∧ b.head? = some ackMsg
  | .acked b | .listening b | .closing b => s.controlUp = b ++ s.toServer ∧ s.serverReceived = []
  | .control p => s.controlUp = s.serverReceived ++ (p ++ s.toServer)
  | .data => s.dataUp = s.serverReceived ++ s.dataToServer
  | .stopped => True

def Downstream (s : State) : Prop :=
  match s.client with
  | .receiving p => s.offered message ++ s.controlDown = p ++ s.toClient
  | .acking r | .connecting r => s.controlDown = r ++ s.toClient
  | .control p => s.controlDown = s.clientReceived ++ (p ++ s.toClient)
  | .data => s.dataDown = s.clientReceived ++ s.dataToClient
  | .failed => True

/-- How far the server is, and what it has not done before. -/
structure ServerSound (s : State) : Prop where
  idle : s.server = .idle → s.messageSent = false
  offered : s.server.Early → s.server ≠ .idle → s.messageSent = true
  quiet : s.server.Early → s.controlDown = [] ∧ s.dataDown = [] ∧ s.dataToClient = []
  fresh : s.server.Early → s.dataToServer = s.dataUp
  data : s.server = .data → s.client = .data ∨ s.client = .failed

def ClientSound (s : State) : Prop :=
  match s.client with
  | .receiving _ => s.ackSent = false ∧ s.controlUp = [] ∧ s.dataUp = [] ∧ s.clientReceived = []
  | .acking _ => s.messageSent = true ∧ s.ackSent = false ∧ s.controlUp = [] ∧ s.dataUp = [] ∧
      s.clientReceived = []
  | .connecting r => r = [] ∧ s.ackSent = true ∧ s.controlUp = [] ∧ s.dataUp = [] ∧
      s.clientReceived = []
  | .control _ => s.dataUp = [] ∧ (if legacy then s.ackSent = false ∧ Framed s.controlUp
        else s.messageSent = true → s.ackSent = true)
  | .data => s.controlUp = [] ∧
      ((∃ b, s.server = .listening b) ∨ s.server = .data ∨ s.server = .stopped)
  | .failed => s.controlUp = [] ∧ s.dataUp = []

structure Sound (s : State) : Prop where
  up : Upstream s
  down : legacy = false → Downstream message s
  server : ServerSound s
  client : ClientSound legacy s
  acked : s.ackSent = true → s.messageSent = true
  legacyClient : legacy = true → ∃ p, s.client = .control p

lemma Sound.transparent {message : List UInt8} {legacy : Bool} {s : State}
    (h : Sound message legacy s) : Transparent legacy s where
  same := by
    refine ⟨fun ⟨p, hserver⟩ hclient => ?_, fun hserver p hclient => ?_⟩
    · have hdata := h.client
      simp only [ClientSound, hclient, hserver] at hdata
      simp at hdata
    · have hdata := h.server.data hserver
      simp [hclient] at hdata
  upControl p hserver := by
    have hup := h.up
    simp only [Upstream, hserver] at hup
    exact ⟨_, hup.symm⟩
  upData hserver := by
    have hup := h.up
    simp only [Upstream, hserver] at hup
    exact ⟨_, hup.symm⟩
  downControl hmodern p hclient := by
    have hdown := h.down hmodern
    simp only [Downstream, hclient] at hdown
    exact ⟨_, hdown.symm⟩
  downData hclient := by
    cases hlegacy : legacy with
    | true =>
      obtain ⟨p, hcontrol⟩ := h.legacyClient hlegacy
      rw [hclient] at hcontrol
      cases hcontrol
    | false =>
      have hdown := h.down hlegacy
      simp only [Downstream, hclient] at hdown
      exact ⟨_, hdown.symm⟩

section Phases

variable {message : List UInt8} {legacy : Bool} {s : State} {phase : Server}
  {toServer serverReceived : List UInt8}

lemma ClientSound.server (h : ClientSound legacy s) (hdata : s.client = .data →
      (∃ b, phase = .listening b) ∨ phase = .data ∨ phase = .stopped) : ClientSound legacy
      { s with server := phase, toServer := toServer, serverReceived := serverReceived } := by
  unfold ClientSound at h ⊢
  cases hclient : s.client with
  | data =>
    simp only [hclient] at h
    exact ⟨h.1, hdata hclient⟩
  | _ =>
    simp only [hclient] at h
    exact h

lemma ClientSound.ne_data (h : ClientSound legacy s) (hlistening : ∀ b, s.server ≠ .listening b)
    (hdata : s.server ≠ .data) (hstopped : s.server ≠ .stopped) : s.client ≠ .data := by
  intro hclient
  unfold ClientSound at h
  simp only [hclient] at h
  obtain ⟨b, hb⟩ | hserver | hserver := h.2
  · exact hlistening b hb
  · exact hdata hserver
  · exact hstopped hserver

lemma ServerSound.early (h : ServerSound s) (hold : s.server.Early) (hidle : s.server ≠ .idle)
    (hnew : phase ≠ .idle) (hdata : phase ≠ .data) :
    ServerSound { s with server := phase, toServer := toServer } where
  idle hserver := absurd hserver hnew
  offered _ _ := h.offered hold hidle
  quiet _ := h.quiet hold
  fresh _ := h.fresh hold
  data hserver := absurd hserver hdata

lemma ServerSound.over (hnew : ¬phase.Early)
    (hdata : phase = .data → s.client = .data ∨ s.client = .failed) :
    ServerSound { s with server := phase, toServer := toServer, serverReceived := serverReceived } where
  idle hserver := by
    change phase = .idle at hserver
    exact absurd (hserver ▸ trivial) hnew
  offered hearly := absurd hearly hnew
  quiet hearly := absurd hearly hnew
  fresh hearly := absurd hearly hnew
  data := hdata

lemma classify_ne_idle : classify buffered ≠ .idle := by
  unfold classify
  split
  · exact nofun
  · split
    · split <;> exact nofun
    · split <;> exact nofun

lemma classify_ne_data : classify buffered ≠ .data := by
  unfold classify
  split
  · exact nofun
  · split
    · split <;> exact nofun
    · split <;> exact nofun

lemma looksLike_append {bytes : List UInt8} (rest : List UInt8) (h : 4 ≤ bytes.length) :
    looksLikeFramedPayloadHeader (bytes ++ rest) = looksLikeFramedPayloadHeader bytes := by
  match bytes, h with
  | _ :: _ :: _ :: _ :: _, _ => rfl

lemma length_of_looksLike {bytes : List UInt8} (h : looksLikeFramedPayloadHeader bytes = true) :
    4 ≤ bytes.length := by
  match bytes with
  | [] | [_] | [_, _] | [_, _, _] => cases h
  | _ :: _ :: _ :: _ :: rest => simp

end Phases

/-! ## The steps of the server -/

section Steps

variable {message : List UInt8} {legacy : Bool} {s : State}

lemma ClientSound.of_unsent (h : ClientSound legacy s) (hclient : s.client ≠ .data)
    (hnot : legacy = false → ∀ p, s.client ≠ .control p) : ClientSound legacy
      { s with server := .waiting [], messageSent := true, toClient := s.toClient ++ message } := by
  unfold ClientSound at h ⊢
  cases hphase : s.client with
  | data => exact absurd hphase hclient
  | control p =>
    simp only [hphase] at h
    refine ⟨h.1, ?_⟩
    cases legacy with
    | true => simpa using h.2
    | false => exact absurd hphase (hnot rfl p)
  | acking p =>
    simp only [hphase] at h
    exact ⟨rfl, h.2⟩
  | _ =>
    simp only [hphase] at h
    exact h

lemma Sound.offer {sent : Bool} (h : Sound message legacy s)
    (hadmits : s.Admits legacy (.offer sent)) (hclean : s.Clean legacy (.offer sent)) :
    Sound message legacy (s.step message (.offer sent)) := by
  have hidle : s.server = .idle := hadmits
  have hunsent := h.server.idle hidle
  have hunacked : s.ackSent = false := by
    by_contra hacked
    rw [h.acked (by simpa using hacked)] at hunsent
    cases hunsent
  have hup := h.up
  simp only [Upstream, hidle] at hup
  have hclient := h.client.ne_data (by simp [hidle]) (by simp [hidle]) (by simp [hidle])
  have hearly : s.server.Early := by
    rw [hidle]
    trivial
  have hquiet := h.server.quiet hearly
  cases sent with
  | false =>
    refine ⟨?_, h.down, .over id nofun, h.client.server fun hdata => absurd hdata hclient,
      h.acked, h.legacyClient⟩
    simpa [State.step, Upstream, State.ack, hunacked, hup.2] using hup.1
  | true =>
    refine ⟨hup, fun hmodern => ?_, ⟨nofun, fun _ _ => rfl, fun _ => hquiet,
      fun _ => h.server.fresh hearly, nofun⟩,
      h.client.of_unsent hclient (hclean rfl), fun _ => rfl, h.legacyClient⟩
    have hdown := h.down hmodern
    have hsound := h.client
    simp only [Downstream, State.offered, hunsent, hquiet.1, State.step, if_true] at hdown ⊢
    simp only [ClientSound] at hsound
    cases hphase : s.client with
    | receiving p =>
      simp only [hphase] at hdown ⊢
      simp only [false_eq_true, if_false, append_nil] at hdown ⊢
      rw [← append_assoc, ← hdown]
      rfl
    | acking p =>
      simp only [hphase] at hsound
      exact absurd (hunsent.symm.trans hsound.1) nofun
    | connecting p =>
      simp only [hphase] at hsound
      exact absurd (hunacked.symm.trans hsound.2.1) nofun
    | control p => exact absurd hphase (hclean rfl hmodern p)
    | data => exact absurd hphase hclient
    | failed => trivial

lemma ClientSound.acked_of_unframed {bytes rest : List UInt8} (h : ClientSound legacy s)
    (hsent : s.messageSent = true) (hclient : s.client ≠ .data)
    (hstream : s.ack ++ s.controlUp = bytes ++ rest) (hlong : 4 ≤ bytes.length)
    (hunframed : ¬looksLikeFramedPayloadHeader bytes = true) : s.ackSent = true := by
  by_contra hunacked
  have hunacked : s.ackSent = false := by simpa using hunacked
  simp only [State.ack, hunacked, false_eq_true, if_false, nil_append] at hstream
  have hsome : s.controlUp ≠ [] := by
    rw [hstream]
    intro hnil
    rw [(append_eq_nil_iff.mp hnil).1] at hlong
    exact absurd hlong (by decide)
  unfold ClientSound at h
  cases hphase : s.client with
  | receiving p =>
    simp only [hphase] at h
    exact hsome h.2.1
  | acking _ | connecting _ =>
    simp only [hphase] at h
    exact hsome h.2.2.1
  | control p =>
    simp only [hphase] at h
    cases legacy with
    | false => exact absurd (h.2 hsent) (by simp [hunacked])
    | true =>
      have hframed := h.2.2
      rw [hstream, Framed, looksLike_append rest hlong, length_append] at hframed
      exact hunframed (hframed (le_trans hlong (Nat.le_add_right _ _)))
  | data => exact hclient hphase
  | failed =>
    simp only [hphase] at h
    exact hsome h.1

lemma State.of_acked {bytes rest : List UInt8} (hacked : s.ackSent = true)
    (hstream : s.ack ++ s.controlUp = bytes ++ rest) (hne : bytes ≠ []) :
    bytes.head? = some ackMsg ∧ s.controlUp = bytes.tail ++ rest := by
  cases bytes with
  | nil => exact absurd rfl hne
  | cons byte bytes =>
    simp only [State.ack, hacked, if_true, cons_append, nil_append, List.cons.injEq]
      at hstream
    exact ⟨congrArg some hstream.1.symm, hstream.2⟩

lemma Sound.serverReads {count : Nat} (h : Sound message legacy s)
    (hadmits : s.Admits legacy (.serverReads count))
    (hclean : s.Clean legacy (.serverReads count)) :
    Sound message legacy (s.step message (.serverReads count)) := by
  obtain ⟨⟨buffered, hserver⟩, -, -, -⟩ := hadmits
  have hup := h.up
  have hunframed := hclean buffered hserver
  have hearly : s.server.Early := by
    rw [hserver]
    trivial
  have hclient := h.client.ne_data (by simp [hserver]) (by simp [hserver]) (by simp [hserver])
  simp only [Upstream, hserver] at hup
  have hsent := h.server.offered hearly (by simp [hserver])
  simp only [State.step, hserver]
  generalize hchunk : buffered ++ s.toServer.take count = bytes at hunframed ⊢
  have hstream : s.ack ++ s.controlUp = bytes ++ s.toServer.drop count := by
    rw [hup.1, ← hchunk, append_assoc, take_append_drop]
  refine ⟨?_, h.down, ?_, h.client.server fun hdata => absurd hdata hclient, h.acked, h.legacyClient⟩
  · unfold classify
    split
    next hframed =>
      -- Framed traffic, so that no ACK is in front of it.
      have hunacked : s.ackSent = false := by
        by_contra hacked
        rw [hunframed (by simpa using hacked)] at hframed
        cases hframed
      simp only [State.ack, hunacked, false_eq_true, if_false, nil_append] at hstream
      simpa [Upstream, hup.2] using hstream
    next hnotFramed =>
      split
      next hhead =>
        split
        · exact ⟨hstream, hup.2, hhead⟩
        next hlong =>
          have hlong := not_lt.mp hlong
          have hacked := h.client.acked_of_unframed hsent hclient hstream hlong hnotFramed
          have hne : bytes ≠ [] := by
            rintro rfl
            cases hhead
          exact ⟨(State.of_acked hacked hstream hne).2, hup.2⟩
      next hhead =>
        split
        next hmany =>
          have hne : bytes ≠ [] := by
            rintro rfl
            exact absurd hmany (Nat.not_lt_zero _)
          have hunacked : s.ackSent = false := by
            by_contra hacked
            exact hhead (State.of_acked (by simpa using hacked) hstream hne).1
          simp only [State.ack, hunacked, false_eq_true, if_false, nil_append] at hstream
          simpa [Upstream, hup.2] using hstream
        · exact ⟨hstream, hup.2⟩
  · by_cases hover : (classify bytes).Early
    · exact h.server.early hearly (by simp [hserver]) (classify_ne_idle bytes)
        (classify_ne_data bytes)
    · exact .over hover fun hdata => absurd hdata (classify_ne_data bytes)

lemma Sound.control {buffered : List UInt8} (h : Sound message legacy s)
    (hstream : s.controlUp = buffered ++ s.toServer) (hnone : s.serverReceived = [])
    (hclient : s.client ≠ .data) : Sound message legacy { s with server := .control buffered } where
  up := by simpa [Upstream, hnone] using hstream
  down := h.down
  server := .over id nofun
  client := h.client.server fun hdata => absurd hdata hclient
  acked := h.acked
  legacyClient := h.legacyClient

lemma Sound.serverGivesUp (h : Sound message legacy s)
    (hadmits : s.Admits legacy .serverGivesUp) (hunacked : s.ackSent = false) :
    Sound message legacy (s.step message .serverGivesUp) := by
  obtain ⟨buffered, hserver⟩ := hadmits
  have hup := h.up
  have hclient := h.client.ne_data (by simp [hserver]) (by simp [hserver]) (by simp [hserver])
  simp only [Upstream, hserver, State.ack, hunacked, false_eq_true, if_false, nil_append] at hup
  simp only [State.step, hserver]
  exact h.control hup.1 hup.2 hclient

lemma Sound.peekBreaks (h : Sound message legacy s)
    (hadmits : s.Admits legacy .peekBreaks) (hunacked : s.ackSent = false) :
    Sound message legacy (s.step message .peekBreaks) := by
  obtain ⟨buffered, hserver⟩ := hadmits
  have hup := h.up
  have hclient := h.client.ne_data (by simp [hserver]) (by simp [hserver]) (by simp [hserver])
  simp only [Upstream, hserver, State.ack, hunacked, false_eq_true, if_false, nil_append] at hup
  simp only [State.step, hserver]
  exact h.control hup.1 hup.2.1 hclient

lemma Sound.serverPeeks {count : Nat} (h : Sound message legacy s)
    (hadmits : s.Admits legacy (.serverPeeks count)) :
    Sound message legacy (s.step message (.serverPeeks count)) := by
  obtain ⟨⟨buffered, hserver⟩, -, -, -⟩ := hadmits
  have hup := h.up
  have hearly : s.server.Early := by
    rw [hserver]
    trivial
  have hclient := h.client.ne_data (by simp [hserver]) (by simp [hserver]) (by simp [hserver])
  simp only [Upstream, hserver] at hup
  simp only [State.step, hserver]
  refine ⟨⟨?_, hup.2.1⟩, h.down, h.server.early hearly (by simp [hserver]) nofun nofun,
    h.client.server fun hdata => absurd hdata hclient, h.acked, h.legacyClient⟩
  change s.ack ++ s.controlUp = _
  rw [hup.1, append_assoc, take_append_drop]

lemma Sound.serverPeeksNothing (h : Sound message legacy s)
    (hadmits : s.Admits legacy .serverPeeksNothing) (hacked : s.ackSent = true) :
    Sound message legacy (s.step message .serverPeeksNothing) := by
  obtain ⟨buffered, hserver⟩ := hadmits
  have hup := h.up
  have hearly : s.server.Early := by
    rw [hserver]
    trivial
  have hclient := h.client.ne_data (by simp [hserver]) (by simp [hserver]) (by simp [hserver])
  simp only [Upstream, hserver] at hup
  have hne : buffered ≠ [] := by
    rintro rfl
    cases hup.2.2
  simp only [State.step, hserver]
  exact ⟨⟨(State.of_acked hacked hup.1 hne).2, hup.2.1⟩, h.down,
    h.server.early hearly (by simp [hserver]) nofun nofun,
    h.client.server fun hdata => absurd hdata hclient, h.acked, h.legacyClient⟩

lemma Sound.serverCreates {created : Bool} (h : Sound message legacy s)
    (hadmits : s.Admits legacy (.serverCreates created)) :
    Sound message legacy (s.step message (.serverCreates created)) := by
  obtain ⟨buffered, hserver⟩ := hadmits
  have hup := h.up
  have hearly : s.server.Early := by
    rw [hserver]
    trivial
  have hclient := h.client.ne_data (by simp [hserver]) (by simp [hserver]) (by simp [hserver])
  simp only [Upstream, hserver] at hup
  simp only [State.step, hserver]
  cases created with
  | true =>
    exact ⟨hup, h.down, h.server.early hearly (by simp [hserver]) nofun nofun,
      h.client.server fun hdata => absurd hdata hclient, h.acked, h.legacyClient⟩
  | false => exact h.control hup.1 hup.2 hclient

section

variable (h : Sound message legacy s)

include h

lemma Sound.serverInspects (hadmits : s.Admits legacy .serverInspects) :
    Sound message legacy (s.step message .serverInspects) := by
  obtain ⟨buffered, hserver⟩ := hadmits
  have hup := h.up
  have hearly : s.server.Early := by
    rw [hserver]
    trivial
  simp only [Upstream, hserver] at hup
  simp only [State.step, hserver]
  split
  next hconnected =>
    refine ⟨?_, h.down, .over id fun _ => .inl hconnected, h.client.server fun _ => .inr (.inl rfl),
      h.acked, h.legacyClient⟩
    simp only [Upstream, hup.2, nil_append]
    exact (h.server.fresh hearly).symm
  next hunconnected =>
    exact ⟨hup, h.down, h.server.early hearly (by simp [hserver]) nofun nofun,
      h.client.server fun hdata => absurd hdata hunconnected, h.acked, h.legacyClient⟩

lemma Sound.serverCloses (hadmits : s.Admits legacy .serverCloses) :
    Sound message legacy (s.step message .serverCloses) := by
  obtain ⟨buffered, hserver⟩ := hadmits
  have hup := h.up
  have hclient := h.client.ne_data (by simp [hserver]) (by simp [hserver]) (by simp [hserver])
  simp only [Upstream, hserver] at hup
  simp only [State.step, hserver]
  refine ⟨?_, h.down, .over id nofun, h.client.server fun hdata => absurd hdata hclient, h.acked,
    h.legacyClient⟩
  simpa [Upstream, hup.2] using hup.1

lemma Sound.serverStops : Sound message legacy (s.step message .serverStops) :=
  ⟨trivial, h.down, .over id nofun, h.client.server fun _ => .inr (.inr rfl), h.acked,
    h.legacyClient⟩

/-! ## The steps of the client -/

lemma Sound.modern (hclient : ∀ p, s.client ≠ .control p) : legacy = false := by
  by_contra hlegacy
  obtain ⟨p, hp⟩ := h.legacyClient (by simpa using hlegacy)
  exact hclient p hp

end

lemma ServerSound.client {client : Client} {toClient clientReceived : List UInt8}
    (h : ServerSound s) (hdata : s.client ≠ .data) (hfailed : s.client ≠ .failed) : ServerSound
      { s with client := client, toClient := toClient, clientReceived := clientReceived } where
  idle := h.idle
  offered := h.offered
  quiet := h.quiet
  fresh := h.fresh
  data hserver := (h.data hserver).elim (fun h => absurd h hdata) fun h => absurd h hfailed

lemma drop_of_message {bytes rest down : List UInt8} (hmessage : message.length = connectMsgSize)
    (hlong : connectMsgSize ≤ bytes.length) (hstream : message ++ down = bytes ++ rest) :
    down = bytes.drop connectMsgSize ++ rest := by
  have hdrop := congrArg (List.drop connectMsgSize) hstream
  rwa [← hmessage, drop_left, drop_append_of_le_length (hmessage ▸ hlong), hmessage]
    at hdrop

lemma not_framed_of_message {bytes rest down : List UInt8}
    (hmessage : message.length = connectMsgSize)
    (hname : looksLikeFramedPayloadHeader message = false)
    (hshort : bytes.length < connectMsgSize) (hstream : message ++ down = bytes ++ rest) :
    ¬looksLikeFramedPayloadHeader bytes = true := by
  intro hframed
  have hbytes : message.take bytes.length = bytes := by
    have htake := congrArg (List.take bytes.length) hstream
    rwa [take_append_of_le_length (hmessage ▸ le_of_lt hshort), take_left] at htake
  have hsplit : bytes ++ message.drop bytes.length = message := by
    rw [← take_append_drop bytes.length message, hbytes, drop_left]
  have hlooks := looksLike_append (message.drop bytes.length) (length_of_looksLike hframed)
  rw [hsplit, hname, hframed] at hlooks
  cases hlooks

lemma Sound.clientReads {count : Nat} (hmessage : message.length = connectMsgSize)
    (hname : looksLikeFramedPayloadHeader message = false) (h : Sound message legacy s)
    (hadmits : s.Admits legacy (.clientReads count))
    (hclean : s.Clean legacy (.clientReads count)) :
    Sound message legacy (s.step message (.clientReads count)) := by
  obtain ⟨⟨prefetched, hclient⟩, -, -, -⟩ := hadmits
  have hmodern := h.modern (by simp [hclient])
  have hdown := h.down hmodern
  have hsound := h.client
  have hcomplete := hclean prefetched hclient
  simp only [Downstream, hclient] at hdown
  simp only [ClientSound, hclient] at hsound
  simp only [State.step, hclient]
  generalize hchunk : prefetched ++ s.toClient.take count = bytes at hcomplete ⊢
  have hstream : s.offered message ++ s.controlDown = bytes ++ s.toClient.drop count := by
    rw [hdown, ← hchunk, append_assoc, take_append_drop]
  have hserver : ∀ client, ServerSound { s with client := client, toClient := s.toClient.drop count } :=
    fun client => h.server.client (by simp [hclient]) (by simp [hclient])
  have hlegacy : ∀ client, legacy = true → ∃ p, client = Client.control p := by
    intro client hlegacy
    rw [hmodern] at hlegacy
    cases hlegacy
  unfold classifyMessage
  split
  next hlong =>
    have hsent := hcomplete hlong
    simp only [State.offered, hsent, if_true] at hstream
    exact ⟨h.up, fun _ => drop_of_message hmessage hlong hstream, hserver _, ⟨hsent, hsound⟩,
      h.acked, hlegacy _⟩
  next hshort =>
    have hshort := Nat.lt_of_not_le hshort
    split
    next hframed =>
      have hunsent : s.messageSent = false := by
        by_contra hsent
        simp only [State.offered, show s.messageSent = true by simpa using hsent, if_true] at hstream
        exact not_framed_of_message hmessage hname hshort hstream hframed
      simp only [State.offered, hunsent, false_eq_true, if_false, nil_append] at hstream
      refine ⟨h.up, fun _ => ?_, hserver _, ⟨hsound.2.2.1, ?_⟩, h.acked, hlegacy _⟩
      · simpa [Downstream, hsound.2.2.2] using hstream
      · simp [hmodern, hunsent]
    · exact ⟨h.up, fun _ => hstream, hserver _, hsound, h.acked, hlegacy _⟩

section

variable (h : Sound message legacy s)

include h

lemma Sound.clientGivesUp
    (hadmits : s.Admits legacy .clientGivesUp) (hunsent : s.messageSent = false) :
    Sound message legacy (s.step message .clientGivesUp) := by
  obtain ⟨prefetched, hclient⟩ := hadmits
  have hmodern := h.modern (by simp [hclient])
  have hdown := h.down hmodern
  have hsound := h.client
  simp only [Downstream, hclient, State.offered, hunsent, false_eq_true, if_false,
    nil_append] at hdown
  simp only [ClientSound, hclient] at hsound
  simp only [State.step, hclient]
  refine ⟨h.up, fun _ => ?_, h.server.client (by simp [hclient]) (by simp [hclient]),
    ⟨hsound.2.2.1, ?_⟩, h.acked, fun _ => ⟨_, rfl⟩⟩
  · simpa [Downstream, hsound.2.2.2] using hdown
  · simp [hmodern, hunsent]

lemma Sound.clientAcks (hadmits : s.Admits legacy .clientAcks)
    (hclean : s.Clean legacy .clientAcks) : Sound message legacy (s.step message .clientAcks) := by
  obtain ⟨prefetched, hclient⟩ := hadmits
  have hmodern := h.modern (by simp [hclient])
  have hdown := h.down hmodern
  have hsound := h.client
  simp only [Downstream, hclient] at hdown
  simp only [ClientSound, hclient] at hsound
  obtain ⟨hsent, hunacked, hup, hdata, hrecv⟩ := hsound
  -- Nothing can have come with the message: the server still waits.
  have hempty : prefetched = [] := by
    obtain ⟨buffered, hwaiting⟩ | ⟨-, hacking⟩ := hclean
    · have hquiet := h.server.quiet (by rw [hwaiting]; trivial)
      rw [hquiet.1] at hdown
      exact (append_eq_nil_iff.mp hdown.symm).1
    · rw [hclient] at hacking
      exact Client.acking.inj hacking
  simp only [State.step, hclient]
  refine ⟨?_, fun _ => hdown, ?_, ⟨hempty, rfl, hup, hdata, hrecv⟩, fun _ => hsent,
    fun hlegacy => ?_⟩
  · have hstream := h.up
    obtain ⟨buffered, hwaiting⟩ | ⟨hstopped, -⟩ := hclean
    · simp only [Upstream, hwaiting, State.ack, hunacked, hup, false_eq_true, if_false,
        append_nil] at hstream ⊢
      obtain ⟨hbuffered, hpipe⟩ := append_eq_nil_iff.mp hstream.1.symm
      simp [hbuffered, hpipe, hstream.2]
    · simp only [Upstream, hstopped]
  · exact ⟨h.server.idle, h.server.offered, h.server.quiet, h.server.fresh, fun hserver => by
      have := h.server.data hserver
      simp [hclient] at this⟩
  · rw [hmodern] at hlegacy
    cases hlegacy

lemma Sound.clientConnects
    (hadmits : s.Admits legacy .clientConnects) (hclean : s.Clean legacy .clientConnects) :
    Sound message legacy (s.step message .clientConnects) := by
  obtain ⟨⟨prefetched, hclient⟩, -⟩ := hadmits
  obtain ⟨buffered, hlistening⟩ := hclean
  have hmodern := h.modern (by simp [hclient])
  have hsound := h.client
  simp only [ClientSound, hclient] at hsound
  obtain ⟨-, -, hup, -, hrecv⟩ := hsound
  have hquiet := h.server.quiet (by rw [hlistening]; trivial)
  refine ⟨h.up, fun _ => ?_, h.server.client (by simp [hclient]) (by simp [hclient]),
    ⟨hup, .inl ⟨buffered, hlistening⟩⟩, h.acked, fun hlegacy => ?_⟩
  · simp [Downstream, State.step, hquiet.2.1, hquiet.2.2, hrecv]
  · rw [hmodern] at hlegacy
    cases hlegacy

lemma Sound.clientFallsBack (hadmits : s.Admits legacy .clientFallsBack) :
    Sound message legacy (s.step message .clientFallsBack) := by
  obtain ⟨prefetched, hclient⟩ := hadmits
  have hmodern := h.modern (by simp [hclient])
  have hdown := h.down hmodern
  have hsound := h.client
  simp only [Downstream, hclient] at hdown
  simp only [ClientSound, hclient] at hsound
  obtain ⟨hempty, hacked, hup, hdata, hrecv⟩ := hsound
  refine ⟨h.up, fun _ => ?_, h.server.client (by simp [hclient]) (by simp [hclient]),
    ⟨hdata, ?_⟩, h.acked, fun _ => ⟨_, rfl⟩⟩
  · simpa [Downstream, State.step, hempty, hrecv] using hdown
  · simp [hmodern, State.step, hacked]

lemma Sound.clientFails (hadmits : s.Admits legacy .clientFails) :
    Sound message legacy (s.step message .clientFails) := by
  have hsound := h.client
  have hnot : ∀ p, s.client ≠ .control p := by
    intro p hp
    obtain ⟨q, hq | hq | hq⟩ | ⟨hq, -⟩ := hadmits <;> rw [hq] at hp <;> cases hp
  have hmodern := h.modern hnot
  have hempty : s.controlUp = [] ∧ s.dataUp = [] := by
    obtain ⟨p, hp | hp | hp⟩ | ⟨hp, hdata, -⟩ := hadmits
    · simp only [ClientSound, hp] at hsound
      exact ⟨hsound.2.1, hsound.2.2.1⟩
    · simp only [ClientSound, hp] at hsound
      exact ⟨hsound.2.2.1, hsound.2.2.2.1⟩
    · simp only [ClientSound, hp] at hsound
      exact ⟨hsound.2.2.1, hsound.2.2.2.1⟩
    · simp only [ClientSound, hp] at hsound
      exact ⟨hsound.1, hdata⟩
  refine ⟨h.up, fun _ => trivial, ⟨h.server.idle, h.server.offered, h.server.quiet, h.server.fresh,
    fun _ => .inr rfl⟩, hempty, h.acked, fun hlegacy => ?_⟩
  rw [hmodern] at hlegacy
  cases hlegacy

end

/-! ## The applications -/

lemma prefetchedReceive_stream (prefetched pipe : List UInt8) (count : Nat) :
    (prefetchedReceive prefetched pipe count).1 ++ ((prefetchedReceive prefetched pipe count).2.1 ++
        (prefetchedReceive prefetched pipe count).2.2) = prefetched ++ pipe := by
  unfold prefetchedReceive
  split
  next hempty => simp [hempty]
  · simp [← append_assoc]

lemma Sound.serverSends {bytes : List UInt8} (h : Sound message legacy s) :
    Sound message legacy (s.step message (.serverSends bytes)) := by
  simp only [State.step]
  split
  next p hserver =>
    have hearly : ¬s.server.Early := by
      rw [hserver]
      exact id
    refine ⟨h.up, fun hmodern => ?_, ⟨h.server.idle, h.server.offered, fun he => absurd he hearly,
      fun he => absurd he hearly, h.server.data⟩, h.client, h.acked, h.legacyClient⟩
    have hdown := h.down hmodern
    unfold Downstream State.offered at hdown ⊢
    cases hclient : s.client with
    | receiving p =>
      simp only [hclient] at hdown ⊢
      rw [← append_assoc, hdown, append_assoc]
    | acking p | connecting p =>
      simp only [hclient] at hdown ⊢
      rw [hdown, append_assoc]
    | control p =>
      simp only [hclient] at hdown ⊢
      rw [hdown, append_assoc, append_assoc]
    | data =>
      simp only [hclient] at hdown ⊢
      exact hdown
    | failed => trivial
  next hserver =>
    have hearly : ¬s.server.Early := by
      rw [hserver]
      exact id
    refine ⟨h.up, fun hmodern => ?_, ⟨h.server.idle, h.server.offered, fun he => absurd he hearly,
      fun he => absurd he hearly, h.server.data⟩, h.client, h.acked, h.legacyClient⟩
    have hdown := h.down hmodern
    unfold Downstream State.offered at hdown ⊢
    cases hclient : s.client with
    | data =>
      simp only [hclient] at hdown ⊢
      rw [hdown, append_assoc]
    | failed => trivial
    | _ =>
      simp only [hclient] at hdown ⊢
      exact hdown
  · exact h

lemma Sound.serverReceives {count : Nat} (h : Sound message legacy s) :
    Sound message legacy (s.step message (.serverReceives count)) := by
  have hup := h.up
  simp only [State.step]
  split
  next p hserver =>
    have hclient := h.client.ne_data (by simp [hserver]) (by simp [hserver]) (by simp [hserver])
    simp only [Upstream, hserver] at hup
    refine ⟨?_, h.down, .over id nofun, h.client.server fun hdata => absurd hdata hclient, h.acked,
      h.legacyClient⟩
    simp only [Upstream]
    rw [append_assoc, prefetchedReceive_stream, hup]
  next hserver =>
    simp only [Upstream, hserver] at hup
    have hearly : ¬s.server.Early := by
      rw [hserver]
      exact id
    refine ⟨?_, h.down, ⟨h.server.idle, h.server.offered, h.server.quiet,
      fun he => absurd he hearly, h.server.data⟩, h.client, h.acked, h.legacyClient⟩
    simp only [Upstream, hserver]
    rw [append_assoc, take_append_drop, hup]
  · exact h

lemma Sound.clientSends {bytes : List UInt8} (h : Sound message legacy s)
    (hadmits : s.Admits legacy (.clientSends bytes)) :
    Sound message legacy (s.step message (.clientSends bytes)) := by
  have hup := h.up
  have hsound := h.client
  simp only [State.step]
  split
  next p hclient =>
    simp only [ClientSound, hclient] at hsound
    refine ⟨?_, h.down, ⟨h.server.idle, h.server.offered, h.server.quiet, h.server.fresh,
      h.server.data⟩, ?_, h.acked, h.legacyClient⟩
    · unfold Upstream State.ack at hup ⊢
      cases hserver : s.server with
      | idle =>
        simp only [hserver] at hup ⊢
        exact ⟨by rw [← append_assoc, hup.1], hup.2⟩
      | waiting _ | peeking _ =>
        simp only [hserver] at hup ⊢
        exact ⟨by rw [← append_assoc, hup.1, append_assoc], hup.2⟩
      | acked b | listening b | closing b =>
        simp only [hserver] at hup ⊢
        exact ⟨by rw [hup.1, append_assoc], hup.2⟩
      | control p =>
        simp only [hserver] at hup ⊢
        rw [hup, append_assoc, append_assoc]
      | data =>
        simp only [hserver] at hup ⊢
        exact hup
      | stopped => trivial
    · simp only [ClientSound, hclient]
      refine ⟨hsound.1, ?_⟩
      cases legacy with
      | true => exact ⟨hsound.2.1, hadmits rfl⟩
      | false => exact hsound.2
  next hclient =>
    simp only [ClientSound, hclient] at hsound
    refine ⟨?_, h.down, ⟨h.server.idle, h.server.offered, h.server.quiet,
      fun he => congrArg (· ++ bytes) (h.server.fresh he), h.server.data⟩, ?_, h.acked,
      h.legacyClient⟩
    · unfold Upstream State.ack at hup ⊢
      cases hserver : s.server with
      | data =>
        simp only [hserver] at hup ⊢
        rw [hup, append_assoc]
      | stopped => trivial
      | _ =>
        simp only [hserver] at hup ⊢
        exact hup
    · simpa only [ClientSound, hclient] using hsound
  · exact h

lemma Sound.clientReceives {count : Nat} (h : Sound message legacy s) :
    Sound message legacy (s.step message (.clientReceives count)) := by
  have hsound := h.client
  simp only [State.step]
  split
  next p hclient =>
    simp only [ClientSound, hclient] at hsound
    refine ⟨h.up, fun hmodern => ?_, h.server.client (by simp [hclient]) (by simp [hclient]),
      hsound, h.acked, fun _ => ⟨_, rfl⟩⟩
    have hdown := h.down hmodern
    simp only [Downstream, hclient] at hdown ⊢
    rw [append_assoc, prefetchedReceive_stream, hdown]
  next hclient =>
    simp only [ClientSound, hclient] at hsound
    refine ⟨h.up, fun hmodern => ?_, ⟨h.server.idle, h.server.offered, fun he => ?_, h.server.fresh,
      h.server.data⟩, ?_, h.acked, h.legacyClient⟩
    · have hdown := h.down hmodern
      simp only [Downstream, hclient] at hdown ⊢
      rw [append_assoc, take_append_drop, hdown]
    · have hquiet := h.server.quiet he
      exact ⟨hquiet.1, hquiet.2.1, by simp [hquiet.2.2]⟩
    · simpa only [ClientSound, hclient] using hsound
  · exact h

lemma Sound.step {event : Event} (hmessage : message.length = connectMsgSize)
    (hname : looksLikeFramedPayloadHeader message = false) (h : Sound message legacy s)
    (hadmits : s.Admits legacy event) (hclean : s.Clean legacy event) :
    Sound message legacy (s.step message event) := by
  cases event with
  | offer sent => exact h.offer hadmits hclean
  | serverReads count => exact h.serverReads hadmits hclean
  | serverGivesUp => exact h.serverGivesUp hadmits hclean
  | serverPeeks count => exact h.serverPeeks hadmits
  | serverPeeksNothing => exact h.serverPeeksNothing hadmits hclean
  | peekBreaks => exact h.peekBreaks hadmits hclean
  | serverCreates created => exact h.serverCreates hadmits
  | serverInspects => exact h.serverInspects hadmits
  | serverCloses => exact h.serverCloses hadmits
  | serverStops => exact h.serverStops
  | clientReads count => exact h.clientReads hmessage hname hadmits hclean
  | clientGivesUp => exact h.clientGivesUp hadmits hclean
  | clientAcks => exact h.clientAcks hadmits hclean
  | clientConnects => exact h.clientConnects hadmits hclean
  | clientFallsBack => exact h.clientFallsBack hadmits
  | clientFails => exact h.clientFails hadmits
  | serverSends bytes => exact h.serverSends
  | serverReceives count => exact h.serverReceives
  | clientSends bytes => exact h.clientSends hadmits
  | clientReceives count => exact h.clientReceives

lemma sound_init (message : List UInt8) (legacy : Bool) :
    Sound message legacy (ends message legacy).init := by
  cases legacy with
  | true =>
    exact ⟨⟨rfl, rfl⟩, nofun, ⟨fun _ => rfl, fun _ hidle => absurd rfl hidle,
      fun _ => ⟨rfl, rfl, rfl⟩, fun _ => rfl, nofun⟩, ⟨rfl, rfl, fun hlong =>
        absurd hlong (Nat.not_succ_le_zero 3)⟩,
      nofun, fun _ => ⟨[], rfl⟩⟩
  | false =>
    exact ⟨⟨rfl, rfl⟩, fun _ => rfl, ⟨fun _ => rfl, fun _ hidle => absurd rfl hidle,
      fun _ => ⟨rfl, rfl, rfl⟩, fun _ => rfl, nofun⟩, ⟨rfl, rfl, rfl, rfl⟩, nofun, nofun⟩

/-- While both ends see the handshake through, or neither sees it, the pipe is transparent. -/
theorem handshake_transparent (hmessage : message.length = connectMsgSize)
    (hname : looksLikeFramedPayloadHeader message = false)
    (h : (ends message legacy).ReachableUnder (State.Clean legacy) s) : Transparent legacy s := by
  have hsound : Sound message legacy s := h.invariant (sound_init message legacy)
    fun _ _ hsound hadmits hclean => hsound.step hmessage hname hadmits hclean
  exact hsound.transparent

end Steps

/-- The message with a name as `generate_guid` makes them. -/
def guidMessage : List UInt8 :=
  ("{6B29FC40-CA47-1067-B31D-00DD010662DA}".toList.flatMap fun ch => [.ofNat ch.toNat, 0]) ++
    [0, 0, 0, 0]

/-- The whole handshake, and a message each way over the data pipe. -/
def offered : List Event :=
  [.offer true, .clientReads 80, .clientAcks, .serverReads 1, .serverPeeksNothing,
    .serverCreates true, .clientConnects, .serverInspects, .clientSends [7, 8],
    .serverReceives 2, .serverSends [9], .clientReceives 1]

theorem offered_transparent :
    let s := (ends guidMessage false).run (ends guidMessage false).init offered
    Transparent false s ∧ s.server = .data ∧ s.client = .data ∧
      s.serverReceived = [7, 8] ∧ s.clientReceived = [9] := by
  intro s
  have hfollows : (ends guidMessage false).Follows (State.Clean false)
      (ends guidMessage false).init offered :=
    ⟨rfl, fun _ _ _ => nofun, ⟨⟨[], rfl⟩, by decide⟩, fun _ _ _ => rfl, ⟨[], rfl⟩,
      .inl ⟨[], rfl⟩, ⟨⟨[], rfl⟩, by decide⟩, fun | _, rfl, _ => rfl, ⟨[2], rfl⟩, rfl,
      ⟨[], rfl⟩, trivial, ⟨⟨[], rfl⟩, [], .inl rfl⟩, ⟨[], rfl⟩, ⟨[], rfl⟩, trivial, nofun,
      trivial, trivial, trivial, trivial, trivial, trivial, trivial, trivial⟩
  have htransparent : Transparent false s :=
    handshake_transparent (by decide) (by decide) (.of_follows .refl hfollows)
  exact ⟨htransparent, by decide, by decide, by decide, by decide⟩

def missed : List Event := [.offer true, .clientGivesUp, .clientReceives 80]

theorem message_delivered : ¬ ∀ s, (ends guidMessage false).Reachable s → Transparent false s := by
  intro h
  have hrun := h ((ends guidMessage false).run (ends guidMessage false).init missed)
    (.snoc (.snoc (.snoc .refl rfl trivial) ⟨[], rfl⟩ trivial) trivial trivial)
  exact absurd (hrun.downControl rfl [] rfl) (by decide)

end Vibeshine.Ipc.Handshake
