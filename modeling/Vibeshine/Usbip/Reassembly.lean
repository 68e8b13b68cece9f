import Vibeshine.Usbip.Session

/-! # The cuts of the stream do not matter

`parse_one` is a record parser, so that `feed` ends in the same session however the bytes
of the stream are cut.
-/

namespace Vibeshine.Usbip

open Library List

/-! ## What a record is made of -/

variable {device : Device} {wire : List UInt8}

lemma take_drop_append {size from_ : Nat} (h : from_ + size ≤ wire.length) (more : List UInt8) :
    ((wire ++ more).drop from_).take size = (wire.drop from_).take size := by
  rw [drop_append_of_le_length (by omega), take_append_of_le_length]
  rw [length_drop]
  omega

lemma readHeader_append (h : headerSize ≤ wire.length) (more : List UInt8) :
    readHeader (wire ++ more) = readHeader wire := by
  unfold headerSize at h
  simp only [readHeader]
  rw [read32_append (by omega), read32_append (by omega), read32_append (by omega),
    read32_append (by omega), read32_append (by omega), read32_append (by omega),
    take_drop_append (by omega)]

lemma headerSize_le_messageSize (request : Urb) : headerSize ≤ request.messageSize := by
  unfold Urb.messageSize
  omega

lemma scanSubmit_append (hheader : headerSize ≤ wire.length)
    (h : scanSubmit wire ≠ .incomplete) (more : List UInt8) :
    scanSubmit (wire ++ more) = scanSubmit wire := by
  unfold scanSubmit at h ⊢
  rw [readHeader_append hheader]
  dsimp only at h ⊢
  split at h
  case isTrue hinvalid => rw [if_pos hinvalid, if_pos hinvalid]
  case isFalse hvalid =>
    split at h
    case isTrue => exact absurd rfl h
    case isFalse hwhole =>
      have hmore : ¬(wire ++ more).length < (readHeader wire).messageSize := by
        rw [length_append]
        omega
      have hbody : headerSize + ((readHeader wire).messageSize - headerSize) ≤ wire.length := by
        have := headerSize_le_messageSize (readHeader wire)
        omega
      rw [if_neg hvalid, if_neg hvalid, if_neg hmore, if_neg hwhole, take_drop_append hbody]

variable {slot : Nat}

lemma scanCommand_append (h : scanCommand slot wire ≠ .incomplete)
    (more : List UInt8) : scanCommand slot (wire ++ more) = scanCommand slot wire := by
  unfold scanCommand at h ⊢
  split at h
  case isTrue => exact absurd rfl h
  case isFalse hwhole =>
    have hheader : headerSize ≤ wire.length := not_lt.mp hwhole
    have hmore : ¬(wire ++ more).length < headerSize := by
      rw [length_append]
      omega
    have h48 : 48 ≤ wire.length := hheader
    rw [if_neg hmore, if_neg hwhole, read32_append (by omega), read32_append (by omega),
      read32_append (by omega), read32_append (by omega)]
    split at h
    case isTrue hunlink => rw [if_pos hunlink, if_pos hunlink]
    case isFalse hunlink =>
      rw [if_neg hunlink, if_neg hunlink]
      split at h
      case isTrue hother => rw [if_pos hother, if_pos hother]
      case isFalse hother => rw [if_neg hother, if_neg hother, scanSubmit_append hheader h]

lemma importRecord_whole {slot version operation status : Nat} {field : List UInt8}
    (h : importRecord slot version operation status false field ≠ .incomplete) (whole : Bool)
    (other : List UInt8) : importRecord slot version operation status whole other =
      importRecord slot version operation status false field := by
  unfold importRecord at h ⊢
  split
  case isTrue => rfl
  case isFalse hversion =>
    rw [if_neg hversion] at h
    split
    case isTrue => rfl
    case isFalse hlist =>
      rw [if_neg hlist] at h
      split
      case isTrue => rfl
      case isFalse hother =>
        rw [if_neg hother] at h
        exact absurd rfl h

lemma scanImport_append (h : scanImport slot wire ≠ .incomplete)
    (more : List UInt8) : scanImport slot (wire ++ more) = scanImport slot wire := by
  unfold scanImport at h ⊢
  by_cases hshort : wire.length < 8
  · rw [if_pos hshort] at h
    exact absurd rfl h
  · have hmore : ¬(wire ++ more).length < 8 := by
      rw [length_append]
      omega
    rw [if_neg hshort] at h
    rw [if_neg hmore, if_neg hshort, read16_append (by omega), read32_append (by omega),
      read16_append (by omega)]
    by_cases hwhole : 40 ≤ wire.length
    · have hboth : 40 ≤ (wire ++ more).length := by
        rw [length_append]
        omega
      rw [decide_eq_true hwhole, decide_eq_true hboth, take_drop_append (by omega)]
    · rw [decide_eq_false hwhole] at h ⊢
      exact importRecord_whole h _ _

variable {imported : Bool}

lemma scan_append (h : scan device imported wire ≠ .incomplete)
    (more : List UInt8) : scan device imported (wire ++ more) = scan device imported wire := by
  unfold scan at h ⊢
  by_cases himp : imported = true
  · rw [if_pos himp] at h
    rw [if_pos himp, if_pos himp, scanCommand_append h]
  · rw [if_neg himp] at h
    rw [if_neg himp, if_neg himp, scanImport_append h]

lemma scanSubmit_size {request : Urb} {size : Nat} (h : scanSubmit wire = .submit request size) :
    headerSize ≤ size ∧ size ≤ wire.length := by
  unfold scanSubmit at h
  dsimp only at h
  split at h
  case isTrue => cases h
  case isFalse =>
    split at h
    case isTrue => cases h
    case isFalse hwhole =>
      split at h
      case h_1 => cases h
      case h_2 =>
        obtain ⟨-, rfl⟩ := Record.submit.inj h
        exact ⟨headerSize_le_messageSize _, not_lt.mp hwhole⟩

lemma scanCommand_size (h : scanCommand slot wire ≠ .incomplete) : headerSize ≤ wire.length := by
  unfold scanCommand at h
  split at h
  case isTrue => exact absurd rfl h
  case isFalse hwhole => exact not_lt.mp hwhole

def Record.size : Record → Nat
  | .import_ => 40
  | .unlink _ _ => headerSize
  | .submit _ size => size
  | _ => 0

lemma importRecord_size {slot version operation status : Nat} {whole : Bool} {field : List UInt8} :
    (importRecord slot version operation status whole field).size ≤ if whole then 40 else 0 := by
  unfold importRecord
  dsimp only
  split_ifs <;> simp_all [Record.size]

lemma scan_size : (scan device imported wire).size ≤ wire.length := by
  unfold scan
  split
  case isTrue =>
    cases hscan : scanCommand device.slot wire with
    | unlink => exact scanCommand_size (by rw [hscan]; nofun)
    | submit request size =>
      unfold scanCommand at hscan
      split_ifs at hscan
      exact (scanSubmit_size hscan).2
    | import_ =>
      unfold scanCommand scanSubmit at hscan
      dsimp only at hscan
      split_ifs at hscan
      split at hscan <;> cases hscan
    | _ => exact zero_le
  case isFalse =>
    unfold scanImport
    split
    case isTrue => exact zero_le
    case isFalse =>
      refine le_trans importRecord_size ?_
      split
      case isTrue hwhole => exact of_decide_eq_true hwhole
      case isFalse => exact zero_le

lemma scan_submit {request : Urb} {size : Nat}
    (h : scan device imported wire = .submit request size) : 0 < size := by
  have hheader : 0 < headerSize := by decide
  unfold scan at h
  split at h
  case isTrue =>
    unfold scanCommand at h
    split_ifs at h
    exact lt_of_lt_of_le hheader (scanSubmit_size h).1
  case isFalse =>
    unfold scanImport importRecord at h
    dsimp only at h
    split_ifs at h

variable {core : Core} {request : Urb} {now : Int}

@[simp] lemma Core.halted_reply (status : Int) (data : List UInt8) (outLength : Nat) :
    (core.reply request status data outLength).halted = core.halted := rfl

@[simp] lemma Core.halted_reject : (core.reject request).halted = core.halted := rfl

@[simp] lemma Core.halted_reads (ends : List Nat) :
    (core.reads request ends).halted = core.halted := rfl

@[simp] lemma Core.halted_hidOutput (report : Option (List UInt8)) :
    (core.hidOutput device report).halted = core.halted := by
  unfold Core.hidOutput
  split
  · split <;> rfl
  · rfl

lemma Core.view_cancel {α : Type} (view : Core → α) (cancels : Urb → Bool)
    (hpend : ∀ (core : Core) requests, view { core with pending := requests } = view core)
    (hreply : ∀ (core : Core) request, view (core.reply request canceled [] 0) = view core) :
    view (core.cancel cancels) = view core := by
  have hreplies : ∀ (requests : List Urb) (core : Core),
      view (requests.foldl (fun core request => core.reply request canceled [] 0) core) =
        view core := by
    intro requests
    induction requests with
    | nil => exact fun _ => rfl
    | cons request requests ih =>
      exact fun core => (ih (core.reply request canceled [] 0)).trans (hreply core request)
  exact (hpend _ _).trans (hreplies _ core)

@[simp] lemma Core.halted_cancel (cancels : Urb → Bool) :
    (core.cancel cancels).halted = core.halted :=
  core.view_cancel Core.halted cancels (fun _ _ => rfl) (fun _ _ => rfl)

lemma Core.halted_controlRequest : (core.controlRequest device request).halted = core.halted := by
  unfold Core.controlRequest
  dsimp only
  split <;> simp <;> rfl

lemma Core.halted_enqueue : (core.enqueue request).halted = core.halted := by
  unfold Core.enqueue
  split <;> rfl

lemma Core.halted_submit : (core.submit device now request).halted = core.halted := by
  unfold Core.submit
  dsimp only
  split_ifs
  · exact Core.halted_controlRequest
  · rfl
  · rw [Core.halted_reply, Core.halted_hidOutput]
  · rfl
  · exact Core.halted_enqueue
  all_goals rfl

/-! ## The parser -/

lemma Core.bound_cases (size : Nat) (core : Core) :
    Core.bound size core = .stop core.fail ∨ Core.bound size core = .consume size core := by
  unfold Core.bound
  split
  · exact .inl rfl
  · exact .inr rfl

lemma Core.parse_cases (device : Device) (now : Int) (core : Core) (incarnation : Nat)
    (wire : List UInt8) : core.parse device now incarnation wire = .incomplete ∧
        scan device core.imported wire = .incomplete ∨
      (∃ next, core.parse device now incarnation wire = .stop next ∧ next.halted ∧
        (next.failed → core.failed ∨ next.fail = next)) ∨
      ∃ next, core.parse device now incarnation wire =
          .consume (scan device core.imported wire).size next ∧
        next.halted = core.halted ∧ 0 < (scan device core.imported wire).size := by
  have hbound : ∀ (next : Core) (size : Nat), next.halted = core.halted → 0 < size →
      (∃ last, Core.bound size next = .stop last ∧ last.halted ∧
        (last.failed → core.failed ∨ last.fail = last)) ∨
      ∃ last, Core.bound size next = .consume size last ∧ last.halted = core.halted ∧ 0 < size := by
    intro next size hhalted hsize
    rcases Core.bound_cases size next with h | h
    · exact .inl ⟨_, h, rfl, fun _ => .inr rfl⟩
    · exact .inr ⟨_, h, hhalted, hsize⟩
  unfold Core.parse
  cases hscan : scan device core.imported wire with
  | incomplete => exact .inl ⟨rfl, rfl⟩
  | malformed => exact .inr (.inl ⟨_, rfl, rfl, fun _ => .inr rfl⟩)
  | list | refuse => exact .inr (.inl ⟨_, rfl, Bool.or_true _, .inl⟩)
  | import_ => exact .inr (hbound _ 40 rfl (by decide))
  | unlink sequence victim => exact .inr (hbound _ headerSize rfl (by decide))
  | submit request size =>
    dsimp only
    split
    case isTrue => exact .inr (.inl ⟨_, rfl, rfl, fun _ => .inr rfl⟩)
    case isFalse => exact .inr (hbound _ size Core.halted_submit (scan_submit hscan))

def parser (device : Device) (now : Int) : RecordParser Core UInt8 Nat where
  halted := Core.halted
  parse := Core.parse device now
  idle := 0
  stable := by
    intro core tag bytes hparse more
    have hscan : scan device core.imported bytes ≠ .incomplete := fun hscan => by
      rw [Core.parse, hscan] at hparse
      exact hparse rfl
    rw [Core.parse, Core.parse, scan_append hscan]
  bounded := by
    intro core tag bytes size next hparse
    rcases core.parse_cases device now tag bytes with ⟨h, -⟩ | ⟨_, h, -⟩ | ⟨_, h, -, hsize⟩
    · rw [h] at hparse
      cases hparse
    · rw [h] at hparse
      cases hparse
    · rw [h] at hparse
      obtain ⟨rfl, rfl⟩ := Library.Verdict.consume.inj hparse
      exact ⟨hsize, scan_size⟩
  stops := by
    intro core tag bytes next hparse
    rcases core.parse_cases device now tag bytes with ⟨h, -⟩ | ⟨_, h, hhalted, -⟩ | ⟨_, h, -, -⟩
    · rw [h] at hparse
      cases hparse
    · rw [h] at hparse
      obtain rfl := Library.Verdict.stop.inj hparse
      exact hhalted
    · rw [h] at hparse
      cases hparse
  continues := by
    intro core tag bytes size next hrun hparse
    rcases core.parse_cases device now tag bytes with ⟨h, -⟩ | ⟨_, h, -⟩ | ⟨_, h, hhalted, -⟩
    · rw [h] at hparse
      cases hparse
    · rw [h] at hparse
      cases hparse
    · rw [h] at hparse
      obtain ⟨-, rfl⟩ := Library.Verdict.consume.inj hparse
      exact hhalted.trans hrun
  nothing := by
    intro core tag
    cases himp : core.imported <;> simp [Core.parse, scan, himp, scanImport, scanCommand,
      headerSize]

/-! ## Feeding -/

namespace Session

variable {session : Session} {incarnation : Nat}

def reader (session : Session) : RecordParser.Reader Core UInt8 Nat :=
  { core := session.core, bytes := session.receive, tag := session.receiveIncarnation }

def ofReader (reader : RecordParser.Reader Core UInt8 Nat) (incarnation : Nat) (now : Int) : Session :=
  { core := reader.core
    receive := reader.bytes
    receiveIncarnation := reader.tag
    feedIncarnation := incarnation
    receiveTime := now }

def feed (session : Session) (device : Device) (bytes : List UInt8) (incarnation : Nat) (now : Int) :
    Session :=
  if session.core.halted ∨ maxBuffer - session.receive.length < bytes.length then session.fail
  else ofReader ((parser device now).absorb incarnation session.reader bytes) incarnation now

def feeds (session : Session) (device : Device) (pieces : List (List UInt8)) (incarnation : Nat)
    (now : Int) : Session :=
  pieces.foldl (fun session bytes => session.feed device bytes incarnation now) session

end Session

def Closed (reader : RecordParser.Reader Core UInt8 Nat) : Prop :=
  reader.core.halted → (reader.core.failed → reader.core.fail = reader.core) ∧
    reader.bytes = [] ∧ reader.tag = 0

lemma closed_absorb {reader : RecordParser.Reader Core UInt8 Nat} {incarnation : Nat}
    (hrun : reader.core.halted = false) (piece : List UInt8) :
    Closed ((parser device now).absorb incarnation reader piece) := by
  refine RecordParser.drain_invariant ?_ ?_
  · intro hhalted
    exact absurd hhalted (by simpa [RecordParser.accept] using hrun)
  · intro before next _ hrunning htakes hhalted
    have hfailed : before.core.failed = false := (Bool.or_eq_false_iff.mp hrunning).1
    cases htakes with
    | @stop core hparse =>
      refine ⟨fun hcore => ?_, rfl, rfl⟩
      rcases before.core.parse_cases device now before.tag before.bytes with
        ⟨h, -⟩ | ⟨_, h, -, hfail⟩ | ⟨_, h, -⟩
      · cases h.symm.trans hparse
      · obtain rfl := Library.Verdict.stop.inj (h.symm.trans hparse)
        rcases hfail hcore with hbefore | hfail
        · simp [hfailed] at hbefore
        · exact hfail
      · cases h.symm.trans hparse
    | consume hparse =>
      have hgo := (parser device now).continues hrunning hparse
      exact absurd hhalted (by rw [show Core.halted _ = false from hgo]; exact Bool.false_ne_true)

namespace Session

variable {session : Session} {incarnation : Nat} {pieces : List (List UInt8)}

lemma feed_halted (h : session.core.halted) (bytes : List UInt8) :
    session.feed device bytes incarnation now = session.fail :=
  if_pos (.inl h)

lemma feeds_halted (h : session.core.halted) (hpieces : pieces ≠ []) :
    session.feeds device pieces incarnation now = session.fail := by
  induction pieces generalizing session with
  | nil => exact absurd rfl hpieces
  | cons piece pieces ih =>
    rw [feeds, foldl_cons, feed_halted h]
    cases pieces with
    | nil => rfl
    | cons next pieces => exact ih rfl (cons_ne_nil _ _)

lemma feed_running (hrun : session.core.halted = false) {bytes : List UInt8}
    (hroom : session.receive.length + bytes.length ≤ maxBuffer) :
    session.feed device bytes incarnation now =
      ofReader ((parser device now).absorb incarnation session.reader bytes) incarnation now := by
  refine if_neg (not_or.mpr ⟨by simp [hrun], ?_⟩)
  omega

lemma feeds_cases (device : Device) (incarnation : Nat) (now : Int)
    (hrun : session.core.halted = false) (hpieces : pieces ≠ [])
    (hroom : session.receive.length + pieces.flatten.length ≤ maxBuffer) :
    let last := (parser device now).absorbAll incarnation session.reader pieces
    session.feeds device pieces incarnation now = ofReader last incarnation now ∨
      (last.core.halted ∧
        session.feeds device pieces incarnation now = (ofReader last incarnation now).fail) := by
  dsimp only
  induction pieces generalizing session with
  | nil => exact absurd rfl hpieces
  | cons piece pieces ih =>
    rw [flatten_cons, length_append] at hroom
    have hgo : ¬(parser device now).halted session.reader.core = true := by
      rw [show (parser device now).halted session.reader.core = false from hrun]
      nofun
    rw [feeds, foldl_cons, feed_running hrun (by omega), RecordParser.absorbAll, if_neg hgo]
    have hlength : ((parser device now).absorb incarnation session.reader piece).bytes.length ≤
        session.receive.length + piece.length := RecordParser.length_absorb_le
    generalize (parser device now).absorb incarnation session.reader piece = reader at hlength ⊢
    cases pieces with
    | nil => exact .inl rfl
    | cons next pieces =>
      cases hhalted : reader.core.halted with
      | false =>
        refine ih hhalted (cons_ne_nil _ _) ?_
        simp only [ofReader]
        omega
      | true =>
        have hdone : (parser device now).absorbAll incarnation reader (next :: pieces) = reader :=
          if_pos hhalted
        rw [hdone]
        exact .inr ⟨hhalted, feeds_halted hhalted (cons_ne_nil _ _)⟩

lemma feeds_eq (device : Device) (incarnation : Nat) (now : Int)
    (hpieces : ∀ piece ∈ pieces, piece ≠ []) (hsome : pieces ≠ [])
    (hroom : session.receive.length + pieces.flatten.length ≤ maxBuffer) :
    let whole := session.feed device pieces.flatten incarnation now
    session.feeds device pieces incarnation now = whole ∨
      (whole.core.halted ∧ whole.core.failed = false ∧
        session.feeds device pieces incarnation now = whole.fail) := by
  dsimp only
  cases hrun : session.core.halted with
  | true =>
    rw [feed_halted hrun, feeds_halted hrun hsome]
    exact .inl rfl
  | false =>
    have hlast : (parser device now).absorbAll incarnation session.reader pieces =
        (parser device now).absorb incarnation session.reader pieces.flatten :=
      RecordParser.absorbAll_eq hrun hpieces hsome
    have hclosed : Closed ((parser device now).absorb incarnation session.reader pieces.flatten) :=
      closed_absorb hrun pieces.flatten
    have hcases := feeds_cases device incarnation now hrun hsome hroom
    rw [feed_running hrun hroom, ← hlast]
    rw [← hlast] at hclosed
    rcases hcases with h | ⟨hhalted, h⟩
    · exact .inl h
    · obtain ⟨hfailed, hbytes, htag⟩ := hclosed hhalted
      cases hfail : ((parser device now).absorbAll incarnation session.reader pieces).core.failed with
      | false => exact .inr ⟨hhalted, hfail, h⟩
      | true =>
        refine .inl (h.trans ?_)
        simp only [Session.fail, ofReader, hfailed hfail, hbytes, htag]

end Session

/-- The session answers a request for the devices, or refuses an import, somewhere in the
string, and is done. -/
def Session.Dismisses (session : Session) (device : Device) (bytes : List UInt8)
    (incarnation : Nat) (now : Int) : Prop :=
  (session.feed device bytes incarnation now).core.halted ∧
    (session.feed device bytes incarnation now).core.failed = false

lemma pieces_nil {pieces : List (List UInt8)} (hpieces : ∀ piece ∈ pieces, piece ≠ [])
    (hflatten : pieces.flatten = []) : pieces = [] := by
  refine eq_nil_iff_forall_not_mem.mpr fun piece hpiece => hpieces piece hpiece ?_
  exact flatten_eq_nil_iff.mp hflatten piece hpiece

theorem stream_reassembly (device : Device) (session : Session) (bytes : List UInt8)
    (incarnation : Nat) (now : Int) (hroom : session.receive.length + bytes.length ≤ maxBuffer)
    (first second : List (List UInt8)) (hfirst : first.flatten = bytes ∧ ∀ piece ∈ first, piece ≠ [])
    (hsecond : second.flatten = bytes ∧ ∀ piece ∈ second, piece ≠ []) :
    let one := session.feeds device first incarnation now
    let other := session.feeds device second incarnation now
    (one.core.halted = false → other = one) ∧ (one.core.halted = true → other.core.halted = true ∧
        other.core.transmit = one.core.transmit ∧ other.core.calls = one.core.calls) ∧
      (one.core.failed = true → ¬session.Dismisses device bytes incarnation now → other = one) := by
  obtain ⟨hfirst, hfirstPieces⟩ := hfirst
  obtain ⟨hsecond, hsecondPieces⟩ := hsecond
  by_cases hnil : bytes = []
  · obtain rfl := pieces_nil hfirstPieces (hfirst.trans hnil)
    obtain rfl := pieces_nil hsecondPieces (hsecond.trans hnil)
    exact ⟨fun _ => rfl, fun h => ⟨h, rfl, rfl⟩, fun _ _ => rfl⟩
  · have hfirstSome : first ≠ [] := fun h => hnil (by rw [← hfirst, h, flatten_nil])
    have hsecondSome : second ≠ [] := fun h => hnil (by rw [← hsecond, h, flatten_nil])
    have hone := Session.feeds_eq device incarnation now hfirstPieces hfirstSome
      (by rw [hfirst]; exact hroom)
    have hother := Session.feeds_eq device incarnation now hsecondPieces hsecondSome
      (by rw [hsecond]; exact hroom)
    rw [hfirst] at hone
    rw [hsecond] at hother
    dsimp only at hone hother ⊢
    rcases hone with hone | ⟨hhalted, hfailed, hone⟩
    · rcases hother with hother | ⟨hhalted, hfailed, hother⟩
      · rw [hone, hother]
        exact ⟨fun _ => rfl, fun h => ⟨h, rfl, rfl⟩, fun _ _ => rfl⟩
      · rw [hone, hother]
        refine ⟨fun h => ?_, fun _ => ⟨rfl, rfl, rfl⟩, fun h => ?_⟩
        · rw [hhalted] at h
          cases h
        · rw [hfailed] at h
          cases h
    · refine ⟨fun h => ?_, fun _ => ?_, fun _ hgoes => absurd ⟨hhalted, hfailed⟩ hgoes⟩
      · rw [hone] at h
        cases h
      · rcases hother with hother | ⟨-, -, hother⟩
        · rw [hone, hother]
          exact ⟨hhalted, rfl, rfl⟩
        · rw [hone, hother]
          exact ⟨rfl, rfl, rfl⟩

def bareDevice : Device := { slot := 0, reportDescriptor := [], getFeature := fun _ => [] }

def hidSubmit : List UInt8 :=
  write32 1 ++ write32 7 ++ write32 65537 ++ write32 1 ++ write32 4 ++ write32 0 ++ write32 64 ++
    write32 0 ++ write32 nonIso ++ zeros 12

def importedSession : Session := { core := { imported := true, registers := { configuration := 1 } } }

theorem stream_reassembly_hid :
    let one := importedSession.feeds bareDevice [hidSubmit.take 20, hidSubmit.drop 20] 1 5
    let other := importedSession.feeds bareDevice [hidSubmit.take 47, hidSubmit.drop 47] 1 5
    one.core.pending.map Urb.sequence = [7] ∧ other = one :=
  ⟨by decide +kernel,
    (stream_reassembly bareDevice importedSession hidSubmit 1 5 (by decide +kernel)
      [hidSubmit.take 20, hidSubmit.drop 20] [hidSubmit.take 47, hidSubmit.drop 47]
      (by decide +kernel) (by decide +kernel)).1 (by decide +kernel)⟩

/-- A device list request is answered and ends the session: fed in one piece with another
byte the session is finished, fed in two it fails. -/
theorem stream_reassembly_fails : let session := Session.create bareDevice
    let request := write16 0x0111 ++ write16 0x8005 ++ write32 0
    (session.feeds bareDevice [request ++ [0]] 0 0).core.failed = false ∧
      (session.feeds bareDevice [request, [0]] 0 0).core.failed = true := by
  decide +kernel

end Vibeshine.Usbip
