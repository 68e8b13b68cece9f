import Mathlib

/-! # The adaptive pacing controller

The controller spaces the packets of a video stream between a floor, which the stream
needs, and the ceiling of the route. A tick judges the interval since the last sample: it
cuts the rate, withdraws a tentative increase, confirms it, or starts another. Times and
durations are in nanoseconds, rates in bits per second. The floating-point comparison of a
tick, whether the interval was busy, is an argument.
-/

namespace Vibeshine.VideoPacing

def uint32Max : Nat := 2 ^ 32 - 1

def uint64Max : Nat := 2 ^ 64 - 1

def milliseconds (n : Int) : Int := n * 1000000

def seconds (n : Int) : Int := n * 1000000000

/-- `saturating_add` for values up to a maximum. -/
def saturatingAdd (maximum a b : Nat) : Nat := if maximum - b < a then maximum else a + b

def saturatingMul (a b : Nat) : Nat := if b ≠ 0 ∧ uint64Max / b < a then uint64Max else a * b

def clamp (value low high : Nat) : Nat :=
  if value < low then low else if high < value then high else value

def wireFloor (needed ceiling : Nat) : Nat :=
  min (max (saturatingAdd uint64Max needed (needed / 4)) 1000000) ceiling

def since (now earlier : Int) : Int := if earlier < now then now - earlier else 0

def startupFeedbackWait (rtt : Int) : Int := max (milliseconds 500) (rtt * 2 + milliseconds 100)

def newer (frame previous : UInt32) : Bool :=
  0 < (frame - previous).toNat && (frame - previous).toNat < 2 ^ 31

def recentFrames (period : Int) : Nat := (max 1 (min (2000000000 / max period 1) 1024)).toNat

/-! ## The state -/

/-- Counters that the send loop increments, without the bytes. -/
structure Traffic where
  frames : Nat
  packets : Nat
  sendLosses : Nat
  deriving DecidableEq

inductive BlockKind where
  | clean | recovered | unrecoverable
  deriving DecidableEq

structure Block where
  kind : BlockKind
  lost : Nat
  deriving DecidableEq

structure Events where
  started : Bool := false
  probeStarted : Bool := false
  probeAccepted : Bool := false
  probeRejected : Bool := false
  probeRetracted : Bool := false
  cut : Bool := false
  cutByFailedFrames : Bool := false
  ceilingConfirmed : Bool := false
  deriving DecidableEq

/-- A tentative increase of the rate. -/
structure Probe where
  stable : Nat
  started : Int
  settle : Int
  deriving DecidableEq

structure Sample where
  time : Int
  traffic : Traffic
  deriving DecidableEq

structure ReportedFrame where
  frame : UInt32
  failed : Bool
  deriving DecidableEq

/-- What the control loop supplies. -/
structure Tick where
  now : Int
  traffic : Traffic
  lastSent : Option UInt32
  rtt : Int
  /-- whether enough frames and bytes were sent since the last sample -/
  busy : Bool
  deriving DecidableEq

/-- What a tick knows of its interval. -/
structure Interval where
  previous : Int
  recent : Bool
  frames : Nat
  probeLoss : Bool
  loss : Bool
  failedCut : Bool
  substantial : Bool
  ping : Bool
  minimumRtt : Option Int
  queued : Bool
  deriving DecidableEq

structure Pacing where
  enabled : Bool
  initialized : Bool := false
  startup : Bool
  ceiling : Nat := 0
  floor : Nat := 0
  limit : Option Nat := none
  lastSample : Option Sample := none
  lastPing : Option Int := none
  minimumRtt : Option Int := none
  /-- Reports up to this frame describe the rate before. -/
  afterFrame : Option UInt32 := none
  reportedFrames : List ReportedFrame := []
  lostFrames : Nat := 0
  failedFrames : Nat := 0
  lostPackets : Nat := 0
  anyLoss : Bool := false
  cleanSince : Option Int := none
  probe : Option Probe := none
  awaitingFence : Bool := false
  recoveryHold : Int := seconds 8
  events : Events := {}
  deriving DecidableEq

namespace Pacing

def create (enabled : Bool) : Pacing := { enabled, startup := enabled }

def current (p : Pacing) : Nat := p.limit.getD p.ceiling

def longerHold (p : Pacing) : Int := min (p.recoveryHold * 2) (seconds 60)

/-! ## The budget of a frame -/

def retractProbe (p : Pacing) : Pacing :=
  match p.probe with
  | none => p
  | some probe =>
    let p := { p with
      limit := some probe.stable
      probe := none
      events := { p.events with probeRetracted := true } }
    if p.anyLoss then { p with startup := false, recoveryHold := p.longerHold } else p

def rebudget (p : Pacing) (previousCeiling previousRate : Nat) : Pacing :=
  let p :=
    if p.ceiling ≠ previousCeiling then { p with lastPing := none, minimumRtt := none } else p
  let p :=
    if previousCeiling < p.ceiling ∧ p.limit = none then
      { p with limit := some previousRate, startup := !p.anyLoss }
    else p
  { p.retractProbe with cleanSince := none, lastSample := none, awaitingFence := true }

def clampLimit (p : Pacing) : Pacing :=
  match p.limit with
  | none => p
  | some limit =>
    let next := clamp limit p.floor p.ceiling
    if next ≠ limit then { p with limit := some next, probe := none, cleanSince := none }
    else { p with limit := some next }

def withBudget (p : Pacing) (ceiling needed : Nat) : Pacing :=
  { p with ceiling := max ceiling 1, floor := wireFloor needed (max ceiling 1) }

def start (p : Pacing) (encoderKbps : Nat) : Pacing :=
  { p with
    initialized := true
    limit := some (clamp (saturatingMul encoderKbps 2000) p.floor p.ceiling)
    events := { p.events with started := true } }

def adjust (p previous : Pacing) (encoderKbps : Nat) : Pacing :=
  if !p.initialized then p.start encoderKbps
  else if p.ceiling ≠ previous.ceiling ∨ p.floor ≠ previous.floor then
    p.rebudget previous.ceiling previous.current
  else p

def rate (p : Pacing) (ceiling needed encoderKbps : Nat) : Pacing × Nat :=
  let q := p.withBudget ceiling needed
  if !p.enabled then (q, ceiling)
  else
    let q := (q.adjust p encoderKbps).clampLimit
    (q, q.current)

def onPing (p : Pacing) (now : Int) (payload : List UInt8) : Pacing :=
  if p.enabled ∧ payload.length = 8 ∧ payload.take 4 = [4, 0, 0, 0] then
    { p with lastPing := some now }
  else p

/-- The frames after a report of one of them, and whether the frame counts as another lost
one and as another failed one. -/
def report (frames : List ReportedFrame) (frame : UInt32) (failed : Bool) :
    List ReportedFrame × Bool × Bool :=
  match frames.find? (·.frame = frame) with
  | some seen =>
    if failed ∧ !seen.failed then
      (frames.map fun entry => if entry.frame = frame then { entry with failed := true } else entry,
        false, true)
    else (frames, false, false)
  | none => (frames ++ [{ frame, failed }], true, failed)

def ignores (p : Pacing) (frame lastSent : UInt32) (period : Int) (block : Block) : Bool :=
  !p.enabled || p.awaitingFence || recentFrames period ≤ (lastSent - frame).toNat ||
    p.afterFrame.any (fun fence => !newer frame fence) || block.kind = .clean ||
    (block.kind = .recovered && block.lost = 0)

def recentReports (p : Pacing) (lastSent : UInt32) (period : Int) : List ReportedFrame :=
  p.reportedFrames.filter fun seen => (lastSent - seen.frame).toNat < recentFrames period

def onBlock (p : Pacing) (frame lastSent : UInt32) (period : Int) (block : Block) : Pacing :=
  if p.ignores frame lastSent period block then p
  else
    let (reportedFrames, lost, failed) :=
      report (p.recentReports lastSent period) frame (block.kind = .unrecoverable)
    { p with
      anyLoss := true
      cleanSince := none
      lostPackets :=
        if block.kind = .recovered then saturatingAdd uint64Max p.lostPackets block.lost
        else p.lostPackets
      reportedFrames
      lostFrames := if lost then saturatingAdd uint32Max p.lostFrames 1 else p.lostFrames
      failedFrames := if failed then saturatingAdd uint32Max p.failedFrames 1 else p.failedFrames }

/-! ## Ticks -/

def fenced (p : Pacing) (lastSent : Option UInt32) : Pacing :=
  { p with
    awaitingFence := false
    afterFrame := lastSent
    lostFrames := 0
    failedFrames := 0
    lostPackets := 0
    anyLoss := false }

def probeLoss (p : Pacing) : Bool := p.probe.isSome && p.anyLoss

def interval (p : Pacing) (sample : Sample) (tick : Tick) : Interval :=
  let elapsed := since tick.now sample.time
  let packets := tick.traffic.packets - sample.traffic.packets
  let failedCut := decide (2 ≤ p.failedFrames)
  let ping := p.lastPing.any fun ping => since tick.now ping < seconds 2
  let minimumRtt :=
    if ping ∧ 0 < tick.rtt then some ((p.minimumRtt.map (min · tick.rtt)).getD tick.rtt)
    else p.minimumRtt
  { previous := sample.time
    recent := elapsed ≤ seconds 2
    frames := tick.traffic.frames - sample.traffic.frames
    probeLoss := p.probeLoss
    loss := p.anyLoss || sample.traffic.sendLosses < tick.traffic.sendLosses
    failedCut
    substantial := failedCut || (2 ≤ p.lostFrames && 0 < packets &&
      (packets + 49) % 2 ^ 64 / 50 ≤ p.lostPackets)
    ping
    minimumRtt
    queued := minimumRtt.any fun minimum =>
      minimum + max (minimum / 2) (milliseconds 8) < tick.rtt }

def sampled (p : Pacing) (interval : Interval) (tick : Tick) : Pacing :=
  { p with
    lastSample := some { time := tick.now, traffic := tick.traffic }
    anyLoss := false
    lostFrames := 0
    failedFrames := 0
    lostPackets := 0
    minimumRtt := interval.minimumRtt }

def cutBack (p : Pacing) (failedCut : Bool) (lastSent : Option UInt32) : Pacing :=
  let p : Pacing :=
    match p.probe with
    | some probe =>
      { p with
        recoveryHold := p.longerHold
        limit := some (clamp probe.stable p.floor p.ceiling)
        probe := none
        events := { p.events with probeRejected := true } }
    | none =>
      { p with
        limit := some (clamp (p.current / 2) p.floor p.ceiling)
        events := { p.events with cut := true, cutByFailedFrames := failedCut } }
  { p with startup := false, afterFrame := lastSent, cleanSince := none }

def confirmCeiling (p : Pacing) : Pacing :=
  { p with limit := none, startup := false, events := { p.events with ceilingConfirmed := true } }

def acceptProbe (p : Pacing) : Pacing :=
  { p with probe := none, events := { p.events with probeAccepted := true } }

def settleTime (p : Pacing) (probe : Probe) (tick : Tick) : Int :=
  if p.startup then max probe.settle (startupFeedbackWait tick.rtt) else probe.settle

def settleProbe (p : Pacing) (clean : Int) (tick : Tick) : Pacing :=
  match p.probe with
  | none => p
  | some probe =>
    if p.settleTime probe tick ≤ since tick.now (max probe.started clean) then
      if p.current = p.ceiling then p.acceptProbe.confirmCeiling else p.acceptProbe
    else p

def probeStep (p : Pacing) : Nat :=
  if p.startup then max (p.current / 8) 1 else max (p.current / 20) 1000000

def hold (p : Pacing) (tick : Tick) : Int :=
  if p.startup then startupFeedbackWait tick.rtt else p.recoveryHold

def startProbe (p : Pacing) (tick : Tick) : Pacing :=
  { p with
    limit := some (min (saturatingAdd uint64Max p.current p.probeStep) p.ceiling)
    probe := some
      { stable := p.current
        started := tick.now
        settle := if p.startup then p.hold tick else seconds 2 }
    afterFrame := tick.lastSent
    events := { p.events with probeStarted := true } }

def raise (p : Pacing) (clean : Int) (tick : Tick) : Pacing :=
  if p.probe = none ∧ p.hold tick ≤ since tick.now clean then
    if p.current < p.ceiling then p.startProbe tick
    else if p.startup then p.confirmCeiling
    else p
  else p

def advance (p : Pacing) (interval : Interval) (tick : Tick) : Pacing :=
  match p.limit with
  | none => p
  | some _ =>
    let clean := p.cleanSince.getD (if p.startup then interval.previous else tick.now)
    ({ p with cleanSince := some clean }.settleProbe clean tick).raise clean tick

def judge (p : Pacing) (interval : Interval) (tick : Tick) : Pacing :=
  let q := p.sampled interval tick
  if (interval.substantial || (p.probe.isSome && interval.loss)) && interval.recent &&
      (0 < interval.frames || interval.probeLoss) then
    q.cutBack interval.failedCut tick.lastSent
  else if interval.loss || !interval.ping || !(interval.recent && tick.busy) || tick.rtt = 0 ||
      interval.queued then
    { q with cleanSince := none }
  else q.advance interval tick

def tick (p : Pacing) (input : Tick) : Pacing × Option (Nat × Nat) :=
  if !p.enabled || p.ceiling = 0 then (p, none)
  else
    let p := if p.awaitingFence then p.fenced input.lastSent else p
    match p.lastSample with
    | none => ({ p with lastSample := some { time := input.now, traffic := input.traffic } }, none)
    | some sample =>
      if since input.now sample.time < milliseconds 500 ∧ !p.probeLoss then (p, none)
      else
        let next := p.judge (p.interval sample input) input
        (next, if next.current ≠ p.current then some (p.current, next.current) else none)

def takeEvents (p : Pacing) : Events × Pacing := (p.events, { p with events := {} })

end Pacing

end Vibeshine.VideoPacing
