import LinkWatch.Proxy.Detector
import LinkWatch.Traffic.Interface
import LinkWatch.Traffic.Meter

/-!
# A monitoring session

A session samples a source of counters with a meter and keeps the last proxy status. The status is
detected again only when it is as old as the poll interval, since detection may be slow.
-/

namespace LinkWatch

open LinkWatch.Proxy LinkWatch.Traffic

/-! ## Sources of counters -/

/-- A source of counters over states of type `σ`. Reading it may fail; its addresses belong to the
state after the reading. -/
structure CounterSource (σ : Type) where
  read : σ → Except Fault Reading × σ
  addresses : σ → Addresses

/-- What a source answers to one sample, and its state after it. -/
def CounterSource.answer {σ : Type} (source : CounterSource σ) (s : σ) : SourceAnswer × σ :=
  match source.read s with
  | (.ok reading, s') => (.ok (reading, source.addresses s'), s')
  | (.error fault, s') => (.error fault, s')

/-- The system's interfaces as a source, which never fails. -/
def interfaceSource : CounterSource InterfaceFeed where
  read feed := let r := feed.read; (.ok r.1, r.2)
  addresses := InterfaceFeed.addresses

/-- A written list of answers. When it has run out, the last reading repeats. -/
structure Script where
  upcoming : List (Except Fault Reading)
  last : Reading
  addresses : Addresses

/-- Takes the next answer of a script. -/
def Script.read (s : Script) : Except Fault Reading × Script :=
  match s.upcoming with
  | [] => (.ok s.last, s)
  | .ok reading :: rest => (.ok reading, { s with upcoming := rest, last := reading })
  | .error fault :: rest => (.error fault, { s with upcoming := rest })

/-- A script as a source. -/
def scriptSource : CounterSource Script where
  read := Script.read
  addresses := Script.addresses

/-! ## The session -/

/-- The state of a session: the source, the meter, the last proxy status and when it was
detected. -/
structure Session (σ : Type) where
  source : σ
  meter : Meter
  detection : Detection
  proxy : Status
  checked : Option Nat

/-- A session in which nothing has happened, where there is room for its histories. -/
def Session.new {σ : Type} (s : Settings) (source : σ) : Session σ where
  source := source
  meter := Meter.new s.sampling
  detection := s.detection
  proxy := .disabled
  checked := none

/-- All that one cycle has to show. -/
structure Report where
  networks : List Throughput
  proxy : Status
  received : List Float
  sent : List Float

variable {σ : Type}

/-- Detects the proxy now. The names looked up come with the new session. The source is read only
if the cascade gets as far as the tunnels. -/
def Session.refresh (source : CounterSource σ) (env : Lookup) (time : Nat) (s : Session σ) :
    List String × Session σ :=
  let read := source.read s.source
  let outcome := detect s.detection ⟨env, none, read.1.toOption⟩
  (outcome.looked, { s with
    source := if outcome.tunnelsRead then read.2 else s.source
    proxy := outcome.status
    checked := some time })

/-- Whether the status is to be detected again. A clock that went back makes it no older. -/
def Session.isDue (s : Session σ) (time : Nat) : Bool :=
  match s.checked with
  | none => true
  | some last => s.detection.pollNanoseconds ≤ time - last

/-- Brings the status up to date. -/
def Session.proxyStatus (source : CounterSource σ) (env : Lookup) (time : Nat) (s : Session σ) :
    List String × Session σ :=
  if s.isDue time then s.refresh source env time else ([], s)

/-- One cycle: a sample of the source and, if that succeeds, the status. A failed sample ends the
cycle and leaves meter and status as they were. -/
def Session.snapshot (source : CounterSource σ) (env : Lookup) (time : Nat) (s : Session σ) :
    Except Fault Report × List String × Session σ :=
  let answer := source.answer s.source
  let sampled := s.meter.sample time answer.1
  let s := { s with source := answer.2, meter := sampled.2 }
  match sampled.1 with
  | .error fault => (.error fault, [], s)
  | .ok networks =>
    let checked := s.proxyStatus source env time
    (.ok ⟨networks, checked.2.proxy, s.meter.received.samples, s.meter.sent.samples⟩, checked)

/-! ## Runs -/

/-- Something that happens in a session. -/
inductive SessionStep where
  | environment (env : Lookup)
  | snapshot (time : Nat)
  | proxyStatus (time : Nat)
  | refresh (time : Nat)

/-- What a step answers. -/
inductive SessionAnswer where
  | nothing
  | report (r : Report)
  | status (s : Status)
  | failed (f : Fault)

/-- A session together with the environment in force. -/
structure Situation (σ : Type) where
  env : Lookup
  session : Session σ

/-- The answer to a step, the names looked up during it, and the situation after it. -/
def Situation.step (source : CounterSource σ) (x : Situation σ) :
    SessionStep → SessionAnswer × List String × Situation σ
  | .environment env => (.nothing, [], { x with env := env })
  | .snapshot time =>
    let r := x.session.snapshot source x.env time
    let answer := match r.1 with
      | .ok report => SessionAnswer.report report
      | .error fault => SessionAnswer.failed fault
    (answer, r.2.1, { x with session := r.2.2 })
  | .proxyStatus time =>
    let r := x.session.proxyStatus source x.env time
    (.status r.2.proxy, r.1, { x with session := r.2 })
  | .refresh time =>
    let r := x.session.refresh source x.env time
    (.status r.2.proxy, r.1, { x with session := r.2 })

/-- The answers to a sequence of steps, each with what it looked up and the situation after it. -/
def Situation.trace (source : CounterSource σ) (x : Situation σ) :
    List SessionStep → List (SessionAnswer × List String × Situation σ)
  | [] => []
  | s :: steps =>
    let r := x.step source s
    r :: Situation.trace source r.2.2 steps

end LinkWatch
