import LinkWatch.Fault
import LinkWatch.Settings
import LinkWatch.Traffic.History
import LinkWatch.Traffic.Ranking

/-!
# The traffic meter

The meter remembers one snapshot, its baseline, and compares each new reading with it. The first
reading only stores the baseline; each later one gives a ranking, adds the sums of that ranking to
the two histories and becomes the baseline itself. A failed reading changes nothing.
-/

namespace LinkWatch.Traffic

/-- The state of a meter. -/
structure Meter where
  filter : NoiseFilter
  top : Nat
  baseline : Option Snapshot
  received : History
  sent : History

/-- A meter without a baseline, where there is room for its histories. -/
def Meter.new (s : Sampling) : Meter where
  filter := NoiseFilter.ofList s.extraNoise
  top := reported s.topInterfaces.toNat
  baseline := none
  received := History.new s.trendCapacity.toNat
  sent := History.new s.trendCapacity.toNat

/-- The ranking of a reading against the baseline, and the meter after it. -/
def Meter.update (m : Meter) (time : Nat) (reading : Reading) (addresses : Addresses) :
    List Throughput × Meter :=
  let current : Snapshot := ⟨time, reading⟩
  match m.baseline with
  | none => ([], { m with baseline := some current })
  | some previous =>
    let rows := ranking m.filter m.top addresses previous current
    (rows, { m with
      baseline := some current
      received := m.received.push (sumRates (rows.map (·.receiving)))
      sent := m.sent.push (sumRates (rows.map (·.sending))) })

/-- What a source answers when it is read: counters and addresses, or why there are none. -/
abbrev SourceAnswer := Except Fault (Reading × Addresses)

/-- The ranking of what a source answered. A failure is passed on and leaves the meter alone. -/
def Meter.sample (m : Meter) (time : Nat) (answer : SourceAnswer) :
    Except Fault (List Throughput) × Meter :=
  match answer with
  | .error fault => (.error fault, m)
  | .ok (reading, addresses) =>
    let r := m.update time reading addresses
    (.ok r.1, r.2)

/-- Forgets the baseline; the histories stay. -/
def Meter.reset (m : Meter) : Meter :=
  { m with baseline := none }

/-- Whether a baseline is stored. -/
def Meter.hasBaseline (m : Meter) : Bool :=
  m.baseline.isSome

/-! ## Runs -/

/-- Something that happens to a meter. -/
inductive MeterStep where
  | update (time : Nat) (reading : Reading) (addresses : Addresses)
  | sample (time : Nat) (answer : SourceAnswer)
  | reset

/-- The answer to a step, which a reset has none of, and the meter after it. -/
def Meter.step (m : Meter) : MeterStep → Option (Except Fault (List Throughput)) × Meter
  | .update time reading addresses =>
    let r := m.update time reading addresses
    (some (.ok r.1), r.2)
  | .sample time answer =>
    let r := m.sample time answer
    (some r.1, r.2)
  | .reset => (none, m.reset)

/-- The answers to a sequence of steps, each with the meter after it. -/
def Meter.trace (m : Meter) :
    List MeterStep → List (Option (Except Fault (List Throughput)) × Meter)
  | [] => []
  | s :: steps =>
    let r := m.step s
    r :: r.2.trace steps

/-- The meter after a sequence of steps. -/
def Meter.run (m : Meter) (steps : List MeterStep) : Meter :=
  steps.foldl (fun m s => (m.step s).2) m

/-! ## Small facts -/

@[simp] theorem baseline_update (m : Meter) (time : Nat) (reading : Reading)
    (addresses : Addresses) : (m.update time reading addresses).2.baseline = some ⟨time,
      reading⟩ := by
  unfold Meter.update
  split <;> rfl

/-- A failed reading changes nothing. -/
theorem sample_error (m : Meter) (time : Nat) (fault : Fault) :
    m.sample time (.error fault) = (.error fault, m) := rfl

/-- A step never changes the filter or the number of reported rows. -/
theorem step_settings (m : Meter) (s : MeterStep) :
    (m.step s).2.filter = m.filter ∧ (m.step s).2.top = m.top := by
  have hu (t : Nat) (r : Reading) (a : Addresses) :
      (m.update t r a).2.filter = m.filter ∧ (m.update t r a).2.top = m.top := by
    unfold Meter.update
    split <;> exact ⟨rfl, rfl⟩
  cases s with
  | update t r a => exact hu t r a
  | sample t answer =>
    cases answer with
    | error fault => exact ⟨rfl, rfl⟩
    | ok p => exact hu t p.1 p.2
  | reset => exact ⟨rfl, rfl⟩

end LinkWatch.Traffic
