import LinkWatch.Proofs.MeterRuns
import LinkWatch.Session
import Mathlib.Logic.Function.Iterate

/-!
# Sampling in a session

A session shares its source between the meter and the detection of proxies. All the same, its
snapshots show the traffic that a meter alone would show on the same source at the same times: no
other step, and no detection, takes anything from the source or touches the meter.
-/

namespace LinkWatch

open LinkWatch.Proxy LinkWatch.Traffic

variable {σ : Type}

/-! ## The meter alone -/

/-- The time of a step that samples the source. -/
def SessionStep.sampleTime? : SessionStep → Option Nat
  | .snapshot time => some time
  | _ => none

/-- The times at which some steps sample the source. -/
def sampleTimes (steps : List SessionStep) : List Nat :=
  steps.filterMap SessionStep.sampleTime?

/-- A source after one answer. -/
def CounterSource.next (source : CounterSource σ) (c : σ) : σ :=
  (source.answer c).2

/-- The steps of a meter that does nothing but sample a source at some times. -/
def CounterSource.samples (source : CounterSource σ) (c : σ) : List Nat → List MeterStep
  | [] => []
  | time :: times => .sample time (source.answer c).1 :: source.samples (source.next c) times

/-- What a snapshot shows of the traffic: rows with the histories, or a fault. -/
abbrev TrafficView := Except Fault (List Throughput × List Float × List Float)

/-- The traffic shown in the answer to a session's step. -/
def SessionAnswer.traffic? : SessionAnswer → Option TrafficView
  | .report r => some (.ok (r.networks, r.received, r.sent))
  | .failed fault => some (.error fault)
  | .nothing => none
  | .status _ => none

/-- The traffic shown in the answer of a meter, with the histories that it leaves behind. -/
def meterTraffic? (entry : Option (Except Fault (List Throughput)) × Meter) :
    Option TrafficView :=
  entry.1.map fun answer =>
    answer.map fun rows => (rows, entry.2.received.samples, entry.2.sent.samples)

/-- Only snapshots sample. -/
theorem eq_snapshot_of_sampleTime? {step : SessionStep} {time : Nat}
    (h : step.sampleTime? = some time) : step = .snapshot time := by
  cases step with
  | snapshot t => exact congrArg SessionStep.snapshot (Option.some.inj h)
  | environment => cases h
  | proxyStatus => cases h
  | refresh => cases h

theorem sampleTimes_cons (step : SessionStep) (steps : List SessionStep) :
    sampleTimes (step :: steps) = step.sampleTime?.toList ++ sampleTimes steps := by
  rw [sampleTimes, List.filterMap_cons]
  cases step <;> rfl

theorem sampleTimes_concat (steps : List SessionStep) (step : SessionStep) :
    sampleTimes (steps ++ [step]) = sampleTimes steps ++ step.sampleTime?.toList := by
  rw [sampleTimes, List.filterMap_append]
  cases step <;> rfl

/-- One more sample is answered by the source as all samples before it have left it. -/
theorem samples_concat (source : CounterSource σ) (c : σ) (times : List Nat) (time : Nat) :
    source.samples c (times ++ [time]) =
      source.samples c times ++ [.sample time (source.answer (source.next^[times.length] c)).1] := by
  induction times generalizing c with
  | nil => rfl
  | cons t times ih =>
    rw [List.cons_append, CounterSource.samples, CounterSource.samples, ih, List.length_cons,
      Function.iterate_succ_apply]
    rfl

/-! ## Steps -/

/-- A detection leaves the meter and the source alone, whatever the settings allow. -/
theorem refresh_keeps (source : CounterSource σ) (env : Lookup) (time : Nat) (s : Session σ) :
    (s.refresh source env time).2.meter = s.meter ∧
      (s.refresh source env time).2.source = s.source := by
  refine ⟨rfl, ?_⟩
  -- the cascade could read the tunnels from the source, but the gate to them is shut
  have hunread := (detect_asks_nothing_else s.detection
    ⟨env, none, (source.read s.source).1.toOption⟩).2
  simp only [Session.refresh, hunread]
  rfl

/-- Asking for the status leaves the meter and the source alone. -/
theorem proxyStatus_keeps (source : CounterSource σ) (env : Lookup) (time : Nat)
    (s : Session σ) :
    (s.proxyStatus source env time).2.meter = s.meter ∧
      (s.proxyStatus source env time).2.source = s.source := by
  unfold Session.proxyStatus
  split
  · exact refresh_keeps source env time s
  · exact ⟨rfl, rfl⟩

/-- A failed snapshot passes the fault on and looks nothing up. All that changes is the source. -/
theorem step_of_error (source : CounterSource σ) (x : Situation σ) (time : Nat) {fault : Fault}
    (h : (source.answer x.session.source).1 = .error fault) :
    x.step source (.snapshot time) =
      (.failed fault, [], { x with
        session := { x.session with source := source.next x.session.source } }) := by
  simp only [Situation.step, Session.snapshot, h, sample_error]
  rfl

/-- A successful snapshot shows what an update lists, and the session after it has the updated
meter and has taken one answer from the source. -/
theorem snapshot_of_ok (source : CounterSource σ) (env : Lookup) (time : Nat) {s : Session σ}
    {reading : Reading} {addresses : Addresses}
    (h : (source.answer s.source).1 = .ok (reading, addresses)) :
    let updated := s.meter.update time reading addresses
    (∃ proxy, (s.snapshot source env time).1 =
      .ok ⟨updated.1, proxy, updated.2.received.samples, updated.2.sent.samples⟩) ∧
      (s.snapshot source env time).2.2.meter = updated.2 ∧
      (s.snapshot source env time).2.2.source = source.next s.source := by
  intro updated
  simp only [Session.snapshot, h, Meter.sample]
  exact ⟨⟨_, rfl⟩, proxyStatus_keeps source env time _⟩

/-- A step that is not a snapshot leaves the meter and the source alone and shows no traffic. -/
theorem step_keeps (source : CounterSource σ) (x : Situation σ) {step : SessionStep}
    (hstep : step.sampleTime? = none) :
    (x.step source step).2.2.session.meter = x.session.meter ∧
      (x.step source step).2.2.session.source = x.session.source ∧
      (x.step source step).1.traffic? = none := by
  cases step with
  | environment env => exact ⟨rfl, rfl, rfl⟩
  | snapshot time => cases hstep
  | proxyStatus time =>
    obtain ⟨hmeter, hsource⟩ := proxyStatus_keeps source x.env time x.session
    exact ⟨hmeter, hsource, rfl⟩
  | refresh time =>
    obtain ⟨hmeter, hsource⟩ := refresh_keeps source x.env time x.session
    exact ⟨hmeter, hsource, rfl⟩

/-- A snapshot is a sample of the meter. -/
theorem step_snapshot (source : CounterSource σ) (x : Situation σ) (time : Nat) :
    let sampled := x.session.meter.step (.sample time (source.answer x.session.source).1)
    (x.step source (.snapshot time)).2.2.session.meter = sampled.2 ∧
      (x.step source (.snapshot time)).2.2.session.source = source.next x.session.source ∧
      (x.step source (.snapshot time)).1.traffic? = meterTraffic? sampled := by
  intro sampled
  cases h : (source.answer x.session.source).1 with
  | error fault =>
    have hsampled : sampled = (some (.error fault), x.session.meter) := by
      simp only [sampled, h]
      rfl
    rw [step_of_error source x time h, hsampled]
    exact ⟨rfl, rfl, rfl⟩
  | ok p =>
    obtain ⟨⟨proxy, hreport⟩, hmeter, hsource⟩ := snapshot_of_ok source x.env time h
    have hsampled : sampled = (some (.ok (x.session.meter.update time p.1 p.2).1),
        (x.session.meter.update time p.1 p.2).2) := by
      simp only [sampled, h]
      rfl
    simp only [Situation.step, hreport, hsampled]
    exact ⟨hmeter, hsource, rfl⟩

/-! ## Runs -/

/-- The situation after a sequence of steps. -/
def Situation.run (source : CounterSource σ) (x : Situation σ) (steps : List SessionStep) :
    Situation σ :=
  steps.foldl (fun x step => (x.step source step).2.2) x

theorem situation_run_concat (source : CounterSource σ) (x : Situation σ)
    (steps : List SessionStep) (step : SessionStep) :
    x.run source (steps ++ [step]) = ((x.run source steps).step source step).2.2 := by
  simp [Situation.run]

/-- The entry of a trace after some steps is that of the situation to which they lead. -/
theorem situation_trace_at (source : CounterSource σ) (x : Situation σ)
    (earlier : List SessionStep) (step : SessionStep) (later : List SessionStep) :
    (x.trace source (earlier ++ step :: later))[earlier.length]? =
      some ((x.run source earlier).step source step) := by
  induction earlier generalizing x with
  | nil => rfl
  | cons e earlier ih =>
    rw [List.cons_append, Situation.trace, List.length_cons, List.getElem?_cons_succ, ih]
    rfl

/-- The meter and the source of a situation are where some samples alone have brought them. -/
structure SampledOnly (source : CounterSource σ) (settings : Settings) (c : σ) (times : List Nat)
    (x : Situation σ) : Prop where
  meter_eq : x.session.meter = (Meter.new settings.sampling).run (source.samples c times)
  source_eq : x.session.source = source.next^[times.length] c

/-- A step changes the meter and the source by its sample only. -/
theorem sampledOnly_step {source : CounterSource σ} {settings : Settings} {c : σ}
    {times : List Nat} {x : Situation σ} (h : SampledOnly source settings c times x)
    (step : SessionStep) :
    SampledOnly source settings c (times ++ step.sampleTime?.toList)
      (x.step source step).2.2 := by
  cases hstep : step.sampleTime? with
  | none =>
    obtain ⟨hm, hs, -⟩ := step_keeps source x hstep
    rw [Option.toList_none, List.append_nil]
    exact ⟨hm.trans h.meter_eq, hs.trans h.source_eq⟩
  | some time =>
    obtain rfl := eq_snapshot_of_sampleTime? hstep
    obtain ⟨hm, hs, -⟩ := step_snapshot source x time
    rw [Option.toList_some]
    constructor
    · rw [hm, samples_concat, run_concat, h.meter_eq, h.source_eq]
    · rw [hs, h.source_eq, List.length_append, List.length_singleton,
        Function.iterate_succ_apply']

/-- After any run only the samples have moved the meter and the source. -/
theorem sampledOnly_run (source : CounterSource σ) (settings : Settings) (env : Lookup) (c : σ)
    (steps : List SessionStep) :
    SampledOnly source settings c (sampleTimes steps)
      (Situation.run source ⟨env, Session.new settings c⟩ steps) := by
  induction steps using List.reverseRecOn with
  | nil => exact ⟨rfl, rfl⟩
  | append_singleton steps step ih =>
    rw [situation_run_concat, sampleTimes_concat]
    exact sampledOnly_step ih step

/-- The traffic that a session shows is the traffic that its meter alone would show. -/
theorem traffic_trace (source : CounterSource σ) (x : Situation σ) (steps : List SessionStep) :
    (x.trace source steps).filterMap (·.1.traffic?) =
      (x.session.meter.trace
        (source.samples x.session.source (sampleTimes steps))).filterMap meterTraffic? := by
  -- from the front, since both traces go on from where the first step leaves them
  induction steps generalizing x with
  | nil => rfl
  | cons step steps ih =>
    rw [Situation.trace, sampleTimes_cons]
    cases hstep : step.sampleTime? with
    | none =>
      obtain ⟨hm, hs, ht⟩ := step_keeps source x hstep
      rw [List.filterMap_cons, ht, Option.toList_none, List.nil_append, ← hm, ← hs]
      exact ih _
    | some time =>
      obtain rfl := eq_snapshot_of_sampleTime? hstep
      obtain ⟨hm, hs, ht⟩ := step_snapshot source x time
      rw [Option.toList_some, List.singleton_append, CounterSource.samples, trace_cons,
        List.filterMap_cons, List.filterMap_cons, ht, ih, hm, hs]

/-- **A session samples as its meter would alone.** In every run the snapshots show the traffic
that a meter shows which does nothing but sample the same source at the same times; after each step
the session's meter is that meter, and the source has given one answer for each snapshot. A snapshot
whose sample fails passes the fault on, looks nothing up, and leaves everything but the source as it
was. -/
theorem session_samples_as_meter (source : CounterSource σ) (settings : Settings) (env : Lookup)
    (c : σ) (steps : List SessionStep) :
    let start : Situation σ := ⟨env, Session.new settings c⟩
    let meter := Meter.new settings.sampling
    (start.trace source steps).filterMap (·.1.traffic?) =
        (meter.trace (source.samples c (sampleTimes steps))).filterMap meterTraffic? ∧
      ∀ earlier step later, steps = earlier ++ step :: later →
        ∃ answer looked after,
          (start.trace source steps)[earlier.length]? = some (answer, looked, after) ∧
          after.session.meter =
            meter.run (source.samples c (sampleTimes (earlier ++ [step]))) ∧
          after.session.source =
            source.next^[(sampleTimes (earlier ++ [step])).length] c ∧
          ∀ time fault, step = .snapshot time →
            (source.answer (source.next^[(sampleTimes earlier).length] c)).1 = .error fault →
            let before := start.run source earlier
            answer = .failed fault ∧ looked = [] ∧
              after = { before with
                session := { before.session with source := source.next before.session.source } } := by
  intro start meter
  refine ⟨traffic_trace source start steps, ?_⟩
  rintro earlier step later rfl
  have hbefore := sampledOnly_run source settings env c earlier
  have hafter := sampledOnly_step hbefore step
  rw [← sampleTimes_concat] at hafter
  let result := (start.run source earlier).step source step
  refine ⟨result.1, result.2.1, result.2.2, situation_trace_at source start earlier step later,
    hafter.meter_eq, hafter.source_eq, ?_⟩
  rintro time fault rfl hfault
  rw [← hbefore.source_eq] at hfault
  have hresult := step_of_error source (start.run source earlier) time hfault
  exact ⟨congrArg Prod.fst hresult, congrArg (·.2.1) hresult, congrArg (·.2.2) hresult⟩

/-- A script that fails at its second answer: the second snapshot fails, with a detection between
the two, and the status and the time of its detection stay. -/
theorem failed_snapshot_after_refresh :
    let fault : Fault := .unavailable "down"
    let script : Script := ⟨[.ok [⟨"eth0", 0, 0⟩], .error fault, .ok [⟨"eth0", 5, 5⟩]], [], []⟩
    let start : Situation Script := ⟨fun _ => none, Session.new {} script⟩
    let earlier : List SessionStep := [.snapshot 0, .refresh 1]
    let before := start.run scriptSource earlier
    ∃ after,
      (start.trace scriptSource (earlier ++ [.snapshot 2]))[2]? =
          some (.failed fault, [], after) ∧
        after.session.meter = (Meter.new {}).run (scriptSource.samples script [0, 2]) ∧
        after.session.proxy = before.session.proxy ∧ after.session.checked = some 1 := by
  intro fault script start earlier before
  obtain ⟨answer, looked, after, hentry, hmeter, -, hfailed⟩ :=
    (session_samples_as_meter scriptSource {} (fun _ => none) script
      (earlier ++ [.snapshot 2])).2 earlier (.snapshot 2) [] rfl
  obtain ⟨rfl, rfl, rfl⟩ := hfailed 2 fault rfl rfl
  exact ⟨_, hentry, hmeter, rfl, rfl⟩

end LinkWatch
