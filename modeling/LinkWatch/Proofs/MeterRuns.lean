import LinkWatch.Traffic.Meter
import Mathlib.Data.List.Induction

/-!
# Runs of a meter

What a meter holds and answers in the course of a run, told by the steps that it has seen. The
baseline is the latest successful reading since the last reset, the next ranking compares with it
and with nothing older, and a failed reading leaves no mark on the run.
-/

namespace LinkWatch.Traffic

/-! ## What a step brings -/

/-- The snapshot and the addresses that a successful reading brings. -/
def MeterStep.reading? : MeterStep → Option (Snapshot × Addresses)
  | .update time reading addresses => some (⟨time, reading⟩, addresses)
  | .sample time (.ok (reading, addresses)) => some (⟨time, reading⟩, addresses)
  | .sample _ (.error _) => none
  | .reset => none

/-- Whether a step forgets the baseline. -/
def MeterStep.isReset : MeterStep → Bool
  | .reset => true
  | _ => false

/-- Whether a step is a failed reading. -/
def MeterStep.fails : MeterStep → Bool
  | .sample _ (.error _) => true
  | _ => false

/-- A step fails if it is a sample that the source has refused. -/
theorem fails_iff (s : MeterStep) :
    s.fails = true ↔ ∃ time fault, s = .sample time (.error fault) := by
  cases s with
  | sample time answer => cases answer <;> simp [MeterStep.fails]
  | update => simp [MeterStep.fails]
  | reset => simp [MeterStep.fails]

/-- The steps after the last reset, all of them if there was none. -/
def sinceReset (steps : List MeterStep) : List MeterStep :=
  (steps.reverse.takeWhile fun s => !s.isReset).reverse

/-- The latest successful reading since the last reset. -/
def latestReading? (steps : List MeterStep) : Option Snapshot :=
  ((sinceReset steps).filterMap fun s => s.reading?.map Prod.fst).getLast?

/-- The rows to be reported for a reading when `latest` is the one before it. A reading without
one before it has nothing to compare with. -/
def comparison (settings : Sampling) (latest : Option Snapshot) (addresses : Addresses)
    (current : Snapshot) : List Throughput :=
  match latest with
  | none => []
  | some previous =>
    ranking (NoiseFilter.ofList settings.extraNoise) (reported settings.topInterfaces.toNat)
      addresses previous current

/-! ## The latest reading -/

/-- A reset forgets the steps before it, and any other step is one more of them. -/
theorem sinceReset_concat (steps : List MeterStep) (s : MeterStep) :
    sinceReset (steps ++ [s]) = if s.isReset then [] else sinceReset steps ++ [s] := by
  unfold sinceReset
  rw [List.reverse_append, List.reverse_singleton, List.singleton_append, List.takeWhile_cons]
  cases s.isReset <;> simp

/-- A reset forgets the latest reading. -/
theorem latestReading?_reset (steps : List MeterStep) :
    latestReading? (steps ++ [.reset]) = none := by
  rw [latestReading?, sinceReset_concat]
  rfl

/-- A successful reading is the latest one. -/
theorem latestReading?_reading (steps : List MeterStep) {s : MeterStep} {current : Snapshot}
    {addresses : Addresses} (hs : s.reading? = some (current, addresses)) :
    latestReading? (steps ++ [s]) = some current := by
  have hr : s.isReset = false := by
    cases s with
    | reset => simp [MeterStep.reading?] at hs
    | update => rfl
    | sample => rfl
  rw [latestReading?, sinceReset_concat, hr]
  simp [hs]

/-- A failed reading leaves the latest one in place. -/
theorem latestReading?_fails (steps : List MeterStep) {s : MeterStep} (hs : s.fails = true) :
    latestReading? (steps ++ [s]) = latestReading? steps := by
  obtain ⟨time, fault, rfl⟩ := (fails_iff s).1 hs
  rw [latestReading?, sinceReset_concat]
  simp [MeterStep.isReset, MeterStep.reading?, latestReading?]

/-- There is a latest reading when some step since the last reset has succeeded. -/
theorem latestReading?_isSome_iff (steps : List MeterStep) :
    (latestReading? steps).isSome = true ↔
      ∃ s ∈ sinceReset steps, s.reading?.isSome = true := by
  rw [latestReading?, List.getLast?_isSome]
  simp [List.filterMap_eq_nil_iff, Option.isSome_iff_ne_none]

/-! ## Steps and runs -/

/-- The trace of a meter begins with its first step and goes on from there. -/
theorem trace_cons (m : Meter) (s : MeterStep) (steps : List MeterStep) :
    m.trace (s :: steps) = m.step s :: (m.step s).2.trace steps := rfl

theorem run_concat (m : Meter) (steps : List MeterStep) (s : MeterStep) :
    m.run (steps ++ [s]) = ((m.run steps).step s).2 := by
  simp [Meter.run]

theorem length_trace (m : Meter) (steps : List MeterStep) :
    (m.trace steps).length = steps.length := by
  induction steps generalizing m with
  | nil => rfl
  | cons s steps ih => rw [trace_cons, List.length_cons, List.length_cons, ih]

theorem trace_concat (m : Meter) (steps : List MeterStep) (s : MeterStep) :
    m.trace (steps ++ [s]) = m.trace steps ++ [(m.run steps).step s] := by
  induction steps generalizing m with
  | nil => rfl
  | cons first steps ih =>
    rw [List.cons_append, trace_cons, trace_cons, ih]
    rfl

/-- The entry of a trace after some steps is the answer of the meter to which they lead. -/
theorem trace_at (m : Meter) (earlier : List MeterStep) (s : MeterStep)
    (later : List MeterStep) :
    (m.trace (earlier ++ s :: later))[earlier.length]? = some ((m.run earlier).step s) := by
  induction earlier generalizing m with
  | nil => rfl
  | cons e earlier ih =>
    rw [List.cons_append, trace_cons, List.length_cons, List.getElem?_cons_succ, ih]
    rfl

/-- The filter and the number of reported rows are those of the settings, after any run. -/
theorem run_settings (settings : Sampling) (steps : List MeterStep) :
    ((Meter.new settings).run steps).filter = NoiseFilter.ofList settings.extraNoise ∧
      ((Meter.new settings).run steps).top = reported settings.topInterfaces.toNat := by
  induction steps using List.reverseRecOn with
  | nil => exact ⟨rfl, rfl⟩
  | append_singleton steps s ih =>
    rw [run_concat]
    obtain ⟨hf, ht⟩ := step_settings ((Meter.new settings).run steps) s
    exact ⟨hf.trans ih.1, ht.trans ih.2⟩

/-- A successful reading is answered as an update with it. -/
theorem step_reading (m : Meter) {s : MeterStep} {current : Snapshot} {addresses : Addresses}
    (hs : s.reading? = some (current, addresses)) :
    m.step s = (some (.ok (m.update current.time current.reading addresses).1),
      (m.update current.time current.reading addresses).2) := by
  cases s with
  | update time reading addresses =>
    simp only [MeterStep.reading?, Option.some.injEq, Prod.mk.injEq] at hs
    obtain ⟨rfl, rfl⟩ := hs
    rfl
  | sample time answer =>
    cases answer with
    | error fault => simp [MeterStep.reading?] at hs
    | ok p =>
      simp only [MeterStep.reading?, Option.some.injEq, Prod.mk.injEq] at hs
      obtain ⟨rfl, rfl⟩ := hs
      rfl
  | reset => simp [MeterStep.reading?] at hs

/-- A failed reading is passed on and leaves the meter as it was. -/
theorem step_fails (m : Meter) {s : MeterStep} (hs : s.fails = true) : (m.step s).2 = m := by
  obtain ⟨time, fault, rfl⟩ := (fails_iff s).1 hs
  rfl

/-- Every step is a successful reading, a failed one or a reset. -/
theorem step_kinds (s : MeterStep) :
    (∃ current addresses, s.reading? = some (current, addresses)) ∨ s.fails = true ∨
      s = .reset := by
  cases s with
  | update => exact .inl ⟨_, _, rfl⟩
  | sample time answer =>
    cases answer with
    | error => exact .inr (.inl rfl)
    | ok => exact .inl ⟨_, _, rfl⟩
  | reset => exact .inr (.inr rfl)

/-- What an update lists is told by the baseline alone. -/
theorem update_rows (m : Meter) (time : Nat) (reading : Reading) (addresses : Addresses) :
    (m.update time reading addresses).1 =
      match m.baseline with
      | none => []
      | some previous => ranking m.filter m.top addresses previous ⟨time, reading⟩ := by
  unfold Meter.update
  cases m.baseline <;> rfl

/-! ## The baseline of a run -/

/-- After any run the baseline is the latest reading. -/
theorem baseline_run (settings : Sampling) (steps : List MeterStep) :
    ((Meter.new settings).run steps).baseline = latestReading? steps := by
  induction steps using List.reverseRecOn with
  | nil => rfl
  | append_singleton steps s ih =>
    rw [run_concat]
    -- the last step alone decides whether the baseline is replaced, kept or dropped
    rcases step_kinds s with ⟨current, addresses, hs⟩ | hs | rfl
    · rw [step_reading _ hs, baseline_update, latestReading?_reading steps hs]
    · rw [step_fails _ hs, ih, latestReading?_fails steps hs]
    · rw [latestReading?_reset]
      rfl

/-- A reading after any run is answered by the comparison with the latest one. -/
theorem step_run_reading (settings : Sampling) (steps : List MeterStep) {s : MeterStep}
    {current : Snapshot} {addresses : Addresses} (hs : s.reading? = some (current, addresses)) :
    (((Meter.new settings).run steps).step s).1 =
      some (.ok (comparison settings (latestReading? steps) addresses current)) := by
  obtain ⟨hf, ht⟩ := run_settings settings steps
  rw [step_reading _ hs, update_rows, baseline_run, hf, ht]
  rfl

/-- Without its failed readings a run answers and leaves behind the same at every other step. -/
theorem trace_without_failures (m : Meter) (steps : List MeterStep) :
    m.trace (steps.filter fun s => !s.fails) =
      ((steps.zip (m.trace steps)).filter fun e => !e.1.fails).map Prod.snd := by
  induction steps generalizing m with
  | nil => rfl
  | cons s steps ih =>
    rw [trace_cons, List.zip_cons_cons]
    cases hs : s.fails with
    | true =>
      rw [List.filter_cons_of_neg (by simp [hs]), List.filter_cons_of_neg (by simp [hs]),
        step_fails m hs, ih]
    | false =>
      rw [List.filter_cons_of_pos (by simp [hs]), List.filter_cons_of_pos (by simp [hs]),
        trace_cons, List.map_cons, ih]

/-- **A run is told by its latest readings.** After each step of a run the baseline is the latest
successful reading since the last reset, if there is one; a successful reading is answered by its
comparison with the one before it, so that runs with the same latest reading answer alike; a failed
one is answered by its own fault, and without the failed readings every other step answers the same
and leaves the same meter behind. -/
theorem trace_compares_latest_readings (settings : Sampling) (steps : List MeterStep) :
    (∀ earlier s later, steps = earlier ++ s :: later →
      ∃ answer m, ((Meter.new settings).trace steps)[earlier.length]? = some (answer, m) ∧
        (m.hasBaseline = true ↔
          ∃ r ∈ sinceReset (earlier ++ [s]), r.reading?.isSome = true) ∧
        m.baseline = latestReading? (earlier ++ [s]) ∧
        (∀ current addresses, s.reading? = some (current, addresses) →
          answer = some (.ok (comparison settings (latestReading? earlier) addresses current))) ∧
        (∀ time fault, s = .sample time (.error fault) → answer = some (.error fault))) ∧
    (∀ other s, s.reading?.isSome = true → latestReading? steps = latestReading? other →
      (((Meter.new settings).run steps).step s).1 =
        (((Meter.new settings).run other).step s).1) ∧
    (Meter.new settings).trace (steps.filter fun s => !s.fails) =
      ((steps.zip ((Meter.new settings).trace steps)).filter fun e => !e.1.fails).map
        Prod.snd := by
  refine ⟨?_, ?_, trace_without_failures (Meter.new settings) steps⟩
  · rintro earlier s later rfl
    refine ⟨(((Meter.new settings).run earlier).step s).1,
      (((Meter.new settings).run earlier).step s).2,
      trace_at (Meter.new settings) earlier s later, ?_, ?_, ?_, ?_⟩
    · rw [← run_concat, Meter.hasBaseline, baseline_run, latestReading?_isSome_iff]
    · rw [← run_concat, baseline_run]
    · intro current addresses hs
      exact step_run_reading settings earlier hs
    · rintro time fault rfl
      rfl
  · intro other s hs hlatest
    obtain ⟨⟨current, addresses⟩, hr⟩ := Option.isSome_iff_exists.1 hs
    rw [step_run_reading settings steps hr, step_run_reading settings other hr, hlatest]

/-- A failed reading between two others: the second of them is compared with the first, as it is
where nothing failed. -/
theorem comparison_across_failure :
    let first : Snapshot := ⟨0, [⟨"eth0", 0, 0⟩]⟩
    let second : Snapshot := ⟨2, [⟨"eth0", 4194304, 0⟩]⟩
    let start : List MeterStep := [.update first.time first.reading []]
    let failed := start ++ [.sample 1 (.error (.unavailable "down"))]
    let next : MeterStep := .sample second.time (.ok (second.reading, []))
    (∃ answer m, ((Meter.new {}).trace (failed ++ [next]))[2]? = some (answer, m) ∧
      answer = some (.ok (comparison {} (some first) [] second)) ∧ m.baseline = some second) ∧
    (((Meter.new {}).run failed).step next).1 = (((Meter.new {}).run start).step next).1 := by
  intro first second start failed next
  obtain ⟨answer, m, hentry, -, hbaseline, hanswer, -⟩ :=
    (trace_compares_latest_readings {} (failed ++ [next])).1 failed next [] rfl
  exact ⟨⟨answer, m, hentry, hanswer second [] rfl, hbaseline⟩,
    (trace_compares_latest_readings {} failed).2.1 start next rfl rfl⟩

end LinkWatch.Traffic
