import LinkWatch.Proofs.Busiest
import Mathlib.Data.List.Forall2

/-!
# Blindness to noise

Rows whose names are noise stay in the baseline of a meter, but nothing that the meter shows depends
on them. Two runs whose readings are the same without noise list the same rows and leave the same
histories behind at every step.
-/

namespace LinkWatch.Traffic

/-! ## Readings without noise -/

/-- The rows of a reading whose names are no noise. -/
def NoiseFilter.withoutNoise (f : NoiseFilter) (reading : Reading) : Reading :=
  reading.filter fun row => !f.isNoise row.name

/-- Two address maps know the same addresses of all names that are no noise. -/
def SameAddresses (f : NoiseFilter) (addresses other : Addresses) : Prop :=
  ∀ name, f.isNoise name = false → addresses.lookup name = other.lookup name

/-- Two snapshots of one time are the same without noise. -/
def SameSnapshot (f : NoiseFilter) (a b : Snapshot) : Prop :=
  a.time = b.time ∧ f.withoutNoise a.reading = f.withoutNoise b.reading

/-- Two steps of one kind, at one time, are the same without noise. -/
inductive SameButNoise (f : NoiseFilter) : MeterStep → MeterStep → Prop where
  | update {reading other : Reading} {addresses others : Addresses} (time : Nat)
      (hreading : f.withoutNoise reading = f.withoutNoise other)
      (haddresses : SameAddresses f addresses others) :
      SameButNoise f (.update time reading addresses) (.update time other others)
  | sample {reading other : Reading} {addresses others : Addresses} (time : Nat)
      (hreading : f.withoutNoise reading = f.withoutNoise other)
      (haddresses : SameAddresses f addresses others) :
      SameButNoise f (.sample time (.ok (reading, addresses))) (.sample time (.ok (other, others)))
  | failed (time : Nat) (fault : Fault) :
      SameButNoise f (.sample time (.error fault)) (.sample time (.error fault))
  | reset : SameButNoise f .reset .reset

/-- The last row of a name that is no noise is found without noise as well. -/
theorem last?_withoutNoise (f : NoiseFilter) (reading : Reading) {name : String}
    (hname : f.isNoise name = false) :
    (f.withoutNoise reading).last? name = reading.last? name := by
  rw [last?_eq_getLast?_filter, last?_eq_getLast?_filter, NoiseFilter.withoutNoise,
    List.filter_filter]
  congr 1
  apply List.filter_congr
  intro row _
  by_cases hrow : row.name = name
  · rw [hrow, hname]
    simp
  · simp [hrow]

/-! ## Rankings -/

/-- A row's throughput is told by what the earlier reading is without noise. -/
theorem throughput?_congr (f : NoiseFilter) {addresses others : Addresses}
    {previous other : Reading} (hprevious : f.withoutNoise previous = f.withoutNoise other)
    (haddresses : SameAddresses f addresses others) (seconds : Float) (row : Counter) :
    throughput? f addresses previous seconds row = throughput? f others other seconds row := by
  unfold throughput?
  cases hrow : f.isNoise row.name with
  | true => rfl
  | false =>
    rw [← last?_withoutNoise f previous hrow, hprevious, last?_withoutNoise f other hrow,
      haddresses row.name hrow]

/-- Rows of noise have no throughput. -/
theorem filterMap_throughput?_withoutNoise (f : NoiseFilter) (addresses : Addresses)
    (previous : Reading) (seconds : Float) (reading : Reading) :
    (f.withoutNoise reading).filterMap (throughput? f addresses previous seconds) =
      reading.filterMap (throughput? f addresses previous seconds) := by
  rw [NoiseFilter.withoutNoise, List.filterMap_filter]
  congr 1
  funext row
  cases hrow : f.isNoise row.name with
  | true => simp [throughput?, hrow]
  | false => rfl

/-- Snapshots that are the same without noise have the same ranking. -/
theorem ranking_congr (f : NoiseFilter) (top : Nat) {addresses others : Addresses}
    {previous previous' current current' : Snapshot} (hprevious : SameSnapshot f previous previous')
    (hcurrent : SameSnapshot f current current') (haddresses : SameAddresses f addresses others) :
    ranking f top addresses previous current = ranking f top others previous' current' := by
  have hrows : throughput? f addresses previous.reading
        (elapsedSeconds previous.time current.time) =
      throughput? f others previous'.reading (elapsedSeconds previous'.time current'.time) := by
    funext row
    rw [hprevious.1, hcurrent.1]
    exact throughput?_congr f hprevious.2 haddresses _ row
  simp only [ranking]
  rw [hrows, ← filterMap_throughput?_withoutNoise, hcurrent.2, filterMap_throughput?_withoutNoise]

/-- No ranking lists a name that is noise. -/
theorem not_noise_of_mem_ranking {f : NoiseFilter} {top : Nat} {addresses : Addresses}
    {previous current : Snapshot} {row : Throughput}
    (h : row ∈ ranking f top addresses previous current) : f.isNoise row.name = false := by
  have hrow := List.mem_mergeSort.1 (List.mem_of_mem_take h)
  obtain ⟨counter, -, hcounter⟩ := List.mem_filterMap.1 hrow
  unfold throughput? at hcounter
  split at hcounter
  · cases hcounter
  · next hname =>
    obtain ⟨before, -, rfl⟩ := Option.map_eq_some_iff.1 hcounter
    simpa using hname

/-! ## Steps -/

/-- Two meters show the same and remember the same without noise. -/
structure MetersAgree (f : NoiseFilter) (m other : Meter) : Prop where
  filter_eq : m.filter = f
  other_filter_eq : other.filter = f
  top_eq : m.top = other.top
  baseline_rel : Option.Rel (SameSnapshot f) m.baseline other.baseline
  received_eq : m.received = other.received
  sent_eq : m.sent = other.sent

/-- Meters that agree report the same after readings that differ in noise only, and still agree. -/
theorem update_metersAgree {f : NoiseFilter} {m other : Meter} (h : MetersAgree f m other)
    (time : Nat) {reading reading' : Reading} {addresses addresses' : Addresses}
    (hreading : f.withoutNoise reading = f.withoutNoise reading')
    (haddresses : SameAddresses f addresses addresses') :
    (m.update time reading addresses).1 = (other.update time reading' addresses').1 ∧
      MetersAgree f (m.update time reading addresses).2
        (other.update time reading' addresses').2 := by
  have hcurrent : SameSnapshot f ⟨time, reading⟩ ⟨time, reading'⟩ := ⟨rfl, hreading⟩
  have hbaseline := h.baseline_rel
  unfold Meter.update
  generalize m.baseline = earlier, other.baseline = earlier' at hbaseline ⊢
  cases hbaseline with
  | none =>
    exact ⟨rfl, ⟨h.filter_eq, h.other_filter_eq, h.top_eq, .some hcurrent, h.received_eq,
      h.sent_eq⟩⟩
  | @some previous previous' hprevious =>
    have hrows : ranking m.filter m.top addresses previous ⟨time, reading⟩ =
        ranking other.filter other.top addresses' previous' ⟨time, reading'⟩ := by
      rw [h.filter_eq, h.other_filter_eq, h.top_eq]
      exact ranking_congr f other.top hprevious hcurrent haddresses
    -- equal rows have equal sums, so the histories grow alike
    refine ⟨hrows, ⟨h.filter_eq, h.other_filter_eq, h.top_eq, .some hcurrent, ?_, ?_⟩⟩
    · simp only [hrows, h.received_eq]
    · simp only [hrows, h.sent_eq]

/-- A step answers alike on meters that agree, and they agree after it. -/
theorem step_metersAgree {f : NoiseFilter} {m other : Meter} (h : MetersAgree f m other)
    {s s' : MeterStep} (hs : SameButNoise f s s') :
    (m.step s).1 = (other.step s').1 ∧ MetersAgree f (m.step s).2 (other.step s').2 := by
  cases hs with
  | update time hreading haddresses =>
    obtain ⟨hrows, hafter⟩ := update_metersAgree h time hreading haddresses
    exact ⟨congrArg (some ∘ Except.ok) hrows, hafter⟩
  | sample time hreading haddresses =>
    obtain ⟨hrows, hafter⟩ := update_metersAgree h time hreading haddresses
    exact ⟨congrArg (some ∘ Except.ok) hrows, hafter⟩
  | failed time fault => exact ⟨rfl, h⟩
  | reset =>
    exact ⟨rfl, ⟨h.filter_eq, h.other_filter_eq, h.top_eq, .none, h.received_eq, h.sent_eq⟩⟩

/-! ## Runs -/

/-- What a step shows: its answer and the two histories after it. -/
def shownBy (entry : Option (Except Fault (List Throughput)) × Meter) :
    Option (Except Fault (List Throughput)) × History × History :=
  (entry.1, entry.2.received, entry.2.sent)

/-- Meters that agree show the same over steps that differ in noise only. -/
theorem trace_metersAgree {f : NoiseFilter} {steps others : List MeterStep}
    (hsteps : List.Forall₂ (SameButNoise f) steps others) {m other : Meter}
    (h : MetersAgree f m other) :
    (m.trace steps).map shownBy = (other.trace others).map shownBy := by
  induction hsteps generalizing m other with
  | nil => rfl
  | cons hs _ ih =>
    obtain ⟨hanswer, hafter⟩ := step_metersAgree h hs
    rw [trace_cons, trace_cons, List.map_cons, List.map_cons, ih hafter, shownBy, shownBy,
      hanswer, hafter.received_eq, hafter.sent_eq]

theorem new_metersAgree (settings : Sampling) :
    MetersAgree (NoiseFilter.ofList settings.extraNoise) (Meter.new settings)
      (Meter.new settings) :=
  ⟨rfl, rfl, rfl, .none, rfl, rfl⟩

/-- No step of a run lists a name that is noise. -/
theorem not_noise_of_mem_trace {m : Meter} {steps : List MeterStep}
    {entry : Option (Except Fault (List Throughput)) × Meter} (hentry : entry ∈ m.trace steps)
    {rows : List Throughput} (hrows : entry.1 = some (.ok rows)) {row : Throughput}
    (hrow : row ∈ rows) : m.filter.isNoise row.name = false := by
  induction steps generalizing m with
  | nil => cases hentry
  | cons s steps ih =>
    rw [trace_cons, List.mem_cons] at hentry
    rcases hentry with rfl | hentry
    · rcases step_kinds s with ⟨current, addresses, hs⟩ | hs | rfl
      · rw [step_reading m hs, update_rows] at hrows
        obtain rfl := Except.ok.inj (Option.some.inj hrows)
        split at hrow
        · cases hrow
        · exact not_noise_of_mem_ranking hrow
      · obtain ⟨time, fault, rfl⟩ := (fails_iff s).1 hs
        cases hrows
      · cases hrows
    · rw [← (step_settings m s).1]
      exact ih hentry

/-- **Noise has no effect.** Two runs with the same steps, times and addresses, whose readings are
the same without noise, list the same rows and leave the same histories behind at every step, and
no step lists a name that is noise. -/
theorem noise_has_no_effect (settings : Sampling) {steps others : List MeterStep}
    (h : List.Forall₂ (SameButNoise (NoiseFilter.ofList settings.extraNoise)) steps others) :
    ((Meter.new settings).trace steps).map shownBy =
        ((Meter.new settings).trace others).map shownBy ∧
      ∀ entry ∈ (Meter.new settings).trace steps, ∀ rows, entry.1 = some (.ok rows) →
        ∀ row ∈ rows, (NoiseFilter.ofList settings.extraNoise).isNoise row.name = false :=
  ⟨trace_metersAgree h (new_metersAgree settings),
    fun _ hentry _ hrows _ hrow => not_noise_of_mem_trace hentry hrows hrow⟩

/-- A loopback row that is dropped from the baseline, and one that is added with other counters to
the next reading, change nothing. -/
theorem noise_dropped_and_added :
    let steps : List MeterStep :=
      [.update 0 [⟨"lo", 1, 1⟩, ⟨"eth0", 0, 0⟩] [], .sample 5 (.ok ([⟨"eth0", 7, 0⟩], []))]
    let others : List MeterStep :=
      [.update 0 [⟨"eth0", 0, 0⟩] [],
        .sample 5 (.ok ([⟨"eth0", 7, 0⟩, ⟨"LO0", 9, 9⟩], [("LO0", "10.0.0.9")]))]
    List.Forall₂ (SameButNoise NoiseFilter.builtin) steps others ∧
      ((Meter.new {}).trace steps).map shownBy = ((Meter.new {}).trace others).map shownBy := by
  intro steps others
  have hnoise : NoiseFilter.builtin.isNoise "LO0" = true := by decide
  have haddresses : SameAddresses NoiseFilter.builtin [] [("LO0", "10.0.0.9")] := by
    intro name hname
    have hne : name ≠ "LO0" := fun h => by simp [h, hnoise] at hname
    rw [List.lookup_cons, beq_false_of_ne hne]
  have hsteps : List.Forall₂ (SameButNoise NoiseFilter.builtin) steps others :=
    .cons (.update 0 (by decide) fun _ _ => rfl) (.cons (.sample 5 (by decide) haddresses) .nil)
  exact ⟨hsteps, (noise_has_no_effect {} hsteps).1⟩

end LinkWatch.Traffic
