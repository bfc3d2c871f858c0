import LinkWatch.Proofs.SessionSampling
import Mathlib.Data.List.Basic

/-!
# Histories over runs

The two histories of a meter hold the totals of its latest rankings, one total of each ranking in
either history. They outlive resets, failures and first readings, which add nothing to them, and
they lose their oldest totals together.
-/

namespace LinkWatch.Traffic

/-! ## The last members of a list -/

section LastOf

variable {α : Type}

/-- The last members of a list, at most `k` of them. -/
def lastOf (k : Nat) (l : List α) : List α :=
  l.drop (l.length - k)

@[simp] theorem lastOf_nil (k : Nat) : lastOf k ([] : List α) = [] := List.drop_nil

theorem length_lastOf (k : Nat) (l : List α) : (lastOf k l).length = min k l.length := by
  rw [lastOf, List.length_drop]
  omega

theorem map_lastOf {β : Type} (f : α → β) (k : Nat) (l : List α) :
    (lastOf k l).map f = lastOf k (l.map f) := by
  rw [lastOf, lastOf, List.map_drop, List.length_map]

/-- A new member takes the place of the first one if there are as many as there may be. -/
theorem lastOf_concat {k : Nat} (hk : 0 < k) (l : List α) (x : α) :
    lastOf k (l ++ [x]) =
      (if (lastOf k l).length = k then (lastOf k l).tail else lastOf k l) ++ [x] := by
  have hle : l.length + 1 - k ≤ l.length := by omega
  rw [lastOf, List.length_append, List.length_singleton, List.drop_append_of_le_length hle]
  congr 1
  rw [length_lastOf]
  split
  · next hfull =>
    have hsucc : l.length + 1 - k = l.length - k + 1 := by omega
    rw [lastOf, List.tail_drop, hsucc]
  · next hroom =>
    have hzero : l.length + 1 - k = l.length - k := by omega
    rw [lastOf, hzero]

end LastOf

/-- A push keeps the last samples. -/
theorem samples_push {h : History} {l : List Float} (hcapacity : 0 < h.capacity)
    (hl : h.samples = lastOf h.capacity l) (x : Float) :
    (h.push x).samples = lastOf h.capacity (l ++ [x]) := by
  rw [lastOf_concat hcapacity, ← hl]
  rfl

/-! ## The rankings of a run -/

/-- A reading that is not the first one since the start or the last reset. -/
def comparesAfter (earlier : List MeterStep) (s : MeterStep) : Bool :=
  s.reading?.isSome && (sinceReset earlier).any fun r => r.reading?.isSome

/-- The rows in an answer. -/
def answeredRows? : Option (Except Fault (List Throughput)) → Option (List Throughput)
  | some (.ok rows) => some rows
  | _ => none

/-- The rows returned by the readings of a run that were not first ones, in order. -/
def Meter.comparedRows (m : Meter) (steps : List MeterStep) : List (List Throughput) :=
  (List.range steps.length).filterMap fun i =>
    if steps[i]?.any (comparesAfter (steps.take i)) then
      (m.trace steps)[i]?.bind fun entry => answeredRows? entry.1
    else none

/-- The sum of the rates of some rows, from negative zero in the order of the rows. -/
def totalOf (rate : Throughput → Float) (rows : List Throughput) : Float :=
  rows.foldl (fun sum row => sum + rate row) (-0.0)

/-- The sum of the source is the total of the rates. -/
theorem sumRates_map (rate : Throughput → Float) (rows : List Throughput) :
    sumRates (rows.map rate) = totalOf rate rows := by
  rw [sumRates, List.foldl_map, totalOf]

/-- A further step adds its rows if it compares. -/
theorem comparedRows_concat (m : Meter) (steps : List MeterStep) (s : MeterStep) :
    m.comparedRows (steps ++ [s]) = m.comparedRows steps ++
      (if comparesAfter steps s then (answeredRows? ((m.run steps).step s).1).toList else []) := by
  have hlength := length_trace m steps
  have hearlier : ∀ i ∈ List.range steps.length,
      (if (steps ++ [s])[i]?.any (comparesAfter ((steps ++ [s]).take i)) then
        (m.trace (steps ++ [s]))[i]?.bind fun entry => answeredRows? entry.1 else none) =
      if steps[i]?.any (comparesAfter (steps.take i)) then
        (m.trace steps)[i]?.bind fun entry => answeredRows? entry.1 else none := by
    intro i hi
    have hi := List.mem_range.1 hi
    rw [trace_concat, List.getElem?_append_left hi, List.take_append_of_le_length (by omega),
      List.getElem?_append_left (by omega)]
  have hlast : (m.trace (steps ++ [s]))[steps.length]? = some ((m.run steps).step s) := by
    rw [trace_concat, ← hlength, List.getElem?_concat_length]
  rw [Meter.comparedRows, List.length_append, List.length_singleton, List.range_succ,
    List.filterMap_append, List.filterMap_congr hearlier, ← Meter.comparedRows,
    List.filterMap_cons, hlast, List.getElem?_concat_length, List.take_left, Option.any_some,
    Option.bind_some]
  congr 1
  cases comparesAfter steps s with
  | false => rfl
  | true => cases answeredRows? ((m.run steps).step s).1 <;> rfl

/-! ## Steps -/

/-- A step compares if it has a reading and there has been one before it. -/
theorem comparesAfter_eq (earlier : List MeterStep) (s : MeterStep) :
    comparesAfter earlier s = (s.reading?.isSome && (latestReading? earlier).isSome) := by
  rw [comparesAfter]
  congr 1
  rw [Bool.eq_iff_iff, List.any_eq_true, latestReading?_isSome_iff]

/-- An update against a baseline pushes the totals of the rows that it returns. -/
theorem update_histories {m : Meter} (h : m.baseline.isSome = true) (time : Nat)
    (reading : Reading) (addresses : Addresses) :
    (m.update time reading addresses).2.received =
        m.received.push (totalOf (·.receiving) (m.update time reading addresses).1) ∧
      (m.update time reading addresses).2.sent =
        m.sent.push (totalOf (·.sending) (m.update time reading addresses).1) := by
  obtain ⟨previous, hprevious⟩ := Option.isSome_iff_exists.1 h
  unfold Meter.update
  rw [hprevious]
  simp only [sumRates_map, and_self]

/-- A reading against a baseline is answered with rows, and their totals are pushed. -/
theorem step_histories (m : Meter) {s : MeterStep}
    (h : (s.reading?.isSome && m.baseline.isSome) = true) :
    ∃ rows, (m.step s).1 = some (.ok rows) ∧
      (m.step s).2.received = m.received.push (totalOf (·.receiving) rows) ∧
      (m.step s).2.sent = m.sent.push (totalOf (·.sending) rows) := by
  rw [Bool.and_eq_true, Option.isSome_iff_exists] at h
  obtain ⟨⟨⟨current, addresses⟩, hs⟩, hbaseline⟩ := h
  rw [step_reading m hs]
  exact ⟨_, rfl, update_histories hbaseline _ _ _⟩

/-- A step that compares nothing leaves the histories as they were. -/
theorem step_histories_of_not (m : Meter) {s : MeterStep}
    (h : (s.reading?.isSome && m.baseline.isSome) = false) :
    (m.step s).2.received = m.received ∧ (m.step s).2.sent = m.sent := by
  rcases step_kinds s with ⟨current, addresses, hs⟩ | hs | rfl
  · rw [hs, Option.isSome_some, Bool.true_and, Option.isSome_eq_false_iff,
      Option.isNone_iff_eq_none] at h
    rw [step_reading m hs, Meter.update, h]
    exact ⟨rfl, rfl⟩
  · rw [step_fails m hs]
    exact ⟨rfl, rfl⟩
  · exact ⟨rfl, rfl⟩

/-! ## Totals -/

/-- A history of some capacity holds the totals of the last of some rankings, oldest first. -/
structure HoldsTotals (capacity : Nat) (rate : Throughput → Float)
    (rankings : List (List Throughput)) (h : History) : Prop where
  capacity_eq : h.capacity = capacity
  samples_eq : h.samples = (lastOf capacity rankings).map (totalOf rate)

/-- A new history holds the latest of no totals. -/
theorem new_holdsTotals (capacity : Nat) (rate : Throughput → Float) :
    HoldsTotals (max 1 capacity) rate [] (History.new capacity) where
  capacity_eq := Nat.max_comm _ _
  samples_eq := by rw [lastOf_nil]; rfl

/-- A push of a total keeps a history to the latest totals. -/
theorem push_holdsTotals {capacity : Nat} (hpos : 0 < capacity) {rate : Throughput → Float}
    {rankings : List (List Throughput)} {h : History} (hh : HoldsTotals capacity rate rankings h)
    (rows : List Throughput) :
    HoldsTotals capacity rate (rankings ++ [rows]) (h.push (totalOf rate rows)) := by
  obtain ⟨rfl, hsamples⟩ := hh
  rw [map_lastOf] at hsamples
  constructor
  case capacity_eq => rfl
  case samples_eq =>
    rw [samples_push hpos hsamples, map_lastOf, List.map_append, List.map_singleton]

/-- There are as many totals as rankings, but no more than the capacity. -/
theorem length_of_holdsTotals {capacity : Nat} {rate : Throughput → Float}
    {rankings : List (List Throughput)} {h : History} (hh : HoldsTotals capacity rate rankings h) :
    h.samples.length = min capacity rankings.length := by
  rw [hh.samples_eq, List.length_map, length_lastOf]

/-! ## Runs -/

/-- What a step does to the histories: a reading that is compared adds its own rows to the rankings
and every other step adds nothing and leaves both histories as they were; and afterwards the
histories hold the totals of the last rankings, as many as there are or may be. -/
structure KeepsTotals (capacity : Nat) (compared : Bool) (earlier rankings : List (List Throughput))
    (answer : Option (Except Fault (List Throughput))) (before after : Meter) : Prop where
  adds : compared = true → ∃ rows, answer = some (.ok rows) ∧ rankings = earlier ++ [rows]
  rests : compared = false → rankings = earlier ∧ after.received = before.received ∧
    after.sent = before.sent
  received : HoldsTotals capacity (·.receiving) rankings after.received
  sent : HoldsTotals capacity (·.sending) rankings after.sent
  received_length : after.received.samples.length = min capacity rankings.length
  sent_length : after.sent.samples.length = min capacity rankings.length

/-- A step keeps the totals when the run before it has left them in place. -/
theorem step_keepsTotals {capacity : Nat} (hpos : 0 < capacity) (settings : Sampling)
    (earlier : List MeterStep) (s : MeterStep) :
    let meter := Meter.new settings
    let before := meter.run earlier
    HoldsTotals capacity (·.receiving) (meter.comparedRows earlier) before.received →
    HoldsTotals capacity (·.sending) (meter.comparedRows earlier) before.sent →
      KeepsTotals capacity (comparesAfter earlier s) (meter.comparedRows earlier)
        (meter.comparedRows (earlier ++ [s])) (before.step s).1 before (before.step s).2 := by
  intro meter before hreceived hsent
  have hcompares := comparesAfter_eq earlier s
  rw [← baseline_run settings] at hcompares
  rw [comparedRows_concat]
  cases h : comparesAfter earlier s with
  | true =>
    obtain ⟨rows, hanswer, hpushed, hpushed'⟩ := step_histories before (hcompares.symm.trans h)
    rw [hanswer, if_pos rfl]
    have hr : HoldsTotals capacity (·.receiving) (meter.comparedRows earlier ++ [rows])
        (before.step s).2.received := hpushed ▸ push_holdsTotals hpos hreceived rows
    have hs : HoldsTotals capacity (·.sending) (meter.comparedRows earlier ++ [rows])
        (before.step s).2.sent := hpushed' ▸ push_holdsTotals hpos hsent rows
    exact ⟨fun _ => ⟨rows, rfl, rfl⟩, nofun, hr, hs, length_of_holdsTotals hr,
      length_of_holdsTotals hs⟩
  | false =>
    obtain ⟨hkept, hkept'⟩ := step_histories_of_not before (hcompares.symm.trans h)
    rw [if_neg Bool.false_ne_true, List.append_nil]
    have hr : HoldsTotals capacity (·.receiving) (meter.comparedRows earlier)
        (before.step s).2.received := hkept ▸ hreceived
    have hs : HoldsTotals capacity (·.sending) (meter.comparedRows earlier)
        (before.step s).2.sent := hkept' ▸ hsent
    exact ⟨nofun, fun _ => ⟨rfl, hkept, hkept'⟩, hr, hs, length_of_holdsTotals hr,
      length_of_holdsTotals hs⟩

/-- After any run both histories hold the totals of the last rankings. -/
theorem holdsTotals_run (settings : Sampling) (steps : List MeterStep) :
    let meter := Meter.new settings
    let capacity := max 1 settings.trendCapacity.toNat
    HoldsTotals capacity (·.receiving) (meter.comparedRows steps) (meter.run steps).received ∧
      HoldsTotals capacity (·.sending) (meter.comparedRows steps) (meter.run steps).sent := by
  intro meter capacity
  induction steps using List.reverseRecOn with
  | nil => exact ⟨new_holdsTotals _ _, new_holdsTotals _ _⟩
  | append_singleton steps s ih =>
    have hkeeps := step_keepsTotals (Nat.le_max_left _ _) settings steps s ih.1 ih.2
    rw [run_concat]
    exact ⟨hkeeps.received, hkeeps.sent⟩

end LinkWatch.Traffic

namespace LinkWatch

open LinkWatch.Traffic

variable {σ : Type}

/-! ## Sessions -/

/-- A session has a baseline after a snapshot that it could report, and never loses it. -/
theorem baseline_isSome_step (source : CounterSource σ) (x : Situation σ) (step : SessionStep)
    (h : x.session.meter.baseline.isSome = true ∨ ∃ r, (x.step source step).1 = .report r) :
    (x.step source step).2.2.session.meter.baseline.isSome = true := by
  cases hstep : step.sampleTime? with
  | none =>
    obtain ⟨hmeter, -, htraffic⟩ := step_keeps source x hstep
    rw [hmeter]
    refine h.resolve_right ?_
    rintro ⟨r, hr⟩
    rw [hr] at htraffic
    cases htraffic
  | some time =>
    obtain rfl := eq_snapshot_of_sampleTime? hstep
    cases hanswer : (source.answer x.session.source).1 with
    | error fault =>
      rw [step_of_error source x time hanswer] at h ⊢
      refine h.resolve_right ?_
      rintro ⟨r, hr⟩
      cases hr
    | ok p =>
      obtain ⟨-, hmeter, -⟩ := snapshot_of_ok source x.env time hanswer
      have hafter : (x.step source (.snapshot time)).2.2.session.meter =
          (x.session.meter.update time p.1 p.2).2 := hmeter
      rw [hafter, baseline_update, Option.isSome_some]

/-- A session does not lose its baseline. -/
theorem baseline_isSome_run (source : CounterSource σ) (x : Situation σ) (steps : List SessionStep)
    (h : x.session.meter.baseline.isSome = true) :
    (x.run source steps).session.meter.baseline.isSome = true := by
  induction steps generalizing x with
  | nil => exact h
  | cons step steps ih => exact ih _ (baseline_isSome_step source x step (Or.inl h))

/-- A run that has reported something has left a baseline. -/
theorem baseline_isSome_of_report (source : CounterSource σ) (x : Situation σ)
    (steps : List SessionStep) (h : ∃ e ∈ x.trace source steps, ∃ r, e.1 = .report r) :
    (x.run source steps).session.meter.baseline.isSome = true := by
  induction steps generalizing x with
  | nil =>
    obtain ⟨e, hmem, -⟩ := h
    cases hmem
  | cons step steps ih =>
    obtain ⟨e, hmem, hr⟩ := h
    rcases List.mem_cons.1 hmem with rfl | hlater
    · exact baseline_isSome_run source _ steps (baseline_isSome_step source x step (Or.inr hr))
    · exact ih _ ⟨e, hlater, hr⟩

/-- A report against a baseline ends its histories with the totals of its own rows. -/
theorem report_of_baseline (source : CounterSource σ) (x : Situation σ) (time : Nat) {r : Report}
    (h : x.session.meter.baseline.isSome = true)
    (hr : (x.step source (.snapshot time)).1 = .report r) :
    r.received.getLast? = some (totalOf (·.receiving) r.networks) ∧
      r.sent.getLast? = some (totalOf (·.sending) r.networks) := by
  cases hanswer : (source.answer x.session.source).1 with
  | error fault =>
    rw [step_of_error source x time hanswer] at hr
    cases hr
  | ok p =>
    obtain ⟨⟨proxy, hreport⟩, -, -⟩ := snapshot_of_ok source x.env time hanswer
    simp only [Situation.step, hreport, SessionAnswer.report.injEq] at hr
    subst hr
    obtain ⟨hreceived, hsent⟩ := update_histories h time p.1 p.2
    simp only [hreceived, hsent]
    exact ⟨latest?_push _ _, latest?_push _ _⟩

/-- **The histories hold the latest totals.** After each step of a meter's run both histories hold
the totals of the last rankings that the readings of the run were answered with, as many as their
capacity allows; first readings, failed ones and resets leave them as they are. A session's report
that is not its first one therefore ends its histories with the totals of its own rows. -/
theorem histories_hold_latest_totals (settings : Settings) :
    let meter := Meter.new settings.sampling
    (∀ steps earlier s later, steps = earlier ++ s :: later →
      ∃ answer m, (meter.trace steps)[earlier.length]? = some (answer, m) ∧
        KeepsTotals (max 1 settings.sampling.trendCapacity.toNat) (comparesAfter earlier s)
          (meter.comparedRows earlier) (meter.comparedRows (earlier ++ [s])) answer
          (meter.run earlier) m) ∧
    ∀ {σ : Type} (source : CounterSource σ) (env : Proxy.Lookup) (c : σ) steps earlier time later,
      steps = earlier ++ SessionStep.snapshot time :: later →
      let start : Situation σ := ⟨env, Session.new settings c⟩
      ∀ r, ((start.trace source steps)[earlier.length]?.map fun entry => entry.1) =
          some (.report r) →
        (∃ e ∈ start.trace source earlier, ∃ first, e.1 = .report first) →
        r.received.getLast? = some (totalOf (·.receiving) r.networks) ∧
          r.sent.getLast? = some (totalOf (·.sending) r.networks) := by
  intro meter
  constructor
  · rintro steps earlier s later rfl
    obtain ⟨hreceived, hsent⟩ := holdsTotals_run settings.sampling earlier
    exact ⟨_, _, trace_at meter earlier s later,
      step_keepsTotals (Nat.le_max_left _ _) settings.sampling earlier s hreceived hsent⟩
  · rintro σ source env c steps earlier time later rfl start r hr hearlier
    rw [situation_trace_at, Option.map_some, Option.some.injEq] at hr
    exact report_of_baseline source _ time
      (baseline_isSome_of_report source start earlier hearlier) hr

/-- With room for one total, the second reading's stays over a reset, a first reading and a failure;
and the second report of a session ends its history with the total of its own rows. -/
theorem total_kept_over_reset_and_failure :
    let settings : Settings := { sampling := { trendCapacity := 1 } }
    let meter := Meter.new settings.sampling
    let earlier : List MeterStep :=
      [.update 0 [⟨"eth0", 0, 0⟩] [], .update 1000000000 [⟨"eth0", 7, 9⟩] [], .reset,
        .update 2000000000 [⟨"eth0", 8, 9⟩] []]
    let failing : MeterStep := .sample 3000000000 (.error (.unavailable "down"))
    let script : Script := ⟨[.ok [⟨"eth0", 0, 0⟩], .ok [⟨"eth0", 7, 9⟩]], [], []⟩
    let start : Situation Script := ⟨fun _ => none, Session.new settings script⟩
    (∃ rows answer m, (meter.trace (earlier ++ [failing]))[4]? = some (answer, m) ∧
      meter.comparedRows (earlier ++ [failing]) = [rows] ∧
      m.received.samples = [totalOf (·.receiving) rows]) ∧
    ∃ r, ((start.trace scriptSource [.snapshot 0, .snapshot 5])[1]?.map fun entry => entry.1) =
        some (.report r) ∧
      r.received.getLast? = some (totalOf (·.receiving) r.networks) := by
  intro settings meter earlier failing script start
  obtain ⟨hmeter, hsession⟩ := histories_hold_latest_totals settings
  constructor
  · obtain ⟨answer, m, hentry, hkeeps⟩ := hmeter _ earlier failing [] rfl
    have hrankings : meter.comparedRows (earlier ++ [failing]) = [_] := rfl
    refine ⟨_, answer, m, hentry, hrankings, ?_⟩
    rw [hkeeps.received.samples_eq, hrankings]
    rfl
  · obtain ⟨hreceived, -⟩ := hsession scriptSource (fun _ => none) script
      [.snapshot 0, .snapshot 5] [.snapshot 0] 5 [] rfl _ rfl ⟨_, List.mem_cons_self, _, rfl⟩
    exact ⟨_, rfl, hreceived⟩

end LinkWatch
