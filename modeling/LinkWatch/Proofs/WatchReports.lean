import LinkWatch.CommandLine.Run
import LinkWatch.Proofs.Busiest
import LinkWatch.Proofs.ListingOrder
import LinkWatch.Proofs.PrintedReports
import LinkWatch.Proofs.StatusAge

/-!
# The reports of a watch

A watch takes one sample more than it shows reports. The first sample is the baseline and is not
shown; each report after it shows the next snapshot of the session, which compares a frame with the
one before it. So the frames, the clock and the reports keep the same count, and the loop ends when
there have been as many reports as were asked for.

All this takes a session, and a session takes room for its histories. Settings can ask for more than
there is, and then the program ends and has shown nothing.
-/

namespace LinkWatch

open LinkWatch.CommandLine LinkWatch.Proxy LinkWatch.Traffic

/-! ## What a watch is to show -/

/-- Snapshots at the first ticks of a clock. -/
def snapshotsAt (clock : Nat → Tick) (n : Nat) : List SessionStep :=
  (List.range n).map fun j => .snapshot (clock j).time

/-- The situation of a watch. -/
def watchSituation (w : Watch) : Situation InterfaceFeed :=
  ⟨w.env, w.session⟩

/-- A frame as it is read at its tick, both counted from zero. -/
def readAt (frames : List Frame) (clock : Nat → Tick) (j : Nat) : Snapshot :=
  ⟨(clock j).time, (frameAt frames j).reading⟩

/-- A report compares a frame with the one before it: it lists the busiest interfaces that are no
noise and stand in both, as many as the settings ask for but at least one and at most three, with
the addresses of the later frame. Its status is the one detected under the environment, whatever
else there was to be asked. -/
structure ComparesFrames (s : Settings) (env : Lookup) (frames : List Frame) (clock : Nat → Tick)
    (j : Nat) (r : Report) : Prop where
  busiest : ∃ positions,
    ListsBusiest (NoiseFilter.ofList s.sampling.extraNoise)
      (min (max s.sampling.topInterfaces.toNat 1) 3) (frameAt frames j).addresses
      (readAt frames clock (j - 1)) (readAt frames clock j) r.networks positions
  proxy : ∀ query tunnels, r.proxy = (detect s.detection ⟨env, query, tunnels⟩).status

/-! ## Snapshots of a feed -/

theorem snapshotsAt_succ (clock : Nat → Tick) (n : Nat) :
    snapshotsAt clock (n + 1) = snapshotsAt clock n ++ [.snapshot (clock n).time] := by
  rw [snapshotsAt, List.range_succ, List.map_append]
  rfl

theorem length_snapshotsAt (clock : Nat → Tick) (n : Nat) : (snapshotsAt clock n).length = n := by
  rw [snapshotsAt, List.length_map, List.length_range]

/-- Some first snapshots stand at the front of more. -/
theorem snapshotsAt_split (clock : Nat → Tick) {j n : Nat} (h : j < n) :
    ∃ later, snapshotsAt clock n = snapshotsAt clock j ++ .snapshot (clock j).time :: later := by
  induction n with
  | zero => cases h
  | succ n ih =>
    rw [snapshotsAt_succ]
    rcases Nat.lt_succ_iff_lt_or_eq.1 h with h | rfl
    · obtain ⟨later, hlater⟩ := ih h
      exact ⟨later ++ [.snapshot (clock n).time], by rw [hlater]; simp⟩
    · exact ⟨[], rfl⟩

/-- Every snapshot samples, at the time of its tick. -/
theorem sampleTimes_snapshotsAt (clock : Nat → Tick) (n : Nat) :
    sampleTimes (snapshotsAt clock n) = (List.range n).map fun j => (clock j).time := by
  rw [sampleTimes, snapshotsAt, List.filterMap_map]
  exact congrFun (List.filterMap_eq_map (f := fun j => (clock j).time)) (List.range n)

/-- A feed answers a sample with the next frame, and never fails. -/
theorem answer_after (frames : List Frame) (n : Nat) :
    (interfaceSource.answer (interfaceSource.next^[n] (.ofFrames frames))).1 =
      .ok ((frameAt frames n).reading, (frameAt frames n).addresses) := by
  have hnext : InterfaceFeed.next (InterfaceFeed.next^[n] (.ofFrames frames)) =
      ⟨frameAt frames n, frames.drop (n + 1)⟩ := by
    rw [← Function.iterate_succ_apply' InterfaceFeed.next, iterate_next_ofFrames]
    rfl
  have hsource : interfaceSource.next = InterfaceFeed.next := rfl
  rw [hsource]
  simp only [CounterSource.answer, interfaceSource, InterfaceFeed.read, hnext]
  rfl

/-- After some snapshots the latest reading is that of the last of them. -/
theorem latestReading?_snapshotsAt (frames : List Frame) (clock : Nat → Tick) (n : Nat) :
    latestReading? (interfaceSource.samples (.ofFrames frames)
        (sampleTimes (snapshotsAt clock (n + 1)))) = some (readAt frames clock n) := by
  rw [snapshotsAt_succ, sampleTimes_concat, sampleTimes_snapshotsAt]
  simp only [SessionStep.sampleTime?, Option.toList_some]
  rw [samples_concat, List.length_map, List.length_range, answer_after]
  exact latestReading?_reading _ rfl

/-- All detections of some snapshots run under one environment. -/
theorem env_of_mem_detections {σ : Type} {source : CounterSource σ} {x : Situation σ}
    {steps : List SessionStep} (hsteps : ∀ step ∈ steps, ∃ time, step = .snapshot time)
    {run : DetectionRun} (h : run ∈ x.detections source steps) : run.env = x.env := by
  induction steps generalizing x with
  | nil => cases h
  | cons step steps ih =>
    obtain ⟨time, rfl⟩ := hsteps step List.mem_cons_self
    rw [Situation.detections, List.mem_append, Option.mem_toList] at h
    rcases h with h | h
    · -- a snapshot detects under the environment that it finds, and leaves it in force
      rw [Situation.detection?] at h
      split at h
      · cases h
      · exact env_of_detectionRun? h
    · exact ih (x := (x.step source (.snapshot time)).2.2)
        (fun step hstep => hsteps step (List.mem_cons_of_mem _ hstep)) h

/-! ## What a snapshot reports -/

section Session

variable (s : Settings) (env : Lookup) (frames : List Frame) (clock : Nat → Tick)

/-- The situation of a new session on some frames, after some snapshots. -/
def afterSnapshots (n : Nat) : Situation InterfaceFeed :=
  Situation.run interfaceSource ⟨env, Session.new s (.ofFrames frames)⟩ (snapshotsAt clock n)

theorem afterSnapshots_succ (n : Nat) :
    afterSnapshots s env frames clock (n + 1) =
      ((afterSnapshots s env frames clock n).step interfaceSource
        (.snapshot (clock n).time)).2.2 := by
  rw [afterSnapshots, snapshotsAt_succ, situation_run_concat]
  rfl

/-- A report shows the status detected under the environment of the session. -/
theorem proxy_of_report {n : Nat} {r : Report}
    (h : ((afterSnapshots s env frames clock n).step interfaceSource
      (.snapshot (clock n).time)).1 = .report r) (query : Option String)
    (tunnels : Option Reading) :
    r.proxy = (detect s.detection ⟨env, query, tunnels⟩).status := by
  have hdue := step_detectsWhenDue interfaceSource
    (standsAt_run interfaceSource s env (.ofFrames frames) (snapshotsAt clock n))
    (.snapshot (clock n).time)
  rw [← detections_concat, ← snapshotsAt_succ, ← afterSnapshots, h] at hdue
  -- a report is never shown without a detection before it
  obtain ⟨run, hrun, -⟩ := hdue.fresh (clock n).time rfl
  have hshows := hdue.shown r.proxy rfl
  have hsteps : ∀ step ∈ snapshotsAt clock (n + 1), ∃ time, step = .snapshot time := by
    intro step hstep
    obtain ⟨j, -, rfl⟩ := List.mem_map.1 hstep
    exact ⟨_, rfl⟩
  have henv : run.env = env := env_of_mem_detections hsteps (List.mem_of_getLast? hrun)
  rw [hrun] at hshows
  rw [← henv]
  exact hshows query tunnels

/-- A report after the first compares its frame with the one before it. -/
theorem comparesFrames_of_report {n : Nat} {r : Report}
    (h : ((afterSnapshots s env frames clock (n + 1)).step interfaceSource
      (.snapshot (clock (n + 1)).time)).1 = .report r) :
    ComparesFrames s env frames clock (n + 1) r := by
  -- the meter has seen the frames before this one and nothing else, so it compares with the last
  have hsampled := sampledOnly_run interfaceSource s env (.ofFrames frames)
    (snapshotsAt clock (n + 1))
  have hsource : (interfaceSource.answer
      (afterSnapshots s env frames clock (n + 1)).session.source).1 =
        .ok ((frameAt frames (n + 1)).reading, (frameAt frames (n + 1)).addresses) := by
    rw [afterSnapshots, hsampled.source_eq, sampleTimes_snapshotsAt, List.length_map,
      List.length_range, answer_after]
  obtain ⟨-, -, htraffic⟩ := step_snapshot interfaceSource
    (afterSnapshots s env frames clock (n + 1)) (clock (n + 1)).time
  rw [h, hsource, meterTraffic?, afterSnapshots, hsampled.meter_eq,
    step_run_reading s.sampling _ rfl, latestReading?_snapshotsAt] at htraffic
  have hrows : r.networks = ranking (NoiseFilter.ofList s.sampling.extraNoise)
      (min (max s.sampling.topInterfaces.toNat 1) 3) (frameAt frames (n + 1)).addresses
      (readAt frames clock n) (readAt frames clock (n + 1)) :=
    congrArg Prod.fst (Except.ok.inj (Option.some.inj htraffic))
  refine ⟨?_, proxy_of_report s env frames clock h⟩
  rw [hrows]
  exact ⟨_, ranking_listsBusiest _ _ _ _ _⟩

/-! ## The loop -/

/-- A watch that has taken some samples of a new session. -/
structure HasSampled (style : Style) (n : Nat) (w : Watch) : Prop where
  style_eq : w.style = style
  situation_eq : watchSituation w = afterSnapshots s env frames clock n

/-- What a watch shows between two counts of its samples, and where it ends. -/
structure ShowsReports (style : Style) (shown count : Nat) (r : List String × Watch) : Prop where
  length_eq : r.1.length = count - shown
  text_at : ∀ j, shown < j → j ≤ count → ∃ report,
    ((afterSnapshots s env frames clock j).step interfaceSource
      (.snapshot (clock j).time)).1 = .report report ∧
      r.1[j - (shown + 1)]? = some (reportText style (clock j).stamp report)
  hasSampled : HasSampled s env frames clock style (count + 1) r.2

/-- A sample of a watch shows the next snapshot of its session. -/
theorem sample_hasSampled {style : Style} {n : Nat} {w : Watch}
    (h : HasSampled s env frames clock style n w) :
    (∃ report, ((afterSnapshots s env frames clock n).step interfaceSource
        (.snapshot (clock n).time)).1 = .report report ∧
        (w.sample (clock n)).1 = reportText style (clock n).stamp report) ∧
      HasSampled s env frames clock style (n + 1) (w.sample (clock n)).2 := by
  obtain ⟨rfl, hsituation⟩ := h
  obtain ⟨report, hreport, -⟩ := snapshot_cases_of_ok interfaceSource w.env (clock n).time
    (s := w.session) rfl
  have hsample : w.sample (clock n) = (reportText w.style (clock n).stamp report,
      { w with session := (w.session.snapshot interfaceSource w.env (clock n).time).2.2 }) := by
    simp only [Watch.sample, hreport]
  have hstep : (watchSituation w).step interfaceSource (.snapshot (clock n).time) =
      (.report report, (w.session.snapshot interfaceSource w.env (clock n).time).2.1,
        watchSituation (w.sample (clock n)).2) := by
    simp only [Situation.step, watchSituation, hreport, hsample]
  rw [← hsituation, hstep]
  refine ⟨⟨report, rfl, by rw [hsample]⟩, by rw [hsample], ?_⟩
  rw [afterSnapshots_succ, ← hsituation, hstep]

/-- With an end, a watch goes on as long as it has shown less than was asked for. -/
theorem goesOn_iff {count : UInt64} (hcount : count ≠ 0) (shown : Nat) :
    goesOn count shown = true ↔ shown < count.toNat := by
  simp [goesOn, hcount]

/-- The loop shows the snapshots that are left of its count, one after another. -/
theorem reports_showsReports {style : Style} {count : UInt64} (hcount : count ≠ 0) {w : Watch}
    {shown : Nat} (hshown : shown ≤ count.toNat)
    (h : HasSampled s env frames clock style (shown + 1) w) :
    ShowsReports s env frames clock style shown count.toNat
      (w.reports clock count hcount shown) := by
  -- on what is left to be shown, from any watch that has sampled as often as its count demands
  induction hleft : count.toNat - shown generalizing w shown with
  | zero =>
    obtain rfl : shown = count.toNat := by omega
    rw [Watch.reports, dif_neg (by rw [goesOn_iff hcount]; omega)]
    exact ⟨(Nat.sub_self _).symm, fun j hfirst hlast => absurd hfirst (by omega), h⟩
  | succ left ih =>
    obtain ⟨⟨report, hreport, htext⟩, hnext⟩ := sample_hasSampled s env frames clock h
    have hlater := ih (by omega) hnext (by omega)
    rw [Watch.reports, dif_pos (by rw [goesOn_iff hcount]; omega)]
    constructor
    case length_eq =>
      rw [List.length_cons, hlater.length_eq]
      omega
    case text_at =>
      intro j hfirst hlast
      rcases Nat.eq_or_lt_of_le hfirst with rfl | hmore
      · refine ⟨report, hreport, ?_⟩
        rw [Nat.succ_eq_add_one, Nat.sub_self, List.getElem?_cons_zero, htext]
      · obtain ⟨k, hk⟩ : ∃ k, j - (shown + 1) = k + 1 := ⟨j - (shown + 2), by omega⟩
        have hindex : j - (shown + 1 + 1) = k := by omega
        rw [hk, List.getElem?_cons_succ, ← hindex]
        exact hlater.text_at j hmore hlast
    case hasSampled => exact hlater.hasSampled

/-- A new watch shows all its snapshots but the first. -/
theorem shown_showsReports (style : Style) {count : UInt64} (hcount : count ≠ 0) :
    ShowsReports s env frames clock style 0 count.toNat
      ((Watch.new style s env (.ofFrames frames)).shown clock count hcount) := by
  have hnew : HasSampled s env frames clock style 0 (Watch.new style s env (.ofFrames frames)) :=
    ⟨rfl, rfl⟩
  exact reports_showsReports s env frames clock hcount (Nat.zero_le _)
    (sample_hasSampled s env frames clock hnew).2

end Session

/-! ## Runs of the program -/

/-- A run that is to watch shows what a watch shows, if there is room for its histories, and else
ends without having shown anything. -/
theorem run_watch {arguments : List String} {world : World} {o : Options} {loaded : Settings}
    (hrequest : Request.ofArguments arguments = .run o) (hcommand : o.command = .watch)
    (hload : world.load o = .ok loaded) (hcount : o.count ≠ 0) :
    run arguments world =
      match History.noRoom? world.memory (o.adjust loaded).sampling.trendCapacity.toNat with
      | some trouble => ⟨endingOf trouble, ""⟩
      | none => ⟨.code 0, String.join ((Watch.new (Style.ofName o.format) (o.adjust loaded)
          world.env.text? (.ofFrames world.frames)).shown
          (steadyClock (pauseOf (o.adjust loaded) * 1000000) world.stamp) o.count hcount).1⟩ := by
  simp only [run, hrequest, Request.task, Options.task, hload, hcommand]
  cases History.noRoom? world.memory (o.adjust loaded).sampling.trendCapacity.toNat with
  | some trouble => rfl
  | none => simp only [dif_neg hcount]

/-- **Each report of a watch compares a frame with the one before it.** A watch that is to show some
reports ends after one snapshot more, and has shown just as many texts. The first snapshot is not
among them: each text shows the snapshot that has as many others before it, and this compares its
frame with the one before and carries the status detected under the environment. A run of the
program prints these texts if there is room for its histories, whose samples take eight bytes each:
less than half of all addresses, and no more than the system gives at once. A run without room ends
with code 101 or by a signal, and prints nothing. -/
theorem watch_shows_comparisons (count : UInt64) (hcount : count ≠ 0) :
    (∀ (s : Settings) (style : Style) (frames : List Frame) env clock,
      let start : Situation InterfaceFeed := ⟨env, Session.new s (.ofFrames frames)⟩
      let steps := snapshotsAt clock (count.toNat + 1)
      let watched := (Watch.new style s env (.ofFrames frames)).shown clock count hcount
      watchSituation watched.2 = start.run interfaceSource steps ∧
        watched.2.session.source = InterfaceFeed.next^[count.toNat + 1] (.ofFrames frames) ∧
        watched.1.length = count.toNat ∧
        ∀ j, 1 ≤ j → j ≤ count.toNat → ∃ report looked after text,
          (start.trace interfaceSource steps)[j]? = some (.report report, looked, after) ∧
          watched.1[j - 1]? = some text ∧ text = reportText style (clock j).stamp report ∧
          Shows style (clock j).stamp report text ∧
          ComparesFrames s env frames clock j report) ∧
    ∀ arguments (world : World) (o : Options) loaded,
      Request.ofArguments arguments = .run o → o.command = .watch → o.count = count →
      world.load o = .ok loaded →
      let s := o.adjust loaded
      let size := max s.sampling.trendCapacity.toNat 1 * 8
      (size < 2 ^ 63 → size ≤ world.memory → run arguments world =
        ⟨.code 0, String.join ((Watch.new (Style.ofName o.format) s world.env.text?
          (.ofFrames world.frames)).shown
          (steadyClock (pauseOf s * 1000000) world.stamp) count hcount).1⟩) ∧
      (2 ^ 63 ≤ size → run arguments world = ⟨.code 101, ""⟩) ∧
      (size < 2 ^ 63 → world.memory < size → run arguments world = ⟨.signal 6 false, ""⟩) := by
  constructor
  · intro s style frames env clock start steps watched
    have hshows := shown_showsReports s env frames clock style hcount
    refine ⟨hshows.hasSampled.situation_eq, ?_, hshows.length_eq, ?_⟩
    · have hsampled := sampledOnly_run interfaceSource s env (.ofFrames frames) steps
      have hend : watched.2.session = (start.run interfaceSource steps).session :=
        congrArg Situation.session hshows.hasSampled.situation_eq
      rw [hend, hsampled.source_eq, sampleTimes_snapshotsAt, List.length_map, List.length_range]
      rfl
    · intro j hfirst hlast
      obtain ⟨report, hreport, htext⟩ := hshows.text_at j hfirst hlast
      obtain ⟨later, hsplit⟩ := snapshotsAt_split clock (Nat.lt_succ_of_le hlast)
      have hentry := situation_trace_at interfaceSource start (snapshotsAt clock j)
        (.snapshot (clock j).time) later
      rw [← hsplit, length_snapshotsAt] at hentry
      obtain ⟨n, rfl⟩ : ∃ n, j = n + 1 := ⟨j - 1, by omega⟩
      refine ⟨report, _, _, _, hentry.trans (congrArg some (Prod.ext hreport rfl)), htext, rfl,
        shows_reportText _ _ _, comparesFrames_of_report s env frames clock hreport⟩
  · rintro arguments world o loaded hrequest hcommand rfl hload s size
    have hrun := run_watch hrequest hcommand hload hcount
    have hhalf : 0x8000000000000000 = 2 ^ 63 := rfl
    rw [noRoom?_eq, hhalf] at hrun
    refine ⟨fun haddresses hmemory => ?_, fun haddresses => ?_, fun haddresses hmemory => ?_⟩
    · rw [hrun, if_neg (Nat.not_le.2 haddresses), if_neg (Nat.not_lt.2 hmemory)]
    · rw [hrun, if_pos haddresses]
      rfl
    · rw [hrun, if_neg (Nat.not_le.2 haddresses), if_pos hmemory]
      rfl

/-- A run for two reports on two frames. The second report compares the second frame with itself,
and lists the one interface there. -/
theorem run_of_two_reports :
    let environment : Environment := .ofTexts [("http_proxy", "10.0.0.8:3128")]
    let frames : List Frame :=
      [[⟨"lo", 1, 1, []⟩, ⟨"eth0", 0, 0, []⟩], [⟨"eth0", 5, 0, [.v4 10 0 0 2]⟩]]
    let world : World := ⟨.empty [], environment, frames, "12:00:00", 2 ^ 40, id⟩
    (2 : UInt64) ≠ 0 ∧ ∃ texts, run ["-n", "2"] world = ⟨.code 0, String.join texts⟩ ∧
      texts.length = 2 ∧ ∃ report text, texts[1]? = some text ∧
        Shows .plain "12:00:00" report text ∧ report.networks.length = 1 ∧
        report.proxy = .found .http "10.0.0.8:3128" := by
  intro environment frames world
  have hcount : (2 : UInt64) ≠ 0 := by decide
  obtain ⟨hshown, hrun⟩ := watch_shows_comparisons 2 hcount
  have hload : world.load { count := 2 } = .ok {} := by decide +kernel
  obtain ⟨hends, -, -⟩ := hrun ["-n", "2"] world { count := 2 } {} rfl rfl rfl hload
  let clock := steadyClock (pauseOf {} * 1000000) "12:00:00"
  obtain ⟨-, -, hlength, htexts⟩ := hshown {} .plain frames environment.text? clock
  obtain ⟨report, -, -, text, -, htext, -, hshows, ⟨positions, hlists⟩, hproxy⟩ :=
    htexts 2 (by decide) (by decide)
  have hreading : ∀ j, 1 ≤ j → (readAt frames clock j).reading = [⟨"eth0", 5, 0⟩] := by
    intro j hj
    have hmin : min j 1 = 1 := Nat.min_eq_right hj
    simp [readAt, frameAt, frames, hmin, Frame.reading, Interface.counter]
  have hranked : ((readAt frames clock 2).reading.countP fun row =>
      Rankable (NoiseFilter.ofList []) (readAt frames clock 1).reading row) = 1 := by
    rw [hreading 1 (by decide), hreading 2 (by decide)]
    decide +kernel
  have hnetworks : report.networks.length = 1 := by
    rw [hlists.rows_eq, List.length_map, hlists.length_eq]
    exact congrArg (min 3) hranked
  have hfound : (detect {} ⟨environment.text?, none, none⟩).status =
      .found .http "10.0.0.8:3128" := by
    decide +kernel
  exact ⟨hcount, _, hends (by decide) (by decide), hlength, report, text, htext, hshows, hnetworks,
    (hproxy none none).trans hfound⟩

/-- A directory that holds a file of settings with a capacity of 2^63 - 1. -/
def wideTree : Files.Tree :=
  Files.Tree.put (.empty []) ⟨⟨[], rfl⟩, "c.toml", rfl, by decide⟩
    (.file (Text.encodeText "sampling.trend_capacity = 9223372036854775807"))

/-- Nothing is shown to somebody whose histories are to be longer than memory is. -/
theorem run_without_room :
    let world : World := ⟨wideTree, [], [], "12:00:00", 2 ^ 40, id⟩
    loadFrom world.wording world.tree "c.toml" =
        .ok { sampling := { trendCapacity := 9223372036854775807 } } ∧
      run ["-c", "c.toml", "-n", "1", "-i", "0"] world = ⟨.code 101, ""⟩ := by
  intro world
  have hload : loadFrom world.wording world.tree "c.toml" =
      .ok { sampling := { trendCapacity := 9223372036854775807 } } := by
    decide +kernel
  refine ⟨hload, ?_⟩
  have hrequest : Request.ofArguments ["-c", "c.toml", "-n", "1", "-i", "0"] =
      .run { config := some "c.toml", count := 1, interval := some 0.0 } := rfl
  have hworld : world.load { config := some "c.toml", count := 1, interval := some 0.0 } =
      loadFrom world.wording world.tree "c.toml" := rfl
  rw [run_watch hrequest rfl (hworld.trans hload) (by decide)]
  rfl

end LinkWatch
