import LinkWatch.Proofs.CascadeOrder
import LinkWatch.Proofs.SessionSampling
import Mathlib.Data.List.Chain

/-!
# The age of a status

A session detects the proxy when it is told to, and else only when its last detection is as old as
the poll interval. The status that it keeps and shows is always that of its last detection, under
the environment that was in force then. All this is told by the detections of a run, which show by
the names that they look up.
-/

namespace LinkWatch

open LinkWatch.Proxy LinkWatch.Traffic

variable {σ : Type}

/-! ## The detections of a run -/

/-- A detection in the course of a run: its time, the environment in force, and whether the session
was told to run it. -/
structure DetectionRun where
  time : Nat
  env : Lookup
  forced : Bool

/-- The detection that a step runs if it runs one. -/
def SessionStep.detectionRun? (env : Lookup) : SessionStep → Option DetectionRun
  | .environment _ => none
  | .snapshot time => some ⟨time, env, false⟩
  | .proxyStatus time => some ⟨time, env, false⟩
  | .refresh time => some ⟨time, env, true⟩

/-- The detection of a step, which shows by the names that the step looks up. -/
def Situation.detection? (source : CounterSource σ) (x : Situation σ) (step : SessionStep) :
    Option DetectionRun :=
  if (x.step source step).2.1 = [] then none else step.detectionRun? x.env

/-- The detections in the course of some steps, in order. -/
def Situation.detections (source : CounterSource σ) (x : Situation σ) :
    List SessionStep → List DetectionRun
  | [] => []
  | step :: steps =>
    (x.detection? source step).toList ++
      Situation.detections source (x.step source step).2.2 steps

theorem detections_concat (source : CounterSource σ) (x : Situation σ)
    (steps : List SessionStep) (step : SessionStep) :
    x.detections source (steps ++ [step]) =
      x.detections source steps ++ ((x.run source steps).detection? source step).toList := by
  induction steps generalizing x with
  | nil => simp [Situation.detections, Situation.run]
  | cons first steps ih =>
    rw [List.cons_append, Situation.detections, ih, Situation.detections, List.append_assoc]
    rfl

/-! ## What is asked of a session -/

/-- The last detection is as old as the poll interval, or there was none. A time before the last
detection makes it no older. -/
def Outdated (poll time : Nat) : Option Nat → Prop
  | none => True
  | some last => poll ≤ time - last

/-- A step with this answer should run a detection, when the last one was run at the time given. A
snapshot that failed should not. -/
def CallsForDetection (poll : Nat) (last : Option Nat) : SessionStep → SessionAnswer → Prop
  | .refresh _, _ => True
  | .proxyStatus time, _ => Outdated poll time last
  | .snapshot time, .report _ => Outdated poll time last
  | _, _ => False

/-- A status is what the last detection gave under its environment, whatever else there was to be
asked; without a detection there is no proxy. -/
def ShowsDetection (d : Detection) (last : Option DetectionRun) (status : Status) : Prop :=
  match last with
  | none => status = .disabled
  | some run => ∀ query tunnels, status = (detect d ⟨run.env, query, tunnels⟩).status

/-- The status in an answer. -/
def SessionAnswer.status? : SessionAnswer → Option Status
  | .report r => some r.proxy
  | .status s => some s
  | .nothing => none
  | .failed _ => none

/-- The time of a step that brings the status up to date. -/
def upToDateTime? : SessionStep → SessionAnswer → Option Nat
  | .proxyStatus time, _ => some time
  | .snapshot time, .report _ => some time
  | _, _ => none

/-- A step detects when it should and only then, with the names and the status of a detection under
the environment in force; it shows the status of the latest detection; and a step that brings the
status up to date leaves it no older than the poll interval. Here `before` and `after` are the
latest detections before and after the step. -/
structure DetectsWhenDue (d : Detection) (env : Lookup) (before after : Option DetectionRun)
    (step : SessionStep) (answer : SessionAnswer) (looked : List String) : Prop where
  detects_iff : looked ≠ [] ↔
    CallsForDetection d.pollNanoseconds (before.map (·.time)) step answer
  looked_eq : looked ≠ [] → ∀ query tunnels, looked = (detect d ⟨env, query, tunnels⟩).looked
  shown : ∀ status, answer.status? = some status → ShowsDetection d after status
  fresh : ∀ time, upToDateTime? step answer = some time →
    ∃ run, after = some run ∧ (run.time = time ∨ time - run.time < d.pollNanoseconds)

/-- Two detections in a row: unless the later one was forced, the poll interval lies between them,
and then, if that is not zero, the later one is later indeed. -/
def Spaced (poll : Nat) (a b : DetectionRun) : Prop :=
  b.forced = false → poll ≤ b.time - a.time ∧ (0 < poll → a.time < b.time)

/-! ## Steps -/

/-- Only the variables have a say in what is detected. -/
theorem detect_eq (d : Detection) (s : Sources) :
    detect d s = ⟨(fromVariables s.lookup).status.getD .disabled,
      (fromVariables s.lookup).looked, false, false⟩ := by
  rw [detect, systemGate_eq_false]
  rcases resolve_cases s false with ⟨status, henv, h⟩ | ⟨henv, ⟨-, h⟩ | ⟨hgate, -⟩⟩
  · rw [h, henv, Option.getD_some]
  · rw [h, henv, Option.getD_none]
  · cases hgate

/-- A detection looks up the first variable at least. -/
theorem looked_detect_ne_nil (d : Detection) (s : Sources) : (detect d s).looked ≠ [] := by
  rw [detect_eq, fromVariables, searchVariables_looked, variableNames, List.take_succ_cons]
  exact List.cons_ne_nil _ _

/-- A session has run a detection at a time under an environment. -/
structure Detects (env : Lookup) (time : Nat) (s : Session σ) (r : List String × Session σ) :
    Prop where
  looked_eq : ∀ query tunnels, r.1 = (detect s.detection ⟨env, query, tunnels⟩).looked
  proxy_eq : ∀ query tunnels, r.2.proxy = (detect s.detection ⟨env, query, tunnels⟩).status
  checked_eq : r.2.checked = some time
  detection_eq : r.2.detection = s.detection

/-- A session has run no detection. -/
structure Rests (s : Session σ) (r : List String × Session σ) : Prop where
  looked_eq : r.1 = []
  proxy_eq : r.2.proxy = s.proxy
  checked_eq : r.2.checked = s.checked
  detection_eq : r.2.detection = s.detection

/-- A refresh detects. -/
theorem refresh_detects (source : CounterSource σ) (env : Lookup) (time : Nat) (s : Session σ) :
    Detects env time s (s.refresh source env time) := by
  constructor
  case looked_eq => intro query tunnels; simp only [Session.refresh, detect_eq]
  case proxy_eq => intro query tunnels; simp only [Session.refresh, detect_eq]
  case checked_eq => rfl
  case detection_eq => rfl

/-- A detection is due if the last one is as old as the poll interval, or if there is none. -/
theorem isDue_iff (s : Session σ) (time : Nat) :
    s.isDue time = true ↔ Outdated s.detection.pollNanoseconds time s.checked := by
  unfold Session.isDue Outdated
  cases s.checked with
  | none => simp
  | some last => simp

/-- A request for the status detects if the last detection is outdated, and else changes nothing. -/
theorem proxyStatus_cases (source : CounterSource σ) (env : Lookup) (time : Nat)
    (s : Session σ) :
    Outdated s.detection.pollNanoseconds time s.checked ∧
        Detects env time s (s.proxyStatus source env time) ∨
      ¬ Outdated s.detection.pollNanoseconds time s.checked ∧
        Rests s (s.proxyStatus source env time) := by
  rw [← isDue_iff]
  unfold Session.proxyStatus
  cases hdue : s.isDue time with
  | true => exact Or.inl ⟨rfl, refresh_detects source env time s⟩
  | false => exact Or.inr ⟨Bool.false_ne_true, ⟨rfl, rfl, rfl, rfl⟩⟩

/-- A successful snapshot does about the status what asking for it does. -/
theorem snapshot_cases_of_ok (source : CounterSource σ) (env : Lookup) (time : Nat) {s : Session σ}
    {p : Reading × Addresses} (h : (source.answer s.source).1 = .ok p) :
    ∃ r, (s.snapshot source env time).1 = .ok r ∧
      r.proxy = (s.snapshot source env time).2.2.proxy ∧
      (Outdated s.detection.pollNanoseconds time s.checked ∧
          Detects env time s (s.snapshot source env time).2 ∨
        ¬ Outdated s.detection.pollNanoseconds time s.checked ∧
          Rests s (s.snapshot source env time).2) := by
  simp only [Session.snapshot, h, Meter.sample]
  refine ⟨_, rfl, rfl, ?_⟩
  -- the sample has changed neither the settings nor the status nor the time of its detection
  rcases proxyStatus_cases source env time { s with
    source := (source.answer s.source).2
    meter := (s.meter.update time p.1 p.2).2 } with ⟨hdue, h⟩ | ⟨hdue, h⟩
  · exact Or.inl ⟨hdue, ⟨h.looked_eq, h.proxy_eq, h.checked_eq, h.detection_eq⟩⟩
  · exact Or.inr ⟨hdue, ⟨h.looked_eq, h.proxy_eq, h.checked_eq, h.detection_eq⟩⟩

/-- What a step does about the status is told by whether it calls for a detection. -/
theorem step_cases (source : CounterSource σ) (x : Situation σ) (step : SessionStep) :
    let r := x.step source step
    CallsForDetection x.session.detection.pollNanoseconds x.session.checked step r.1 ∧
        (∃ run, step.detectionRun? x.env = some run ∧
          Detects x.env run.time x.session (r.2.1, r.2.2.session)) ∨
      ¬ CallsForDetection x.session.detection.pollNanoseconds x.session.checked step r.1 ∧
        Rests x.session (r.2.1, r.2.2.session) := by
  intro r
  cases step with
  | environment env => exact Or.inr ⟨id, ⟨rfl, rfl, rfl, rfl⟩⟩
  | refresh time => exact Or.inl ⟨trivial, _, rfl, refresh_detects source x.env time x.session⟩
  | proxyStatus time =>
    rcases proxyStatus_cases source x.env time x.session with ⟨hdue, h⟩ | ⟨hdue, h⟩
    · exact Or.inl ⟨hdue, _, rfl, h⟩
    · exact Or.inr ⟨hdue, h⟩
  | snapshot time =>
    cases hanswer : (source.answer x.session.source).1 with
    | error fault =>
      simp only [r, step_of_error source x time hanswer]
      exact Or.inr ⟨id, ⟨rfl, rfl, rfl, rfl⟩⟩
    | ok p =>
      obtain ⟨report, hreport, -, hcases⟩ := snapshot_cases_of_ok source x.env time hanswer
      have hr : r.1 = .report report := by simp only [r, Situation.step, hreport]
      rw [hr]
      rcases hcases with ⟨hdue, h⟩ | ⟨hdue, h⟩
      · exact Or.inl ⟨hdue, _, rfl, h⟩
      · exact Or.inr ⟨hdue, h⟩

/-- The status that a step shows is the one that the session keeps. -/
theorem step_shown (source : CounterSource σ) (x : Situation σ) (step : SessionStep)
    {status : Status} (h : (x.step source step).1.status? = some status) :
    status = (x.step source step).2.2.session.proxy := by
  cases step with
  | environment env => cases h
  | refresh time => exact (Option.some.inj h).symm
  | proxyStatus time => exact (Option.some.inj h).symm
  | snapshot time =>
    cases hanswer : (source.answer x.session.source).1 with
    | error fault =>
      rw [step_of_error source x time hanswer] at h
      cases h
    | ok p =>
      obtain ⟨report, hreport, hproxy, -⟩ := snapshot_cases_of_ok source x.env time hanswer
      simp only [Situation.step, hreport] at h ⊢
      exact (Option.some.inj h).symm.trans hproxy

/-- A detection runs under the environment in force. -/
theorem env_of_detectionRun? {env : Lookup} {step : SessionStep} {run : DetectionRun}
    (h : step.detectionRun? env = some run) : run.env = env := by
  cases step <;> cases h <;> rfl

/-- A step that calls for a detection without forcing it finds the last one outdated. -/
theorem outdated_of_callsForDetection {poll : Nat} {last : Option Nat} {step : SessionStep}
    {answer : SessionAnswer} {env : Lookup} {run : DetectionRun}
    (hcalls : CallsForDetection poll last step answer)
    (hrun : step.detectionRun? env = some run) (hforced : run.forced = false) :
    Outdated poll run.time last := by
  cases step with
  | environment => cases hrun
  | refresh time => cases hrun; cases hforced
  | proxyStatus time => cases hrun; exact hcalls
  | snapshot time =>
    cases hrun
    cases answer with
    | report => exact hcalls
    | nothing => exact hcalls.elim
    | status => exact hcalls.elim
    | failed => exact hcalls.elim

/-- A step that brings the status up to date calls for a detection when the last is outdated. -/
theorem callsForDetection_of_upToDateTime? {step : SessionStep} {answer : SessionAnswer}
    {time : Nat} (h : upToDateTime? step answer = some time) (poll : Nat) (last : Option Nat)
    (env : Lookup) :
    (CallsForDetection poll last step answer ↔ Outdated poll time last) ∧
      ∀ run, step.detectionRun? env = some run → run.time = time := by
  cases step with
  | environment => cases h
  | refresh => cases h
  | proxyStatus t => cases h; exact ⟨Iff.rfl, fun run hrun => by cases hrun; rfl⟩
  | snapshot t =>
    cases answer with
    | report => cases h; exact ⟨Iff.rfl, fun run hrun => by cases hrun; rfl⟩
    | nothing => cases h
    | status => cases h
    | failed => cases h

/-! ## Runs -/

/-- A session stands where some detections have brought it. -/
structure StandsAt (d : Detection) (runs : List DetectionRun) (s : Session σ) : Prop where
  detection_eq : s.detection = d
  checked_eq : s.checked = runs.getLast?.map (·.time)
  shows : ShowsDetection d runs.getLast? s.proxy
  spaced : runs.IsChain (Spaced d.pollNanoseconds)

/-- A step that looks up nothing makes no detection. -/
theorem detection?_of_rests {source : CounterSource σ} {x : Situation σ} {step : SessionStep}
    (h : Rests x.session ((x.step source step).2.1, (x.step source step).2.2.session)) :
    x.detection? source step = none :=
  if_pos h.looked_eq

/-- A step that looks up anything makes a detection. -/
theorem detection?_of_detects {source : CounterSource σ} {x : Situation σ} {step : SessionStep}
    {time : Nat}
    (h : Detects x.env time x.session
      ((x.step source step).2.1, (x.step source step).2.2.session)) :
    (x.step source step).2.1 ≠ [] ∧
      x.detection? source step = step.detectionRun? x.env := by
  have hne : (x.step source step).2.1 ≠ [] := by
    rw [h.looked_eq none none]
    exact looked_detect_ne_nil _ _
  exact ⟨hne, if_neg hne⟩

/-- A detection more keeps the distance, if it is forced or if the last one is outdated. -/
theorem spaced_concat {poll : Nat} {runs : List DetectionRun} {run : DetectionRun}
    (hruns : runs.IsChain (Spaced poll))
    (hrun : run.forced = false → Outdated poll run.time (runs.getLast?.map (·.time))) :
    (runs ++ [run]).IsChain (Spaced poll) := by
  rw [List.isChain_append]
  refine ⟨hruns, List.isChain_singleton run, ?_⟩
  intro a ha b hb hforced
  obtain rfl : run = b := Option.some.inj hb
  have hout := hrun hforced
  rw [Option.mem_def.1 ha, Option.map_some, Outdated] at hout
  exact ⟨hout, by omega⟩

/-- A step keeps a session at its last detection. -/
theorem standsAt_step (source : CounterSource σ) {d : Detection} {runs : List DetectionRun}
    {x : Situation σ} (h : StandsAt d runs x.session) (step : SessionStep) :
    StandsAt d (runs ++ (x.detection? source step).toList)
      (x.step source step).2.2.session := by
  have hcases := step_cases source x step
  simp only [h.detection_eq, h.checked_eq] at hcases
  rcases hcases with ⟨hcalls, run, hrun, hdetects⟩ | ⟨-, hrests⟩
  · -- the step runs a detection, which is the latest from now on
    obtain ⟨-, hlog⟩ := detection?_of_detects hdetects
    rw [hlog, hrun, Option.toList_some]
    constructor
    case detection_eq => exact hdetects.detection_eq.trans h.detection_eq
    case checked_eq => rw [List.getLast?_concat]; exact hdetects.checked_eq
    case shows =>
      rw [List.getLast?_concat]
      intro query tunnels
      rw [env_of_detectionRun? hrun, ← h.detection_eq]
      exact hdetects.proxy_eq query tunnels
    case spaced =>
      exact spaced_concat h.spaced (outdated_of_callsForDetection hcalls hrun)
  · rw [detection?_of_rests hrests, Option.toList_none, List.append_nil]
    constructor
    case detection_eq => exact hrests.detection_eq.trans h.detection_eq
    case checked_eq => exact hrests.checked_eq.trans h.checked_eq
    case shows =>
      have hproxy : (x.step source step).2.2.session.proxy = x.session.proxy := hrests.proxy_eq
      rw [hproxy]
      exact h.shows
    case spaced => exact h.spaced

/-- After any run a session stands where the detections of the run have brought it. -/
theorem standsAt_run (source : CounterSource σ) (settings : Settings) (env : Lookup) (c : σ)
    (steps : List SessionStep) :
    let start : Situation σ := ⟨env, Session.new settings c⟩
    StandsAt settings.detection (start.detections source steps)
      (start.run source steps).session := by
  intro start
  induction steps using List.reverseRecOn with
  | nil => exact ⟨rfl, rfl, rfl, List.isChain_nil⟩
  | append_singleton steps step ih =>
    rw [situation_run_concat, detections_concat]
    exact standsAt_step source ih step

/-- A step of a session that stands where some detections have brought it detects when it should. -/
theorem step_detectsWhenDue (source : CounterSource σ) {d : Detection} {runs : List DetectionRun}
    {x : Situation σ} (h : StandsAt d runs x.session) (step : SessionStep) :
    DetectsWhenDue d x.env runs.getLast? (runs ++ (x.detection? source step).toList).getLast?
      step (x.step source step).1 (x.step source step).2.1 := by
  have hshown : ∀ status, (x.step source step).1.status? = some status →
      ShowsDetection d (runs ++ (x.detection? source step).toList).getLast? status := by
    intro status hstatus
    rw [step_shown source x step hstatus]
    exact (standsAt_step source h step).shows
  have hcases := step_cases source x step
  simp only [h.detection_eq, h.checked_eq] at hcases
  rcases hcases with ⟨hcalls, run, hrun, hdetects⟩ | ⟨hrefuses, hrests⟩
  · obtain ⟨hne, hlog⟩ := detection?_of_detects hdetects
    constructor
    case detects_iff => exact iff_of_true hne hcalls
    case looked_eq => rw [← h.detection_eq]; exact fun _ => hdetects.looked_eq
    case shown => exact hshown
    case fresh =>
      intro time htime
      obtain ⟨-, hat⟩ := callsForDetection_of_upToDateTime? htime 0 none x.env
      rw [hlog, hrun, Option.toList_some, List.getLast?_concat]
      exact ⟨run, rfl, Or.inl (hat run hrun)⟩
  · have hnil : (x.step source step).2.1 = [] := hrests.looked_eq
    constructor
    case detects_iff => exact iff_of_false (not_not_intro hnil) hrefuses
    case looked_eq => exact fun hne => absurd hnil hne
    case shown => exact hshown
    case fresh =>
      -- without a detection the last one, which there must have been, was not outdated
      intro time htime
      obtain ⟨hcalls, -⟩ := callsForDetection_of_upToDateTime? htime d.pollNanoseconds
        (runs.getLast?.map (·.time)) x.env
      rw [hcalls] at hrefuses
      rw [detection?_of_rests hrests, Option.toList_none, List.append_nil]
      cases hlast : runs.getLast? with
      | none => rw [hlast] at hrefuses; exact absurd trivial hrefuses
      | some run =>
        rw [hlast, Option.map_some, Outdated, not_le] at hrefuses
        exact ⟨run, rfl, Or.inr hrefuses⟩

/-- **The status is that of the latest detection, and detections are run when they are due.** After
any run the kept status and its time are those of the latest detection; each step detects when it is
told to or when the latest detection is outdated, and looks nothing up otherwise; what it shows is
the latest status, which is no older than the poll interval once it has been brought up to date; and
unless it was forced a detection is apart from the one before it by the poll interval. -/
theorem status_is_latest_detection (source : CounterSource σ) (settings : Settings) (env : Lookup)
    (c : σ) (steps : List SessionStep) :
    let start : Situation σ := ⟨env, Session.new settings c⟩
    let latest := fun steps => (start.detections source steps).getLast?
    let reached := (start.run source steps).session
    reached.checked = (latest steps).map (·.time) ∧
      ShowsDetection settings.detection (latest steps) reached.proxy ∧
      (∀ earlier step later, steps = earlier ++ step :: later →
        ∃ answer looked after,
          (start.trace source steps)[earlier.length]? = some (answer, looked, after) ∧
          DetectsWhenDue settings.detection (start.run source earlier).env (latest earlier)
            (latest (earlier ++ [step])) step answer looked) ∧
      (start.detections source steps).IsChain (Spaced settings.detection.pollNanoseconds) := by
  intro start latest reached
  have hreached := standsAt_run source settings env c steps
  refine ⟨hreached.checked_eq, hreached.shows, ?_, hreached.spaced⟩
  rintro earlier step later rfl
  let result := (start.run source earlier).step source step
  refine ⟨result.1, result.2.1, result.2.2, situation_trace_at source start earlier step later, ?_⟩
  simp only [latest, detections_concat]
  exact step_detectsWhenDue source (standsAt_run source settings env c earlier) step

/-- Under a clock that went back the first status is shown again, although its variable is gone;
nothing is looked up. -/
theorem status_kept_under_clock_gone_back :
    let set : Lookup := fun name => if name = "http_proxy" then some "10.0.0.8:3128" else none
    let start : Situation Script := ⟨set, Session.new {} ⟨[], [], []⟩⟩
    let earlier : List SessionStep := [.proxyStatus 9000000000, .environment fun _ => none]
    let step : SessionStep := .proxyStatus 3000000000
    ∃ answer after,
      (start.trace scriptSource (earlier ++ [step]))[2]? = some (answer, [], after) ∧
        ∀ status, answer.status? = some status →
          status = .found .http "10.0.0.8:3128" := by
  intro set start earlier step
  obtain ⟨-, -, hsteps, -⟩ :=
    status_is_latest_detection scriptSource {} set ⟨[], [], []⟩ (earlier ++ [step])
  obtain ⟨answer, looked, after, hentry, hdue⟩ := hsteps earlier step [] rfl
  let first : DetectionRun := ⟨9000000000, set, false⟩
  have hkept : DetectsWhenDue {} (fun _ => none) (some first) (some first) step answer looked :=
    hdue
  have hrefuses : ¬ 5000000000 ≤ 3000000000 - 9000000000 := by decide
  have hnone : looked = [] := by
    by_contra hne
    exact hrefuses (hkept.detects_iff.1 hne)
  subst hnone
  exact ⟨answer, after, hentry, fun status hstatus => hkept.shown status hstatus none none⟩

end LinkWatch
