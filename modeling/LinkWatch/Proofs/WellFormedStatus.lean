import LinkWatch.Proofs.StatusAge

/-!
# Every status is well formed

A stage of the cascade that has an answer names a proxy of one of its own kinds, with a host or with
what stands for one; without an answer there is exactly the disabled status. No stage can answer
with a status in between, and so none ever stands in a session.
-/

namespace LinkWatch.Proxy

open LinkWatch.Text LinkWatch.Traffic

/-! ## What a status should be -/

/-- A status names a proxy of one of some kinds, and a host. -/
structure Names (kinds : List Kind) (s : Status) : Prop where
  enabled : s.enabled = true
  kind : s.kind ∈ kinds
  host : s.host ≠ ""

/-- There is no proxy, or there is one of a proper kind with a host. -/
def WellFormed (s : Status) : Prop :=
  s = .disabled ∨ s.enabled = true ∧ s.kind ≠ .absent ∧ s.host ≠ ""

/-- The kinds that a variable can name. -/
def variableKinds : List Kind :=
  [.socks, .http]

/-- The kinds that a dictionary can name. -/
def dictionaryKinds : List Kind :=
  [.socks, .https, .http, .pac, .wpad]

/-- The kinds that tunnels can name. -/
def tunnelKinds : List Kind :=
  [.tun]

/-- A status that names a kind and a host is well formed. -/
theorem wellFormed_of_names {kinds : List Kind} (hkinds : .absent ∉ kinds) {s : Status}
    (h : Names kinds s) : WellFormed s :=
  Or.inr ⟨h.enabled, fun hkind => hkinds (hkind ▸ h.kind), h.host⟩

/-- The text of a well formed status is `none` exactly when there is no proxy. -/
theorem display_eq_none_iff {s : Status} (h : WellFormed s) :
    s.display = "none" ↔ s = .disabled := by
  rcases h with rfl | ⟨henabled, -, -⟩
  · exact iff_of_true rfl rfl
  · refine iff_of_false ?_ ?_
    · -- the text of a proxy has a blank between kind and host
      have hdisplay : s.display = s.kind.name ++ " " ++ s.host := by
        rw [Status.display, if_pos henabled]
      have hblank : ' ' ∈ s.display.toList := by
        rw [hdisplay]
        simp [String.toList_append]
      intro htext
      rw [htext] at hblank
      exact absurd hblank (by decide)
    · rintro rfl
      cases henabled

/-! ## The stages -/

theorem ofList_ne_empty {cs : List Char} (h : cs ≠ []) : String.ofList cs ≠ "" := by
  simpa using h

/-- A host or its placeholder is not empty. -/
theorem hostOr_ne_empty {fallback : String} (h : fallback ≠ "") (host : List Char) :
    hostOr fallback host ≠ "" := by
  rw [hostOr]
  split
  case isTrue => exact h
  case isFalse hhost => exact ofList_ne_empty hhost

/-- A value that is not blank names a proxy. -/
theorem names_of_statusOfValue? {value : String} {status : Status}
    (h : statusOfValue? value = some status) : Names variableKinds status := by
  simp only [statusOfValue?] at h
  split at h
  case isTrue => cases h
  case isFalse htext =>
    cases h
    constructor
    case enabled => rfl
    case kind =>
      simp only [Status.found]
      split
      · exact List.mem_cons_self
      · exact List.mem_cons_of_mem _ List.mem_cons_self
    case host =>
      apply ofList_ne_empty
      split
      case isTrue => exact htext
      case isFalse hhost => exact hhost

/-- A variable tells a kind that can be set by one, and a host. -/
theorem names_of_fromVariables {lookup : Lookup} {status : Status}
    (h : (fromVariables lookup).status = some status) : Names variableKinds status := by
  rw [fromVariables, searchVariables_status] at h
  obtain ⟨name, -, hname⟩ := Option.bind_eq_some_iff.1 h
  obtain ⟨value, -, hvalue⟩ := Option.bind_eq_some_iff.1 hname
  exact names_of_statusOfValue? hvalue

/-- An entry of the dictionary that is on names a proxy of its kind. -/
theorem names_of_entry {on : Prop} [Decidable on] {kind : Kind} {host : String} {status : Status}
    (hkind : kind ∈ dictionaryKinds) (hhost : host ≠ "")
    (h : (if on then some (Status.found kind host) else none) = some status) :
    Names dictionaryKinds status := by
  split at h
  · cases h
    exact ⟨rfl, hkind, hhost⟩
  · cases h

theorem names_of_fromDictionary {text : String} {status : Status}
    (h : fromDictionary text = some status) : Names dictionaryKinds status := by
  rw [fromDictionary, dictionaryStatus?] at h
  split at h
  · cases h
  · rw [Option.or_eq_some_iff, Option.or_eq_some_iff] at h
    rcases h with hmanual | ⟨-, hscript | ⟨-, hdiscovery⟩⟩
    · obtain ⟨keys, hmem, hkeys⟩ := List.exists_of_findSome?_eq_some hmanual
      have hkind : ∀ keys ∈ manualKeys, keys.kind ∈ dictionaryKinds := by decide
      exact names_of_entry (hkind keys hmem) (hostOr_ne_empty (by decide) _) hkeys
    · exact names_of_entry (by decide) (hostOr_ne_empty (by decide) _) hscript
    · exact names_of_entry (by decide) (by decide) hdiscovery

/-- A tunnel has a name, since that begins like one. -/
theorem ne_empty_of_mem_activeTunnels {reading : Reading} {name : String}
    (h : name ∈ activeTunnels reading) : name ≠ "" := by
  rw [activeTunnels, List.mem_mergeSort, List.mem_map] at h
  obtain ⟨row, hrow, rfl⟩ := h
  have hactive := (List.mem_filter.1 hrow).2
  intro hempty
  rw [isActiveTunnel, hempty] at hactive
  have hnone : isTunnelName "" = false := by decide
  rw [hnone] at hactive
  cases hactive

theorem names_of_fromTunnels {reading : Reading} {status : Status}
    (h : fromTunnels reading = some status) : Names tunnelKinds status := by
  rw [fromTunnels] at h
  split at h
  case h_1 => cases h
  case h_2 name hnames =>
    cases h
    have hmem : name ∈ activeTunnels reading := by simp [hnames]
    exact ⟨rfl, List.mem_cons_self, ne_empty_of_mem_activeTunnels hmem⟩
  case h_3 name _ _ hnames =>
    cases h
    have hplus : name ++ "+" ≠ "" := by simp
    exact ⟨rfl, List.mem_cons_self, hplus⟩

/-! ## The cascade -/

/-- A status of a cascade over some sources is well formed, names a proxy of the kinds of the stage
that answers, and its text is `none` only where there is no proxy. -/
structure AnswersWell (s : Sources) (gate : Bool) (status : Status) : Prop where
  wellFormed : WellFormed status
  of_variable : (∃ name ∈ variableNames, hasValue s.lookup name = true) →
    Names variableKinds status
  of_dictionary : (∀ name ∈ variableNames, hasValue s.lookup name = false) → gate = true →
    (s.query.bind fromDictionary).isSome = true → Names dictionaryKinds status
  of_tunnels : (∀ name ∈ variableNames, hasValue s.lookup name = false) → gate = true →
    s.query.bind fromDictionary = none → (s.tunnels.bind fromTunnels).isSome = true →
    Names tunnelKinds status
  display_iff : status.display = "none" ↔ status = .disabled

/-- The cascade gives a status that is well formed. -/
theorem resolve_wellFormed (s : Sources) (gate : Bool) : WellFormed (resolve s gate).status := by
  rcases resolve_cases s gate with ⟨status, henv, h⟩ |
    ⟨-, ⟨-, h⟩ | ⟨-, ⟨status, hdictionary, h⟩ | ⟨-, h⟩⟩⟩
  · rw [h]
    exact wellFormed_of_names (by decide) (names_of_fromVariables henv)
  · rw [h]
    exact Or.inl rfl
  · rw [h]
    obtain ⟨text, -, htext⟩ := Option.bind_eq_some_iff.1 hdictionary
    exact wellFormed_of_names (by decide) (names_of_fromDictionary htext)
  · rw [h]
    cases htunnel : s.tunnels.bind fromTunnels with
    | none => exact Or.inl rfl
    | some status =>
      obtain ⟨reading, -, hreading⟩ := Option.bind_eq_some_iff.1 htunnel
      exact wellFormed_of_names (by decide) (names_of_fromTunnels hreading)

/-- The status of the cascade is of a kind of the stage that answered. -/
theorem resolve_answersWell (s : Sources) (gate : Bool) :
    AnswersWell s gate (resolve s gate).status := by
  have hsilent : (∀ name ∈ variableNames, hasValue s.lookup name = false) →
      (fromVariables s.lookup).status = none := (searchVariables_eq_none_iff _ _).2
  constructor
  case wellFormed => exact resolve_wellFormed s gate
  case display_iff => exact display_eq_none_iff (resolve_wellFormed s gate)
  case of_variable =>
    rintro ⟨name, hmem, hvalue⟩
    rcases resolve_cases s gate with ⟨status, henv, h⟩ | ⟨hnone, -⟩
    · rw [h]
      exact names_of_fromVariables henv
    · have hfalse := (searchVariables_eq_none_iff _ _).1 hnone name hmem
      rw [hvalue] at hfalse
      cases hfalse
  case of_dictionary =>
    intro hnames hgate hsome
    obtain ⟨status, hstatus⟩ := Option.isSome_iff_exists.1 hsome
    obtain ⟨text, -, htext⟩ := Option.bind_eq_some_iff.1 hstatus
    simp only [resolve, hsilent hnames, hgate, if_true, hstatus]
    exact names_of_fromDictionary htext
  case of_tunnels =>
    intro hnames hgate hdictionary hsome
    obtain ⟨status, hstatus⟩ := Option.isSome_iff_exists.1 hsome
    obtain ⟨reading, -, hreading⟩ := Option.bind_eq_some_iff.1 hstatus
    simp only [resolve, hsilent hnames, hgate, if_true, hdictionary, hstatus, Option.getD_some]
    exact names_of_fromTunnels hreading

end LinkWatch.Proxy

namespace LinkWatch

open LinkWatch.Proxy LinkWatch.Traffic

/-! ## Sessions -/

/-- The status that a detection leaves is well formed. -/
theorem wellFormed_of_showsDetection {d : Detection} {last : Option DetectionRun} {status : Status}
    (h : ShowsDetection d last status) : WellFormed status := by
  cases last with
  | none => exact Or.inl h
  | some run =>
    rw [h none none]
    exact resolve_wellFormed _ _

/-- Every answer in a trace is the answer to one of its steps. -/
theorem exists_of_mem_trace {σ : Type} (source : CounterSource σ) {x : Situation σ}
    {steps : List SessionStep} {entry : SessionAnswer × List String × Situation σ}
    (h : entry ∈ x.trace source steps) :
    ∃ earlier step later, steps = earlier ++ step :: later ∧
      entry = (x.run source earlier).step source step := by
  induction steps generalizing x with
  | nil => cases h
  | cons step steps ih =>
    rw [Situation.trace, List.mem_cons] at h
    rcases h with rfl | h
    · exact ⟨[], step, steps, rfl, rfl⟩
    · obtain ⟨earlier, next, later, rfl, hentry⟩ := ih h
      exact ⟨step :: earlier, next, later, rfl, hentry⟩

/-- **Every status is well formed.** The cascade gives either exactly the disabled status or a proxy
of a kind that the answering stage can name, with a host. So has a session after any run, and so has
every answer that it gave on the way; its text is `none` exactly when there is no proxy. -/
theorem statuses_are_wellFormed {σ : Type} (source : CounterSource σ) (settings : Settings)
    (env : Lookup) (c : σ) (steps : List SessionStep) :
    let start : Situation σ := ⟨env, Session.new settings c⟩
    let reached := (start.run source steps).session
    (∀ s gate, AnswersWell s gate (resolve s gate).status) ∧
      WellFormed reached.proxy ∧ (reached.proxy.display = "none" ↔ reached.proxy = .disabled) ∧
      ∀ entry ∈ start.trace source steps, ∀ status, entry.1.status? = some status →
        WellFormed status ∧ (status.display = "none" ↔ status = .disabled) := by
  intro start reached
  have hkept (steps : List SessionStep) : WellFormed (start.run source steps).session.proxy :=
    wellFormed_of_showsDetection (standsAt_run source settings env c steps).shows
  refine ⟨resolve_answersWell, hkept steps, display_eq_none_iff (hkept steps), ?_⟩
  intro entry hentry status hstatus
  obtain ⟨earlier, step, later, -, rfl⟩ := exists_of_mem_trace source hentry
  have hproxy := step_shown source (start.run source earlier) step hstatus
  rw [← situation_run_concat] at hproxy
  have hwell : WellFormed status := hproxy ▸ hkept (earlier ++ [step])
  exact ⟨hwell, display_eq_none_iff hwell⟩

/-- A dictionary in which a proxy is on without a host names one all the same, with what stands for
the host; the tunnels are not asked any more. -/
theorem dictionary_names_proxy_without_host :
    let s : Sources :=
      ⟨fun _ => none, some "SOCKSEnable : 1\nSOCKSProxy :", some [⟨"utun3", 1, 1⟩]⟩
    (∀ name ∈ variableNames, hasValue s.lookup name = false) ∧
      (s.query.bind fromDictionary).isSome = true ∧
      Names dictionaryKinds (resolve s true).status ∧
      (resolve s true).status.display ≠ "none" := by
  intro s
  have hnames : ∀ name ∈ variableNames, hasValue s.lookup name = false := by decide
  have hdictionary : (s.query.bind fromDictionary).isSome = true := by decide
  obtain ⟨hanswers, -⟩ :=
    statuses_are_wellFormed scriptSource {} (fun _ => none) ⟨[], [], []⟩ []
  have hstatus := (hanswers s true).of_dictionary hnames rfl hdictionary
  refine ⟨hnames, hdictionary, hstatus, ?_⟩
  rw [Ne, (hanswers s true).display_iff]
  intro hdisabled
  have henabled := hstatus.enabled
  rw [hdisabled] at henabled
  cases henabled

end LinkWatch
