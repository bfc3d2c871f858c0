import LinkWatch.Proxy.Cascade

/-!
# The order of the cascade

The cascade gives the answer of the first stage that has one, and asks no further than that: the
names looked up end with the first variable that has a value, the dictionary is queried only when
no variable has one, and the tunnels are read only when the dictionary had nothing to say either.
What was not asked cannot change the outcome.
-/

namespace LinkWatch.Proxy

open LinkWatch.Text LinkWatch.Traffic

/-! ## Variables -/

/-- Whether a variable is set to a value that is not blank. -/
def hasValue (lookup : Lookup) (name : String) : Bool :=
  (lookup name).any fun value => trim value.toList ≠ []

/-- A variable decides exactly when it has a value. -/
theorem decides_iff (lookup : Lookup) (name : String) :
    ((lookup name).bind statusOfValue?).isSome = hasValue lookup name := by
  unfold hasValue
  cases lookup name with
  | none => rfl
  | some value =>
    have hnone := statusOfValue?_eq_none_iff value
    cases hvalue : statusOfValue? value with
    | none => simp [hvalue, hnone.1 hvalue]
    | some status =>
      have htrim : trim value.toList ≠ [] := fun h => by simp [hnone.2 h] at hvalue
      simp [hvalue, htrim]

/-- A name without a value is passed over. -/
theorem searchVariables_cons_of_not (lookup : Lookup) {name : String} (names : List String)
    (hname : hasValue lookup name = false) :
    searchVariables lookup (name :: names) =
      ⟨(searchVariables lookup names).status, name :: (searchVariables lookup names).looked⟩ := by
  have hnone : (lookup name).bind statusOfValue? = none := by
    rw [← Option.not_isSome_iff_eq_none, decides_iff, hname]
    exact Bool.false_ne_true
  rw [searchVariables, hnone]

/-- A name with a value ends the search. -/
theorem searchVariables_cons_of_hasValue (lookup : Lookup) {name : String} (names : List String)
    (hname : hasValue lookup name = true) :
    searchVariables lookup (name :: names) = ⟨(lookup name).bind statusOfValue?, [name]⟩ := by
  obtain ⟨status, hstatus⟩ := Option.isSome_iff_exists.1 ((decides_iff lookup name).trans hname)
  rw [searchVariables, hstatus]

/-- The first name with a value gives the status. -/
theorem searchVariables_status (lookup : Lookup) (names : List String) :
    (searchVariables lookup names).status =
      (names.find? (hasValue lookup)).bind fun name => (lookup name).bind statusOfValue? := by
  induction names with
  | nil => rfl
  | cons name names ih =>
    cases hname : hasValue lookup name with
    | false => rw [searchVariables_cons_of_not lookup names hname, ih, List.find?_cons, hname]
    | true => rw [searchVariables_cons_of_hasValue lookup names hname, List.find?_cons, hname]; rfl

/-- The names looked up reach as far as the first one with a value. -/
theorem searchVariables_looked (lookup : Lookup) (names : List String) :
    (searchVariables lookup names).looked =
      names.take (names.findIdx (hasValue lookup) + 1) := by
  induction names with
  | nil => rfl
  | cons name names ih =>
    rw [List.take_succ_cons, List.findIdx_cons]
    cases hname : hasValue lookup name with
    | false => rw [searchVariables_cons_of_not lookup names hname, ih, cond_false]
    | true => rw [searchVariables_cons_of_hasValue lookup names hname, cond_true, List.take_zero]

/-- A status is found if and only if some name has a value. -/
theorem searchVariables_eq_none_iff (lookup : Lookup) (names : List String) :
    (searchVariables lookup names).status = none ↔
      ∀ name ∈ names, hasValue lookup name = false := by
  induction names with
  | nil => simp [searchVariables]
  | cons name names ih =>
    cases hname : hasValue lookup name with
    | false => rw [searchVariables_cons_of_not lookup names hname, ih]; simp [hname]
    | true =>
      rw [searchVariables_cons_of_hasValue lookup names hname]
      have hsome := (decides_iff lookup name).trans hname
      simp [hname, Option.isSome_iff_ne_none.1 hsome]

/-- Only the names that were looked up matter to a search. -/
theorem searchVariables_congr {lookup other : Lookup} {names : List String}
    (h : ∀ name ∈ (searchVariables lookup names).looked, other name = lookup name) :
    searchVariables other names = searchVariables lookup names := by
  induction names with
  | nil => rfl
  | cons name names ih =>
    -- the head is always looked up, so both searches take the same way there
    have hhead : other name = lookup name := by
      apply h
      rw [searchVariables_looked, List.take_succ_cons]
      exact List.mem_cons_self
    have hsame : hasValue other name = hasValue lookup name := by
      rw [hasValue, hasValue, hhead]
    cases hname : hasValue lookup name with
    | false =>
      rw [searchVariables_cons_of_not lookup names hname] at h ⊢
      rw [searchVariables_cons_of_not other names (hsame.trans hname),
        ih fun n hn => h n (List.mem_cons_of_mem name hn)]
    | true =>
      rw [searchVariables_cons_of_hasValue lookup names hname,
        searchVariables_cons_of_hasValue other names (hsame.trans hname), hhead]

/-! ## Answers are found proxies -/

/-- What a variable tells is never the disabled status. -/
theorem enabled_of_statusOfValue? {value : String} {status : Status}
    (h : statusOfValue? value = some status) : status.enabled = true := by
  simp only [statusOfValue?] at h
  split at h
  · cases h
  · cases h
    rfl

/-- An entry of the dictionary answers only when it is on, and then with a proxy. -/
theorem enabled_of_entry {on : Prop} [Decidable on] {kind : Kind} {host : String} {status : Status}
    (h : (if on then some (Status.found kind host) else none) = some status) :
    status.enabled = true := by
  split at h
  · cases h
    rfl
  · cases h

theorem enabled_of_fromDictionary {text : String} {status : Status}
    (h : fromDictionary text = some status) : status.enabled = true := by
  unfold fromDictionary dictionaryStatus? at h
  split at h
  · cases h
  · rw [Option.or_eq_some_iff, Option.or_eq_some_iff] at h
    rcases h with hmanual | ⟨-, hscript | ⟨-, hdiscovery⟩⟩
    · obtain ⟨keys, -, hkeys⟩ := List.exists_of_findSome?_eq_some hmanual
      exact enabled_of_entry hkeys
    · exact enabled_of_entry hscript
    · exact enabled_of_entry hdiscovery

theorem enabled_of_fromTunnels {reading : Reading} {status : Status}
    (h : fromTunnels reading = some status) : status.enabled = true := by
  unfold fromTunnels at h
  split at h
  · cases h
  · cases h
    rfl
  · cases h
    rfl

/-! ## Stages -/

/-- What the stages answer, in the order of the cascade: the first variable with a value, the
dictionary and the tunnels. A shut gate keeps the last two silent. -/
def stageAnswers (s : Sources) (gate : Bool) : List (Option Status) :=
  [(variableNames.find? (hasValue s.lookup)).bind fun name => (s.lookup name).bind statusOfValue?,
    if gate then s.query.bind fromDictionary else none,
    if gate then s.tunnels.bind fromTunnels else none]

/-- The ways in which the cascade can end, each with its condition. -/
theorem resolve_cases (s : Sources) (gate : Bool) :
    (∃ status, (fromVariables s.lookup).status = some status ∧
      resolve s gate = ⟨status, (fromVariables s.lookup).looked, false, false⟩) ∨
    (fromVariables s.lookup).status = none ∧
      (gate = false ∧
        resolve s gate = ⟨.disabled, (fromVariables s.lookup).looked, false, false⟩ ∨
      gate = true ∧
        ((∃ status, s.query.bind fromDictionary = some status ∧
          resolve s gate = ⟨status, (fromVariables s.lookup).looked, true, false⟩) ∨
        s.query.bind fromDictionary = none ∧
          resolve s gate = ⟨(s.tunnels.bind fromTunnels).getD .disabled,
            (fromVariables s.lookup).looked, true, true⟩)) := by
  cases henv : (fromVariables s.lookup).status with
  | some status => exact Or.inl ⟨status, rfl, by simp only [resolve, henv]⟩
  | none =>
    refine Or.inr ⟨rfl, ?_⟩
    cases gate with
    | false => exact Or.inl ⟨rfl, by simp [resolve, henv]⟩
    | true =>
      refine Or.inr ⟨rfl, ?_⟩
      cases hdictionary : s.query.bind fromDictionary with
      | some status => exact Or.inl ⟨status, rfl, by simp [resolve, henv, hdictionary]⟩
      | none => exact Or.inr ⟨rfl, by simp [resolve, henv, hdictionary]⟩

/-- Every stage that answers names a proxy. -/
theorem enabled_of_mem_stageAnswers {s : Sources} {gate : Bool} {status : Status}
    (h : some status ∈ stageAnswers s gate) : status.enabled = true := by
  simp only [stageAnswers, List.mem_cons, List.not_mem_nil, or_false] at h
  rcases h with hvariable | hdictionary | htunnel
  · obtain ⟨name, -, hname⟩ := Option.bind_eq_some_iff.1 hvariable.symm
    obtain ⟨value, -, hvalue⟩ := Option.bind_eq_some_iff.1 hname
    exact enabled_of_statusOfValue? hvalue
  · split at hdictionary
    · obtain ⟨text, -, htext⟩ := Option.bind_eq_some_iff.1 hdictionary.symm
      exact enabled_of_fromDictionary htext
    · cases hdictionary
  · split at htunnel
    · obtain ⟨reading, -, hreading⟩ := Option.bind_eq_some_iff.1 htunnel.symm
      exact enabled_of_fromTunnels hreading
    · cases htunnel

/-- The answers of the stages, with the gate applied to the two that ask the system. -/
theorem stageAnswers_eq (s : Sources) (gate : Bool) :
    stageAnswers s gate = [(fromVariables s.lookup).status,
      if gate then s.query.bind fromDictionary else none,
      if gate then s.tunnels.bind fromTunnels else none] := by
  rw [stageAnswers, fromVariables, searchVariables_status]

/-- The status is the whole answer of the first stage that has one. -/
theorem resolve_status (s : Sources) (gate : Bool) :
    (resolve s gate).status = ((stageAnswers s gate).findSome? id).getD .disabled := by
  rw [stageAnswers_eq]
  rcases resolve_cases s gate with ⟨status, henv, h⟩ |
    ⟨henv, ⟨rfl, h⟩ | ⟨rfl, ⟨status, hdictionary, h⟩ | ⟨hdictionary, h⟩⟩⟩
  · simp [h, henv]
  · simp [h, henv]
  · simp [h, henv, hdictionary]
  · cases htunnel : s.tunnels.bind fromTunnels <;> simp [h, henv, hdictionary, htunnel]

/-- The cascade looks up just the variables that its first stage does. -/
theorem resolve_looked (s : Sources) (gate : Bool) :
    (resolve s gate).looked = (fromVariables s.lookup).looked := by
  rcases resolve_cases s gate with ⟨_, -, h⟩ | ⟨-, ⟨-, h⟩ | ⟨-, ⟨_, -, h⟩ | ⟨-, h⟩⟩⟩ <;> rw [h]

/-- There is no proxy exactly when no stage has an answer. -/
theorem resolve_status_eq_disabled_iff (s : Sources) (gate : Bool) :
    (resolve s gate).status = .disabled ↔ ∀ answer ∈ stageAnswers s gate, answer = none := by
  rw [resolve_status]
  cases hfirst : (stageAnswers s gate).findSome? id with
  | none =>
    rw [List.findSome?_eq_none_iff] at hfirst
    simpa using hfirst
  | some status =>
    obtain ⟨answer, hmem, hanswer⟩ := List.exists_of_findSome?_eq_some hfirst
    obtain rfl : answer = some status := hanswer
    -- an answer names a proxy, so it is not mistaken for there being none
    have hne : status ≠ .disabled := by
      rintro rfl
      exact absurd (enabled_of_mem_stageAnswers hmem) Bool.false_ne_true
    simp only [Option.getD_some, hne, false_iff]
    exact fun hall => Option.some_ne_none _ (hall _ hmem)

/-! ## Questions -/

/-- The dictionary is queried when the gate is open and no variable has a value. -/
theorem resolve_queried_iff (s : Sources) (gate : Bool) :
    (resolve s gate).queried = true ↔
      gate = true ∧ ∀ name ∈ variableNames, hasValue s.lookup name = false := by
  rw [← searchVariables_eq_none_iff, ← fromVariables]
  rcases resolve_cases s gate with ⟨_, henv, h⟩ |
    ⟨henv, ⟨rfl, h⟩ | ⟨rfl, ⟨_, -, h⟩ | ⟨-, h⟩⟩⟩ <;> simp [h, henv]

/-- The tunnels are read when the dictionary was queried and had nothing to say. -/
theorem resolve_tunnelsRead_iff (s : Sources) (gate : Bool) :
    (resolve s gate).tunnelsRead = true ↔
      (resolve s gate).queried = true ∧ ∀ text, s.query = some text → fromDictionary text = none := by
  rw [← Option.bind_eq_none_iff]
  rcases resolve_cases s gate with ⟨_, -, h⟩ |
    ⟨-, ⟨-, h⟩ | ⟨-, ⟨_, hdictionary, h⟩ | ⟨hdictionary, h⟩⟩⟩ <;> simp [*]

/-- Sources that agree on what was asked have the same outcome. -/
theorem resolve_congr {s other : Sources} {gate : Bool}
    (hlooked : ∀ name ∈ (resolve s gate).looked, other.lookup name = s.lookup name)
    (hquery : (resolve s gate).queried = true → other.query = s.query)
    (htunnels : (resolve s gate).tunnelsRead = true → other.tunnels = s.tunnels) :
    resolve other gate = resolve s gate := by
  rw [resolve_looked] at hlooked
  have hvariables : fromVariables other.lookup = fromVariables s.lookup :=
    searchVariables_congr hlooked
  rcases resolve_cases s gate with ⟨_, henv, h⟩ |
    ⟨henv, ⟨rfl, h⟩ | ⟨rfl, ⟨_, hdictionary, h⟩ | ⟨hdictionary, h⟩⟩⟩
  · simp only [resolve, hvariables, henv]
  · simp [resolve, hvariables, henv]
  · have hq := hquery (by rw [h])
    simp [resolve, hvariables, henv, hq, hdictionary]
  · have hq := hquery (by rw [h])
    have ht := htunnels (by rw [h])
    simp [resolve, hvariables, henv, hq, ht, hdictionary]

/-- An outcome is what the stages give in their order, together with a true account of what was
asked: the names looked up are those up to the first with a value, each of them once, and whatever
was not asked has no part in the outcome. -/
structure AsksInOrder (s : Sources) (gate : Bool) (o : Outcome) : Prop where
  status_eq : o.status = ((stageAnswers s gate).findSome? id).getD .disabled
  disabled_iff : o.status = .disabled ↔ ∀ answer ∈ stageAnswers s gate, answer = none
  looked_eq : o.looked = variableNames.take (variableNames.findIdx (hasValue s.lookup) + 1)
  looked_nodup : o.looked.Nodup
  queried_iff : o.queried = true ↔
    gate = true ∧ ∀ name ∈ variableNames, hasValue s.lookup name = false
  tunnelsRead_iff : o.tunnelsRead = true ↔
    o.queried = true ∧ ∀ text, s.query = some text → fromDictionary text = none
  settled : ∀ other : Sources,
    (∀ name ∈ o.looked, other.lookup name = s.lookup name) →
    (o.queried = true → other.query = s.query) →
    (o.tunnelsRead = true → other.tunnels = s.tunnels) →
    resolve other gate = o

/-- **The cascade asks in order.** Its outcome is the whole answer of the first stage that has one,
and nothing is asked after it. -/
theorem resolve_asksInOrder (s : Sources) (gate : Bool) : AsksInOrder s gate (resolve s gate) where
  status_eq := resolve_status s gate
  disabled_iff := resolve_status_eq_disabled_iff s gate
  looked_eq := by rw [resolve_looked, fromVariables, searchVariables_looked]
  looked_nodup := by
    rw [resolve_looked, fromVariables, searchVariables_looked]
    have hnames : variableNames.Nodup := by decide
    exact hnames.sublist (List.take_sublist _ _)
  queried_iff := resolve_queried_iff s gate
  tunnelsRead_iff := resolve_tunnelsRead_iff s gate
  settled := fun _ hlooked hquery htunnels => resolve_congr hlooked hquery htunnels

/-- A blank variable is passed over, the next one with a value decides, and what comes after it
may be anything. -/
theorem outcome_settled_by_second_variable :
    let s : Sources := ⟨fun name =>
      if name = "https_proxy" then some " "
      else if name = "http_proxy" then some "10.0.0.8:3128"
      else none, none, none⟩
    let other : Sources := ⟨fun name =>
      if name = "all_proxy" then some "socks5://10.0.0.9:1080" else s.lookup name,
      some "HTTPEnable : 1", some [⟨"utun3", 1, 1⟩]⟩
    (resolve s true).looked = ["https_proxy", "HTTPS_PROXY", "http_proxy"] ∧
      resolve other true = resolve s true := by
  intro s other
  have hasks := resolve_asksInOrder s true
  have hlooked : (resolve s true).looked = ["https_proxy", "HTTPS_PROXY", "http_proxy"] :=
    hasks.looked_eq.trans (by decide)
  have hvalue : hasValue s.lookup "http_proxy" = true := by decide
  have hqueried : (resolve s true).queried ≠ true := by
    rw [Ne, hasks.queried_iff]
    exact fun h => by simp [h.2 "http_proxy" (by decide)] at hvalue
  refine ⟨hlooked, hasks.settled other ?_ (fun h => absurd h hqueried) ?_⟩
  · rw [hlooked]
    decide
  · exact fun h => absurd (hasks.tunnelsRead_iff.1 h).1 hqueried

end LinkWatch.Proxy
