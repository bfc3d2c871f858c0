import LinkWatch.Proofs.AddressGrammar
import LinkWatch.Proofs.CascadeOrder

/-!
# User information in proxy variables

The host that is read from an address is the same with and without user information, and so is the
kind of the proxy. The user information of a variable therefore shows only where no host can be
read, since then the value is shown as it is.
-/

namespace LinkWatch.Text

/-! ## The start of the lower-case form -/

/-- Whether a text starts with `start` is settled by the known first part of the text and by the
ends of `start` that are found behind it. -/
theorem isPrefixOf_append_congr {start rest other : List Char} (first : List Char)
    (h : ∀ part, part <:+ start → part.isPrefixOf rest = part.isPrefixOf other) :
    start.isPrefixOf (first ++ rest) = start.isPrefixOf (first ++ other) := by
  induction first generalizing start with
  | nil => exact h start (List.suffix_refl start)
  | cons c first ih =>
    cases start with
    | nil => rfl
    | cons x start =>
      have hpart := ih fun part hpart => h part (hpart.trans (List.suffix_cons x start))
      rw [List.cons_append, List.cons_append, List.isPrefixOf_cons_cons, List.isPrefixOf_cons_cons,
        hpart]

theorem sigmaBetween_eq_or (before after : List Char) :
    sigmaBetween before after = 'ς' ∨ sigmaBetween before after = 'σ' := by
  rw [sigmaBetween]
  split
  · exact .inl rfl
  · exact .inr rfl

/-- A text whose first character is not in a start does not begin with it. -/
theorem isPrefixOf_cons_of_not_mem {start : List Char} (hne : start ≠ []) {c : Char}
    (hc : c ∉ start) (text : List Char) : start.isPrefixOf (c :: text) = false := by
  cases start with
  | nil => exact absurd rfl hne
  | cons x start =>
    have hx : (x == c) = false := beq_eq_false_iff_ne.2 (Ne.symm (List.ne_of_not_mem_cons hc))
    rw [List.isPrefixOf_cons_cons, hx, Bool.false_and]

/-- Whether the lower-case form of a text starts with `start` is settled by what stands before a
colon. The form of a sigma depends on what follows, but it is never what is looked for. -/
theorem isPrefixOf_lowerAfter_append_colon {start : List Char} (hcolon : ':' ∉ start)
    (hfinal : 'ς' ∉ start) (hsigma : 'σ' ∉ start) (text rest before : List Char) :
    start.isPrefixOf (lowerAfter before (text ++ ':' :: rest)) =
      start.isPrefixOf (lowerAfter before text) := by
  by_cases hne : start = []
  · rw [hne, List.isPrefixOf_nil_left, List.isPrefixOf_nil_left]
  induction text generalizing start before with
  | nil =>
    have hform : lowerAfter before (':' :: rest) = ':' :: lowerAfter (':' :: before) rest := rfl
    have hnil : start.isPrefixOf (lowerAfter before []) = false := by
      rw [lowerAfter, Bool.eq_false_iff, Ne, List.isPrefixOf_iff_prefix, List.prefix_nil]
      exact hne
    rw [List.nil_append, hform, isPrefixOf_cons_of_not_mem hne hcolon, hnil]
  | cons c text ih =>
    rw [List.cons_append, lowerAfter, lowerAfter]
    by_cases hc : c = 'Σ'
    · -- its form may differ between the two texts, but both forms differ from the start
      have hnot : ∀ after, sigmaBetween before after ∉ start := fun after => by
        rcases sigmaBetween_eq_or before after with h | h <;> rwa [h]
      simp only [if_pos hc, List.singleton_append, isPrefixOf_cons_of_not_mem hne (hnot _)]
    · simp only [if_neg hc]
      refine isPrefixOf_append_congr _ fun part hpart => ?_
      by_cases hnil : part = []
      · rw [hnil, List.isPrefixOf_nil_left, List.isPrefixOf_nil_left]
      · exact ih (fun h => hcolon (hpart.mem h)) (fun h => hfinal (hpart.mem h))
          (fun h => hsigma (hpart.mem h)) (c :: before) hnil

end LinkWatch.Text

namespace LinkWatch.Proxy

open LinkWatch.Text

/-! ## Addresses with user information -/

/-- An address whose authority begins with user information. -/
def addressFor (scheme user rest : List Char) : List Char :=
  scheme ++ schemeEnd ++ (user ++ '@' :: rest)

/-- The user up to a further mark does not matter for what follows the last one. -/
theorem withoutUser_append (user authority : List Char) :
    withoutUser (user ++ '@' :: authority) = withoutUser authority := by
  rw [withoutUser, afterLast?_append_mark, Option.getD_some, withoutUser]

/-- Behind a mark that comes early, the authority ends before the user information. -/
theorem hostPart?_of_marked {scheme : List Char} (h : schemeEnd <:+: scheme)
    (rest other : List Char) :
    hostPart? (scheme ++ schemeEnd ++ rest) = hostPart? (scheme ++ schemeEnd ++ other) := by
  have hfound : cut? schemeEnd scheme ≠ none := fun hnone =>
    (cut?_eq_none_iff (by simp [schemeEnd])).1 hnone h
  obtain ⟨⟨name, early⟩, hcut⟩ := Option.ne_none_iff_exists'.1 hfound
  have hcut' : ∀ rest, cut? schemeEnd (scheme ++ schemeEnd ++ rest) =
      some (name, (early ++ [':']) ++ '/' :: '/' :: rest) := fun rest => by
    rw [List.append_assoc, cut?_append_of_some hcut]
    simp [schemeEnd]
  have hauthority : ∀ rest, (early ++ [':'] ++ '/' :: rest).takeWhile (fun c => !endsAuthority c) =
      (early ++ [':']).takeWhile fun c => !endsAuthority c :=
    takeWhile_append_stop (by decide) _
  rw [hostPart?, hostPart?, withoutScheme?, withoutScheme?, ← schemeEnd, hcut', hcut']
  simp only
  split
  · rw [Option.map_some, Option.map_some, hauthority, hauthority]
  · rfl

/-- The authority behind a scheme, if the scheme is one. -/
theorem hostPart?_of_unmarked {scheme : List Char} (h : ¬ schemeEnd <:+: scheme)
    (rest : List Char) :
    hostPart? (scheme ++ schemeEnd ++ rest) =
      if isScheme scheme then some (withoutUser (rest.takeWhile fun c => !endsAuthority c))
      else none := by
  rw [hostPart?, withoutScheme?, ← schemeEnd, cut?_schemeEnd h]
  simp only
  split <;> rfl

/-- The place of the host is the same without the user information. -/
theorem hostPart?_addressFor {user : List Char} (huser : ∀ c ∈ user, c ∉ delimiters)
    (scheme rest : List Char) :
    hostPart? (addressFor scheme user rest) = hostPart? (scheme ++ schemeEnd ++ rest) := by
  rw [addressFor]
  by_cases h : schemeEnd <:+: scheme
  · -- the first mark stands in `scheme`, and the user information behind it is in the path
    exact hostPart?_of_marked h _ _
  · have hpasses : ∀ c ∈ user, (!endsAuthority c) = true := fun c hc => by
      rw [Bool.not_eq_true', ← Bool.not_eq_true, endsAuthority_iff]
      exact huser c hc
    have htake : (user ++ '@' :: rest).takeWhile (fun c => !endsAuthority c) =
        user ++ '@' :: rest.takeWhile fun c => !endsAuthority c := by
      rw [List.takeWhile_append_of_pos hpasses, List.takeWhile_cons_of_pos (by decide)]
    rw [hostPart?_of_unmarked h, hostPart?_of_unmarked h, htake, withoutUser_append]

theorem trim_schemeEnd (scheme rest : List Char) :
    trim (scheme ++ schemeEnd ++ rest) = trimStart scheme ++ schemeEnd ++ trimEnd rest := by
  have hcolon : isBlank ':' = false := by decide
  have hslash : isBlank '/' = false := by decide
  calc trim (scheme ++ schemeEnd ++ rest)
      = trim (scheme ++ ':' :: ['/'] ++ '/' :: rest) := by simp [schemeEnd]
    _ = trimStart scheme ++ ':' :: ['/'] ++ '/' :: trimEnd rest := by
        rw [List.append_assoc, List.cons_append, trim_append_cons hcolon,
          trimEnd_append_cons hslash, ← List.cons_append, ← List.append_assoc]
    _ = trimStart scheme ++ schemeEnd ++ trimEnd rest := by simp [schemeEnd]

/-- Trimming an address trims the scheme on its left and the rest on its right. -/
theorem trim_addressFor (scheme user rest : List Char) :
    trim (addressFor scheme user rest) = addressFor (trimStart scheme) user (trimEnd rest) := by
  rw [addressFor, trim_schemeEnd, trimEnd_append_cons (by decide), addressFor]

/-- The host of an address is the same without its user information. -/
theorem hostChars_addressFor {user : List Char} (huser : ∀ c ∈ user, c ∉ delimiters)
    (scheme rest : List Char) :
    hostChars (addressFor scheme user rest) = hostChars (scheme ++ schemeEnd ++ rest) := by
  rw [hostChars, trim_addressFor, hostPart?_addressFor huser, ← trim_schemeEnd, ← hostChars]

/-- No address is blank. -/
theorem trim_addressFor_ne_nil (scheme user rest : List Char) :
    trim (addressFor scheme user rest) ≠ [] := by
  rw [trim_addressFor, addressFor]
  simp

/-- Two addresses that differ in the user differ after trimming. -/
theorem addressFor_trim_inj {scheme user other rest : List Char} :
    trim (addressFor scheme user rest) = trim (addressFor scheme other rest) ↔ user = other := by
  rw [trim_addressFor, trim_addressFor, addressFor, addressFor, List.append_cancel_left_eq,
    List.append_cancel_right_eq]

/-! ## Statuses of values -/

/-- The kind that a value of a variable names. -/
def valueKind (value : List Char) : Kind :=
  if ['s', 'o', 'c', 'k', 's'].isPrefixOf (lowerCase (trim value)) then .socks else .http

/-- What a value tells that is not blank: its kind, and its host or else itself. -/
theorem statusOfValue?_of_ne_nil {value : String} (h : trim value.toList ≠ []) :
    statusOfValue? value = some (.found (valueKind value.toList)
      (if hostOf value = "" then String.ofList (trim value.toList) else hostOf value)) := by
  have hhost : hostChars (trim value.toList) = hostChars value.toList := by
    rw [hostChars, trim_trim, hostChars]
  have hempty : hostOf value = "" ↔ hostChars value.toList = [] := by simp [hostOf]
  simp only [statusOfValue?, if_neg h, valueKind, hhost, hempty, apply_ite String.ofList]
  rw [hostOf]

/-- Whether the lower-case form of a text starts with `socks` is settled before a `://`. -/
theorem isPrefixOf_lowerCase_schemeEnd (scheme rest : List Char) :
    ['s', 'o', 'c', 'k', 's'].isPrefixOf (lowerCase (scheme ++ schemeEnd ++ rest)) =
      ['s', 'o', 'c', 'k', 's'].isPrefixOf (lowerCase scheme) := by
  rw [List.append_assoc]
  exact isPrefixOf_lowerAfter_append_colon (by decide) (by decide) (by decide) _ _ _

/-- The kind is the same without the user information, which stands too late to have a part in
it. -/
theorem valueKind_addressFor (scheme user rest : List Char) :
    valueKind (addressFor scheme user rest) = valueKind (scheme ++ schemeEnd ++ rest) := by
  rw [valueKind, valueKind, trim_addressFor, trim_schemeEnd, addressFor,
    isPrefixOf_lowerCase_schemeEnd, isPrefixOf_lowerCase_schemeEnd]

/-! ## Statuses of addresses -/

/-- The first variable with a value is `name`, and `value` is its value. -/
def FirstValue (lookup : Lookup) (name value : String) : Prop :=
  variableNames.find? (hasValue lookup) = some name ∧ lookup name = some value

/-- The first variable with a value decides. -/
theorem resolve_status_of_firstValue {s : Sources} {name value : String}
    (h : FirstValue s.lookup name value) (gate : Bool) :
    some (resolve s gate).status = statusOfValue? value := by
  obtain ⟨hname, hvalue⟩ := h
  have hset := List.find?_some hname
  rw [← decides_iff, hvalue, Option.bind_some] at hset
  obtain ⟨status, hstatus⟩ := Option.isSome_iff_exists.1 hset
  rw [resolve_status, stageAnswers, hname, Option.bind_some, hvalue, Option.bind_some, hstatus]
  rfl

/-- An address with user information. -/
def address (scheme user rest : String) : String :=
  scheme ++ "://" ++ user ++ "@" ++ rest

/-- An address without user information of its own. -/
def plainAddress (scheme rest : String) : String :=
  scheme ++ "://" ++ rest

theorem toList_address (scheme user rest : String) :
    (address scheme user rest).toList = addressFor scheme.toList user.toList rest.toList := by
  simp [address, addressFor, schemeEnd]

theorem toList_plainAddress (scheme rest : String) :
    (plainAddress scheme rest).toList = scheme.toList ++ schemeEnd ++ rest.toList := by
  simp [plainAddress, schemeEnd]

/-- A user without delimiters does not change the host. -/
theorem hostOf_address {user : String} (huser : ∀ c ∈ user.toList, c ∉ delimiters)
    (scheme rest : String) :
    hostOf (address scheme user rest) = hostOf (plainAddress scheme rest) := by
  rw [hostOf, toList_address, hostChars_addressFor huser, ← toList_plainAddress, hostOf]

/-- The status of an address is told by the address without its user information, except that an
address without a host is shown as it is. -/
theorem resolve_status_address {s : Sources} {name scheme user rest : String}
    (huser : ∀ c ∈ user.toList, c ∉ delimiters)
    (h : FirstValue s.lookup name (address scheme user rest)) (gate : Bool) :
    (resolve s gate).status = .found (valueKind (plainAddress scheme rest).toList)
      (if hostOf (plainAddress scheme rest) = "" then
        String.ofList (trim (address scheme user rest).toList)
      else hostOf (plainAddress scheme rest)) := by
  have hne : trim (address scheme user rest).toList ≠ [] := by
    rw [toList_address]
    exact trim_addressFor_ne_nil _ _ _
  have hkind : valueKind (address scheme user rest).toList =
      valueKind (plainAddress scheme rest).toList := by
    rw [toList_address, valueKind_addressFor, toList_plainAddress]
  have hstatus := resolve_status_of_firstValue h gate
  rw [statusOfValue?_of_ne_nil hne, hkind, hostOf_address huser] at hstatus
  exact Option.some.inj hstatus

/-- **User information does not show beside a host.** Two addresses that differ in their user
information name a proxy of one kind, and if there is a host in the address without user
information then they have the same status, with that host. Without one the trimmed values are
shown, and so is the user information. -/
theorem status_hides_user_beside_host {a b : Sources} {name scheme user other rest : String}
    (huser : ∀ c ∈ user.toList, c ∉ delimiters) (hother : ∀ c ∈ other.toList, c ∉ delimiters)
    (ha : FirstValue a.lookup name (address scheme user rest))
    (hb : FirstValue b.lookup name (address scheme other rest)) (gate : Bool) :
    let host := hostOf (plainAddress scheme rest)
    (resolve a gate).status.kind = (resolve b gate).status.kind ∧
    (host ≠ "" → (resolve a gate).status.host = host) ∧
    (host = "" →
      (resolve a gate).status.host = String.ofList (trim (address scheme user rest).toList)) ∧
    ((resolve a gate).status = (resolve b gate).status ↔ host ≠ "" ∨ user = other) := by
  intro host
  have hshown : String.ofList (trim (address scheme user rest).toList) =
      String.ofList (trim (address scheme other rest).toList) ↔ user = other := by
    rw [String.ofList_inj, toList_address, toList_address, addressFor_trim_inj, String.toList_inj]
  rw [resolve_status_address huser ha, resolve_status_address hother hb]
  simp only [Status.found, Status.mk.injEq, true_and]
  refine ⟨fun hne => if_neg hne, fun heq => if_pos heq, ?_⟩
  by_cases heq : host = ""
  · rw [if_pos heq, if_pos heq, hshown, or_iff_right (not_not_intro heq)]
  · rw [if_neg heq, if_neg heq, eq_self, true_iff]
    exact .inl heq

/-- Sources of which only one variable has anything to say. -/
def onlyVariable (name value : String) : Sources :=
  ⟨fun other => if other = name then some value else none, none, none⟩

/-- User information that holds a colon and an `@` does not show beside a host with a port. -/
theorem gate_beside_two_users :
    let a := onlyVariable "ALL_PROXY" (address " Socks5" "me:p@ss" "gate:1080/")
    let b := onlyVariable "ALL_PROXY" (address " Socks5" "" "gate:1080/")
    (resolve a false).status = (resolve b false).status ∧
      (resolve a false).status.host = "gate:1080" := by
  intro a b
  have huser : ∀ c ∈ "me:p@ss".toList, c ∉ delimiters :=
    List.all_iff_forall_prop.1 (by decide)
  have hother : ∀ c ∈ "".toList, c ∉ delimiters := by simp
  have ha : FirstValue a.lookup "ALL_PROXY" (address " Socks5" "me:p@ss" "gate:1080/") :=
    ⟨by decide, by decide⟩
  have hb : FirstValue b.lookup "ALL_PROXY" (address " Socks5" "" "gate:1080/") :=
    ⟨by decide, by decide⟩
  obtain ⟨-, hhost, -, hequal⟩ := status_hides_user_beside_host huser hother ha hb false
  have hread : hostOf (plainAddress " Socks5" "gate:1080/") = "gate:1080" := by decide
  rw [hread] at hhost hequal
  exact ⟨hequal.2 (.inl (by decide)), hhost (by decide)⟩

/-- Where no host is read, here because the port is not a number, the user information shows. -/
theorem user_shows_before_bad_port :
    let a := onlyVariable "http_proxy" (address "http" "me:secret" "gate:80x")
    let b := onlyVariable "http_proxy" (address "http" "you" "gate:80x")
    (∀ c ∈ "me:secret".toList, c ∉ delimiters) ∧ (∀ c ∈ "you".toList, c ∉ delimiters) ∧
      FirstValue a.lookup "http_proxy" (address "http" "me:secret" "gate:80x") ∧
      FirstValue b.lookup "http_proxy" (address "http" "you" "gate:80x") ∧
      (resolve a false).status ≠ (resolve b false).status := by
  intro a b
  have huser : ∀ c ∈ "me:secret".toList, c ∉ delimiters :=
    List.all_iff_forall_prop.1 (by decide)
  have hother : ∀ c ∈ "you".toList, c ∉ delimiters :=
    List.all_iff_forall_prop.1 (by decide)
  have ha : FirstValue a.lookup "http_proxy" (address "http" "me:secret" "gate:80x") :=
    ⟨by decide, by decide⟩
  have hb : FirstValue b.lookup "http_proxy" (address "http" "you" "gate:80x") :=
    ⟨by decide, by decide⟩
  refine ⟨huser, hother, ha, hb, fun hequal => ?_⟩
  rw [resolve_status_address huser ha, resolve_status_address hother hb] at hequal
  have hhosts := congrArg Status.host hequal
  revert hhosts
  decide

end LinkWatch.Proxy
