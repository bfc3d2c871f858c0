import LinkWatch.Proofs.UserInformation

/-!
# The kind of a proxy and its scheme

A variable whose value has a scheme names a SOCKS proxy exactly when that scheme does. A value
without a scheme is a bare host, which is read as that of an `http` URL; its kind is told by the
start of the host all the same, so that a bare host that starts with `socks` is taken for a SOCKS
proxy.
-/

namespace LinkWatch.Proxy

open LinkWatch.Text

/-! ## Values with and without a scheme -/

/-- The lower-case form of a text starts with `socks`. -/
def StartsLikeSocks (cs : List Char) : Prop :=
  ['s', 'o', 'c', 'k', 's'] <+: lowerCase cs

instance (cs : List Char) : Decidable (StartsLikeSocks cs) :=
  inferInstanceAs (Decidable (['s', 'o', 'c', 'k', 's'] <+: lowerCase cs))

/-- A value without `://`. -/
def IsBare (value : List Char) : Prop :=
  ¬ schemeEnd <:+: value

instance (value : List Char) : Decidable (IsBare value) :=
  inferInstanceAs (Decidable (¬ schemeEnd <:+: value))

/-- What stands before the first `://` of a value starts like `socks`. -/
def HasSocksScheme (value : List Char) : Prop :=
  ∃ scheme rest, value = scheme ++ schemeEnd ++ rest ∧ IsBare scheme ∧ StartsLikeSocks scheme

theorem not_isBare_of_hasSocksScheme {value : List Char} (h : HasSocksScheme value) :
    ¬ IsBare value := by
  obtain ⟨scheme, rest, rfl, -, -⟩ := h
  exact not_not_intro ⟨scheme, rest, rfl⟩

/-- A value with a `://` has a scheme that ends at the first one. -/
theorem exists_scheme_of_not_isBare {value : List Char} (h : ¬ IsBare value) :
    ∃ scheme rest, value = scheme ++ schemeEnd ++ rest ∧ IsBare scheme := by
  have hmark : schemeEnd ≠ [] := by decide
  have hfound : cut? schemeEnd value ≠ none := fun hnone => h ((cut?_eq_none_iff hmark).1 hnone)
  obtain ⟨⟨scheme, rest⟩, hcut⟩ := Option.ne_none_iff_exists'.1 hfound
  exact ⟨scheme, rest, cut?_eq_append hcut, unmarked_of_cut? hmark hcut⟩

/-- A URL starts like its scheme, because the start does not contain what ends a scheme. -/
theorem startsLikeSocks_append_schemeEnd (scheme rest : List Char) :
    StartsLikeSocks (scheme ++ schemeEnd ++ rest) ↔ StartsLikeSocks scheme := by
  rw [StartsLikeSocks, StartsLikeSocks, ← List.isPrefixOf_iff_prefix,
    ← List.isPrefixOf_iff_prefix, isPrefixOf_lowerCase_schemeEnd]

/-- The start of a value is that of its scheme, if it has one. -/
theorem startsLikeSocks_iff (value : List Char) :
    StartsLikeSocks value ↔ HasSocksScheme value ∨ IsBare value ∧ StartsLikeSocks value := by
  constructor
  · intro h
    by_cases hbare : IsBare value
    · exact .inr ⟨hbare, h⟩
    · obtain ⟨scheme, rest, rfl, hscheme⟩ := exists_scheme_of_not_isBare hbare
      exact .inl ⟨scheme, rest, rfl, hscheme, (startsLikeSocks_append_schemeEnd scheme rest).1 h⟩
  · rintro (⟨scheme, rest, rfl, -, hstart⟩ | ⟨-, hstart⟩)
    · exact (startsLikeSocks_append_schemeEnd scheme rest).2 hstart
    · exact hstart

/-- A value is taken for the kind by how its trimmed text starts. -/
theorem valueKind_eq_socks_iff (value : List Char) :
    valueKind value = .socks ↔ StartsLikeSocks (trim value) := by
  rw [valueKind, StartsLikeSocks, ← List.isPrefixOf_iff_prefix]
  split <;> simp_all

/-! ## Bare values -/

/-- A bare value is read as the rest of an `http` URL. -/
theorem hostChars_of_isBare {value : List Char} (h : IsBare (trim value)) :
    hostChars value = hostChars ("http".toList ++ schemeEnd ++ trim value) := by
  have hscheme : ¬ schemeEnd <:+: "http".toList := by decide
  have hbare : hostPart? (trim value) =
      some (withoutUser ((trim value).takeWhile fun c => !endsAuthority c)) := by
    have hcut : cut? schemeEnd (trim value) = none := (cut?_eq_none_iff (by decide)).2 h
    rw [hostPart?, withoutScheme?, ← schemeEnd, hcut, Option.map_some]
  have hurl : hostPart? ("http".toList ++ schemeEnd ++ trim value) = hostPart? (trim value) := by
    rw [hostPart?_of_unmarked hscheme, hbare]
    rfl
  have htrim : trim ("http".toList ++ schemeEnd ++ trim value) =
      "http".toList ++ schemeEnd ++ trim value := by
    rw [trim_schemeEnd, trimEnd_trim]
    rfl
  rw [hostChars, hostChars, htrim, hurl]

/-! ## The kind that a variable names -/

/-- The value that decides is not blank. -/
theorem trim_ne_nil_of_firstValue {lookup : Lookup} {name value : String}
    (h : FirstValue lookup name value) : trim value.toList ≠ [] := by
  have hvalue := List.find?_some h.1
  rw [hasValue, h.2] at hvalue
  simpa using hvalue

/-- The first value that is not blank decides alone. -/
theorem fromVariables_of_firstValue {lookup : Lookup} {name value : String}
    (h : FirstValue lookup name value) :
    (fromVariables lookup).status = statusOfValue? value := by
  rw [fromVariables, searchVariables_status, h.1, Option.bind_some, h.2, Option.bind_some]

/-- **The kind follows the scheme, except in bare values.** The first variable with a value names
a SOCKS proxy if its scheme starts like `socks`, and an HTTP proxy otherwise; but a bare value,
which is read as that of an `http` URL, is told by its own start, and is taken for a SOCKS proxy
exactly if that starts like `socks`. -/
theorem kind_follows_scheme_unless_bare {lookup : Lookup} {name value : String}
    (h : FirstValue lookup name value) :
    let text := trim value.toList
    ∃ status, (fromVariables lookup).status = some status ∧
      (status.kind = .socks ∨ status.kind = .http) ∧
      (status.kind = .socks ↔ HasSocksScheme text ∨ IsBare text ∧ StartsLikeSocks text) ∧
      ((status.kind = .socks ↔ HasSocksScheme text) ↔ ¬ (IsBare text ∧ StartsLikeSocks text)) ∧
      (IsBare text → hostOf value = hostOf ("http://" ++ String.ofList text)) := by
  intro text
  have hkind : valueKind value.toList = .socks ↔
      HasSocksScheme text ∨ IsBare text ∧ StartsLikeSocks text :=
    (valueKind_eq_socks_iff value.toList).trans (startsLikeSocks_iff text)
  refine ⟨_, (fromVariables_of_firstValue h).trans
    (statusOfValue?_of_ne_nil (trim_ne_nil_of_firstValue h)), ?_, hkind, ?_, ?_⟩
  · rw [Status.found, valueKind]
    split
    · exact .inl rfl
    · exact .inr rfl
  · -- a value with a scheme is not bare, so the two ways to a SOCKS proxy exclude each other
    have hapart : HasSocksScheme text → ¬ IsBare text := not_isBare_of_hasSocksScheme
    rw [Status.found, hkind, or_iff_left_iff_imp]
    exact ⟨fun himp hbare => hapart (himp hbare) hbare.1, fun hnot hbare => absurd hbare hnot⟩
  · intro hbare
    rw [hostOf, hostOf, hostChars_of_isBare hbare]
    simp [text, schemeEnd]

/-- A scheme in capitals and with the Kelvin sign for its `k` is one of SOCKS proxies, whatever
comes after it. -/
theorem socks_scheme_with_kelvin_sign :
    let lookup := (onlyVariable "all_proxy" " SOC\u212aS5h://http://gate:1080").lookup
    FirstValue lookup "all_proxy" " SOC\u212aS5h://http://gate:1080" ∧
      ∃ status, (fromVariables lookup).status = some status ∧ status.kind = .socks := by
  intro lookup
  have hfirst : FirstValue lookup "all_proxy" " SOC\u212aS5h://http://gate:1080" :=
    ⟨by decide, by decide⟩
  obtain ⟨status, hstatus, -, hkind, -⟩ := kind_follows_scheme_unless_bare hfirst
  have hscheme : HasSocksScheme (trim " SOC\u212aS5h://http://gate:1080".toList) :=
    ⟨"SOC\u212aS5h".toList, "http://gate:1080".toList, by decide, by decide, by decide⟩
  exact ⟨hfirst, status, hstatus, hkind.2 (.inl hscheme)⟩

/-- A bare host that starts with `socks` is taken for a SOCKS proxy, though it has no scheme and
is read as that of an `http` URL. -/
theorem bare_host_taken_for_socks :
    let lookup := (onlyVariable "http_proxy" "socks-gate:3128").lookup
    FirstValue lookup "http_proxy" "socks-gate:3128" ∧
      ¬ HasSocksScheme (trim "socks-gate:3128".toList) ∧
      hostOf "socks-gate:3128" = hostOf "http://socks-gate:3128" ∧
      (fromVariables lookup).status = some (.found .socks "socks-gate:3128") := by
  intro lookup
  have hfirst : FirstValue lookup "http_proxy" "socks-gate:3128" := ⟨by decide, by decide⟩
  have hbare : IsBare (trim "socks-gate:3128".toList) := by decide
  refine ⟨hfirst, fun hscheme => not_isBare_of_hasSocksScheme hscheme hbare, by decide, ?_⟩
  rw [fromVariables_of_firstValue hfirst]
  decide

end LinkWatch.Proxy
