import LinkWatch.Proofs.EncodedText
import LinkWatch.Proofs.HostsInUrls
import LinkWatch.Proxy.Detector

/-!
# Values that are not text

A process sees the value of a variable as bytes, which need not be those of a text. What is damaged
in a value shows only from the first damaged byte on, so a URL that is sound up to the delimiter
after its host names its proxy whatever bytes follow.
-/

namespace LinkWatch.Proxy

open LinkWatch.Text LinkWatch.Traffic

/-! ## Statuses of URLs -/

/-- No URL is blank. -/
theorem trim_url_ne_nil (o : UrlOpening) (rest : String) : trim (o.text ++ rest).toList ≠ [] := by
  rw [String.toList_append, toList_text, List.append_assoc, trim_schemeEnd]
  simp [schemeEnd]

/-- The kind of a URL is told by its scheme. -/
theorem valueKind_url (o : UrlOpening) (rest : String) :
    valueKind (o.text ++ rest).toList =
      if lowerStartsWith o.scheme ['s', 'o', 'c', 'k', 's'] then .socks else .http := by
  rw [valueKind, String.toList_append, toList_text, List.append_assoc, trim_schemeEnd,
    trimStart_scheme, isPrefixOf_lowerCase_schemeEnd, lowerStartsWith]

/-- A value that is a URL tells the kind of its scheme and the host of its authority. -/
theorem statusOfValue?_url (o : UrlOpening) {host tail : String}
    (hhost : HasHost host.toList host.toList) (htail : IsTail tail.toList) :
    statusOfValue? (o.text ++ host ++ tail) = some (.found
      (if lowerStartsWith o.scheme ['s', 'o', 'c', 'k', 's'] then .socks else .http) host) := by
  have hne : host ≠ "" := by simpa using hhost.ne_nil
  have hread : hostOf (o.text ++ (host ++ tail)) = host := by
    rw [← String.append_assoc]
    exact hostOf_url o hhost htail
  rw [String.append_assoc, statusOfValue?_of_ne_nil (trim_url_ne_nil o _), valueKind_url, hread,
    if_neg hne]

/-! ## Values as bytes -/

/-- The value of a variable begins with the text with which its bytes begin. -/
theorem text?_eq_append {env : Environment} {name : String} {start : String} {bytes : List UInt8}
    (h : List.lookup name env = some (encodeText start ++ bytes)) :
    env.text? name = some (start ++ decodeLossy bytes) := by
  rw [Environment.text?, h, Option.map_some, decodeLossy_encodeText_append]

/-- The first variable with a value is one before which all others are unset or blank. -/
theorem firstValue_of_earlier {lookup : Lookup} {name value : String}
    (hname : name ∈ variableNames)
    (hearlier : ∀ earlier ∈ variableNames.takeWhile (· ≠ name), hasValue lookup earlier = false)
    (hvalue : lookup name = some value) (hne : trim value.toList ≠ []) :
    FirstValue lookup name value := by
  have hset : hasValue lookup name = true := by simp [hasValue, hvalue, hne]
  obtain ⟨before, after, hnames, hfree⟩ := List.eq_append_cons_of_mem hname
  have hbefore : variableNames.takeWhile (· ≠ name) = before := by
    have hother : ∀ n ∈ before, decide (n ≠ name) = true := fun n hn =>
      decide_eq_true (ne_of_mem_of_not_mem hn hfree)
    rw [hnames, List.takeWhile_append_of_pos hother, List.takeWhile_cons_of_neg (by simp),
      List.append_nil]
  refine ⟨?_, hvalue⟩
  rw [List.find?_eq_some_iff_append]
  exact ⟨hset, before, after, hnames, fun n hn => by simp [hearlier n (hbefore ▸ hn)]⟩

/-- **Bytes behind a host never lose it.** If the first variable that is set and not blank has a
value that is a URL up to the delimiter after its host, then that host is found, with the kind that
the scheme tells, whatever bytes follow and whatever the settings are. -/
theorem host_found_before_any_bytes (d : Detection) {env : Environment} {name : String}
    (hname : name ∈ variableNames)
    (hearlier : ∀ earlier ∈ variableNames.takeWhile (· ≠ name), hasValue env.text? earlier = false)
    (o : UrlOpening) {host : String} (hne : host ≠ "") (hself : hostOf host = host)
    {delimiter : Char} (hdelimiter : delimiter ∈ delimiters) {bytes : List UInt8}
    (hvalue : List.lookup name env =
      some (encodeText (o.text ++ host ++ String.singleton delimiter) ++ bytes))
    (query : Option String) (tunnels : Option Reading) :
    (detect d ⟨env.text?, query, tunnels⟩).status = .found
      (if lowerStartsWith o.scheme ['s', 'o', 'c', 'k', 's'] then .socks else .http) host := by
  have hhost : HasHost host.toList host.toList := (hostOf_eq_iff hne).1 hself
  have htext := text?_eq_append hvalue
  rw [String.append_assoc] at htext
  have htail : IsTail (String.singleton delimiter ++ decodeLossy bytes).toList := by
    intro c hc
    obtain rfl : delimiter = c := by simpa using hc
    exact hdelimiter
  have hfirst : FirstValue env.text? name
      (o.text ++ host ++ (String.singleton delimiter ++ decodeLossy bytes)) := by
    refine firstValue_of_earlier hname hearlier htext ?_
    rw [String.append_assoc]
    exact trim_url_ne_nil o _
  have hstatus := resolve_status_of_firstValue (s := ⟨env.text?, query, tunnels⟩) hfirst
    (systemGate d)
  rw [statusOfValue?_url o hhost htail] at hstatus
  exact Option.some.inj hstatus

/-- A bracketed host behind user information is found in front of bytes that are no text, though a
blank variable comes before its own. -/
theorem host_before_damaged_path :
    let env : Environment := [("https_proxy", encodeText " \u3000"),
      ("ALL_PROXY", encodeText "SOCKS5://me:p@[::1]:1080/" ++ [0xff, 0xe2, 0x82, 0x40])]
    (∀ earlier ∈ variableNames.takeWhile (· ≠ "ALL_PROXY"),
        hasValue env.text? earlier = false) ∧
      hostOf "[::1]:1080" = "[::1]:1080" ∧
      (detectIn {} env).status = .found .socks "[::1]:1080" := by
  intro env
  have hearlier : ∀ earlier ∈ variableNames.takeWhile (· ≠ "ALL_PROXY"),
      hasValue env.text? earlier = false := by decide
  have hself : hostOf "[::1]:1080" = "[::1]:1080" := by decide
  let o : UrlOpening := ⟨"SOCKS5", some "me:p", (isScheme_iff _).1 (by decide),
    by rintro info ⟨⟩; exact List.all_iff_forall_prop.1 (by decide)⟩
  have hvalue : List.lookup "ALL_PROXY" env =
      some (encodeText (o.text ++ "[::1]:1080" ++ String.singleton '/') ++
        [0xff, 0xe2, 0x82, 0x40]) := by decide
  have hstatus := host_found_before_any_bytes {} (by decide) hearlier o (by decide) hself
    (by decide) hvalue none none
  have hkind : lowerStartsWith o.scheme ['s', 'o', 'c', 'k', 's'] = true := by decide
  rw [if_pos hkind] at hstatus
  exact ⟨hearlier, hself, hstatus⟩

end LinkWatch.Proxy
