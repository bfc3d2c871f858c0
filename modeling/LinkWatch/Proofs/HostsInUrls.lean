import LinkWatch.Proofs.UserInformation

/-!
# Hosts that are put into URLs

A host is read back from every URL into which it is put, whatever user information stands before it
and whatever path or query behind it. Joining a host with a port gives such a host: the colon of the
port is the last one of an open host, and follows the bracket of a bracketed one.
-/

namespace LinkWatch.Proxy

open LinkWatch.Text

/-! ## What stands around a host -/

/-- What stands before the host of a URL: a scheme and, if there is any, user information. -/
structure UrlOpening where
  scheme : String
  user : Option String
  isScheme : IsSchemeName scheme.toList
  undelimited : ∀ info ∈ user, ∀ c ∈ info.toList, c ∉ delimiters

/-- The user information with the `@` that ends it. -/
def UrlOpening.userText (o : UrlOpening) : String :=
  match o.user with
  | some info => info ++ "@"
  | none => ""

/-- The text of a URL up to its host. -/
def UrlOpening.text (o : UrlOpening) : String :=
  o.scheme ++ "://" ++ o.userText

/-- What may follow the authority of a URL: nothing, or a text that begins with a delimiter. -/
def IsTail (tail : List Char) : Prop :=
  ∀ c, tail.head? = some c → c ∈ delimiters

/-- Blank text on both sides of something. -/
structure Padding where
  left : String
  right : String
  left_isBlank : ∀ c ∈ left.toList, isBlank c = true
  right_isBlank : ∀ c ∈ right.toList, isBlank c = true

/-- A text between the two sides of a padding. -/
def Padding.around (p : Padding) (s : String) : String :=
  p.left ++ s ++ p.right

theorem trim_around (p : Padding) (s : String) : trim (p.around s).toList = trim s.toList := by
  rw [Padding.around, String.toList_append, String.toList_append,
    trim_append_of_blank _ p.right_isBlank, trim_of_blank_append p.left_isBlank]

/-- Blanks around an address do not change its host. -/
theorem hostOf_around (p : Padding) (s : String) : hostOf (p.around s) = hostOf s := by
  rw [hostOf, hostOf, hostChars, hostChars, trim_around]

/-! ## Visible characters -/

theorem visible_of_isAlphanum {c : Char} (h : c.isAlphanum = true) :
    isBlank c = false ∧ isControl c = false := by
  have hclass : ((decide (c.val ≥ 'A'.val ∧ c.val ≤ 'Z'.val) ||
      (decide (c.val ≥ 'a'.val) && decide (c.val ≤ 'z'.val))) ||
      (decide (c.val ≥ '0'.val) && decide (c.val ≤ '9'.val))) = true := h
  simp only [Bool.or_eq_true, Bool.and_eq_true, decide_eq_true_eq, ge_iff_le,
    UInt32.le_iff_toNat_le] at hclass
  have hrange : 48 ≤ c.toNat ∧ c.toNat ≤ 122 := by
    change ((65 ≤ c.toNat ∧ c.toNat ≤ 90) ∨ (97 ≤ c.toNat ∧ c.toNat ≤ 122)) ∨
      (48 ≤ c.toNat ∧ c.toNat ≤ 57) at hclass
    omega
  generalize hn : c.toNat = n at hrange
  simp [isBlank, isControl, hn]
  omega

theorem visible_of_isDigit {c : Char} (h : c.isDigit = true) :
    isBlank c = false ∧ isControl c = false :=
  visible_of_isAlphanum (by rw [Char.isAlphanum, h, Bool.or_true])

/-- What ends an authority is no blank, so it is not trimmed away. -/
theorem not_isBlank_of_mem_delimiters {c : Char} (h : c ∈ delimiters) : isBlank c = false := by
  simp only [delimiters, List.mem_cons, List.not_mem_nil, or_false] at h
  rcases h with rfl | rfl | rfl <;> rfl

/-! ## Hosts in URLs -/

/-- A text that is not empty is read from an address exactly when the grammar has it there. -/
theorem hostOf_eq_iff {raw host : String} (hne : host ≠ "") :
    hostOf raw = host ↔ HasHost raw.toList host.toList := by
  have hchars : host.toList ≠ [] := by simpa using hne
  rw [← hostChars_eq_iff hchars, hostOf, ← String.toList_inj, String.toList_ofList]

theorem toList_text (o : UrlOpening) :
    o.text.toList = o.scheme.toList ++ schemeEnd ++ o.userText.toList := by
  simp [UrlOpening.text, schemeEnd]

theorem trimStart_scheme (o : UrlOpening) : trimStart o.scheme.toList = o.scheme.toList := by
  obtain ⟨first, rest, hscheme, hfirst, -⟩ := o.isScheme
  have halnum : first.isAlphanum = true := by rw [Char.isAlphanum, hfirst, Bool.true_or]
  rw [hscheme, trimStart, List.dropWhile_cons, (visible_of_isAlphanum halnum).1]
  rfl

/-- The host follows the user of an opening, or follows nothing if there is no user. -/
theorem followsUser_userText (o : UrlOpening) {host : List Char} (hfree : '@' ∉ host) :
    FollowsUser (o.userText.toList ++ host) host := by
  rw [UrlOpening.userText]
  cases o.user with
  | none => exact .alone hfree
  | some info =>
    have hinfo : (info ++ "@").toList ++ host = info.toList ++ '@' :: host := by simp
    exact hinfo ▸ .user hfree

/-- A user does not end the authority. -/
theorem undelimited_userText (o : UrlOpening) : ∀ c ∈ o.userText.toList, c ∉ delimiters := by
  rw [UrlOpening.userText]
  cases huser : o.user with
  | none => simp
  | some info =>
    intro c hc
    rw [String.toList_append, List.mem_append] at hc
    rcases hc with hc | hc
    · exact o.undelimited info huser c hc
    · obtain rfl : c = '@' := List.mem_singleton.1 hc
      decide

/-- What follows an authority still does so without blanks behind it. -/
theorem isTail_trimEnd {tail : List Char} (h : IsTail tail) : IsTail (trimEnd tail) := by
  cases tail with
  | nil => exact h
  | cons c tail =>
    have hstop := trimEnd_append_cons (not_isBlank_of_mem_delimiters (h c rfl)) [] tail
    rw [List.nil_append] at hstop
    rw [hstop]
    exact h

/-- A host is read back from every URL into which it is put. -/
theorem hasHost_url (o : UrlOpening) {host tail : List Char} (hhost : HasHost host host)
    (htail : IsTail tail) : HasHost (o.text.toList ++ host ++ tail) host := by
  obtain ⟨hfree, hundelimited⟩ := plain_of_hasHost hhost
  -- neither the scheme nor the host has a blank end, so only the tail can lose something
  have htrim : trim (o.text.toList ++ host ++ tail) =
      o.scheme.toList ++ schemeEnd ++ (o.userText.toList ++ host) ++ trimEnd tail := by
    have hend := trimEnd_append_visible hhost.ne_nil (fun c hc => (hhost.visible c hc).1)
      o.userText.toList tail
    rw [toList_text, List.append_assoc, List.append_assoc, trim_schemeEnd, trimStart_scheme,
      ← List.append_assoc o.userText.toList, hend, ← List.append_assoc]
  refine ⟨hhost.ne_nil, hhost.visible, hhost.shape, o.scheme.toList ++ schemeEnd,
    o.userText.toList ++ host, trimEnd tail, ?_, followsUser_userText o hfree⟩
  refine ⟨htrim, .scheme o.isScheme, fun c hc => ?_, isTail_trimEnd htail⟩
  rcases List.mem_append.1 hc with hc | hc
  · exact undelimited_userText o c hc
  · exact hundelimited c hc

/-- The host of a URL is the one that stands in it. -/
theorem hostOf_url (o : UrlOpening) {host tail : String} (hhost : HasHost host.toList host.toList)
    (htail : IsTail tail.toList) : hostOf (o.text ++ host ++ tail) = host := by
  have hne : host ≠ "" := by simpa using hhost.ne_nil
  rw [hostOf_eq_iff hne, String.toList_append, String.toList_append]
  exact hasHost_url o hhost htail

/-! ## Hosts with a port -/

/-- A host without a port: an open one, which may hold colons, or one in brackets. -/
structure IsHostName (host : List Char) : Prop where
  ne_nil : host ≠ []
  visible : ∀ c ∈ host, isBlank c = false ∧ isControl c = false
  plain : ∀ c ∈ host, c ≠ '@' ∧ c ∉ delimiters
  bracketed : host.head? = some '[' →
    ∃ inner, host = '[' :: (inner ++ [']']) ∧ inner ≠ [] ∧ ']' ∉ inner

/-- A digit is neither an `@` nor a delimiter. -/
theorem plain_of_isDigit {c : Char} (h : c.isDigit = true) : c ≠ '@' ∧ c ∉ delimiters := by
  have hmem : c ∉ '@' :: delimiters := by
    simp only [delimiters, List.mem_cons, List.not_mem_nil, or_false]
    rintro (rfl | rfl | rfl | rfl) <;> exact absurd h (by decide)
  rwa [List.mem_cons, not_or] at hmem

/-- The shape of a host is kept when a port is joined to it. -/
theorem hostShape_withPort {host port : List Char} (h : IsHostName host) (hport : IsDigits port) :
    HostShape (host ++ ':' :: port) := by
  by_cases hopen : host.head? = some '['
  · obtain ⟨inner, rfl, hne, hfree⟩ := h.bracketed hopen
    rw [List.cons_append, List.append_assoc, List.singleton_append]
    exact .bracketed hne hfree (.inr ⟨port, rfl, hport⟩)
  · -- colons of the host do not matter, since none comes after that of the port
    refine .unbracketed ?_ (.inr ⟨host, port, rfl, hport⟩)
    rw [List.head?_append_of_ne_nil _ h.ne_nil]
    exact hopen

/-- A host with a port is its own host. -/
theorem hasHost_withPort {host port : List Char} (h : IsHostName host) (hport : IsDigits port) :
    HasHost (host ++ ':' :: port) (host ++ ':' :: port) := by
  have hvisible : ∀ c ∈ host ++ ':' :: port, isBlank c = false ∧ isControl c = false := by
    simp only [List.mem_append, List.mem_cons]
    rintro c (hc | rfl | hc)
    · exact h.visible c hc
    · decide
    · exact visible_of_isDigit (hport c hc)
  have hplain : ∀ c ∈ host ++ ':' :: port, c ≠ '@' ∧ c ∉ delimiters := by
    simp only [List.mem_append, List.mem_cons]
    rintro c (hc | rfl | hc)
    · exact h.plain c hc
    · decide
    · exact plain_of_isDigit (hport c hc)
  exact hasHost_of_plain (by simp) hvisible (hostShape_withPort h hport)
    (fun hmem => (hplain _ hmem).1 rfl) fun c hc => (hplain c hc).2

/-! ## Joining -/

/-- A host and a port are joined as they stand between their paddings. -/
theorem joinHostPort_around {host port : String} (hhost : IsHostName host.toList)
    (hport : IsDigits port.toList) (hne : port ≠ "") (inHost inPort : Padding) :
    joinHostPort (inHost.around host) (inPort.around port) = host ++ ":" ++ port := by
  have htrimHost : trim (inHost.around host).toList = host.toList := by
    rw [trim_around, trim_of_visible fun c hc => (hhost.visible c hc).1]
  have htrimPort : trim (inPort.around port).toList = port.toList := by
    rw [trim_around, trim_of_visible fun c hc => (visible_of_isDigit (hport c hc)).1]
  have hjoins : (port.toList ≠ [] && isPort port.toList) = true := by
    simpa [(isPort_iff _).2 hport] using hne
  simp only [joinHostPort, joinChars, htrimHost, htrimPort, if_neg hhost.ne_nil, if_pos hjoins]
  rw [← String.toList_inj]
  simp

/-- **Reading a URL undoes joining.** A host that was joined with a port is read back with that
port from any URL into which it was put, and from the joined text alone. -/
theorem hostOf_undoes_joinHostPort (o : UrlOpening) {host port tail : String}
    (hhost : IsHostName host.toList) (hport : IsDigits port.toList) (hne : port ≠ "")
    (htail : IsTail tail.toList) (inHost inPort outside : Padding) :
    let joined := joinHostPort (inHost.around host) (inPort.around port)
    hostOf (outside.around (o.text ++ joined ++ tail)) = host ++ ":" ++ port ∧
      hostOf joined = host ++ ":" ++ port := by
  intro joined
  have hjoined : joined = host ++ ":" ++ port := joinHostPort_around hhost hport hne inHost inPort
  have hself : HasHost (host ++ ":" ++ port).toList (host ++ ":" ++ port).toList := by
    have hchars : (host ++ ":" ++ port).toList = host.toList ++ ':' :: port.toList := by simp
    rw [hchars]
    exact hasHost_withPort hhost hport
  rw [hjoined, hostOf_around]
  refine ⟨hostOf_url o hself htail, (hostOf_eq_iff ?_).2 hself⟩
  simp

/-- An open host full of colons is joined with its port and read back, from behind user information
with further colons and an `@`, and in front of a query with the same. -/
theorem link_local_host_read_back :
    ∃ (o : UrlOpening) (inHost inPort outside : Padding),
      o.text = "Socks5h://me:p@ss@" ∧ inHost.around "fe80::1" = "\tfe80::1\u3000" ∧
      inPort.around "1080" = " 1080\n" ∧ IsHostName "fe80::1".toList ∧ IsDigits "1080".toList ∧
      IsTail "?a=b@c:1 d".toList ∧
      hostOf (outside.around (o.text ++ joinHostPort (inHost.around "fe80::1")
        (inPort.around "1080") ++ "?a=b@c:1 d")) = "fe80::1:1080" := by
  let o : UrlOpening := ⟨"Socks5h", some "me:p@ss", (isScheme_iff _).1 (by decide),
    by rintro info ⟨⟩; exact List.all_iff_forall_prop.1 (by decide)⟩
  let inHost : Padding := ⟨"\t", "\u3000", List.all_iff_forall_prop.1 (by decide),
    List.all_iff_forall_prop.1 (by decide)⟩
  let inPort : Padding := ⟨" ", "\n", List.all_iff_forall_prop.1 (by decide),
    List.all_iff_forall_prop.1 (by decide)⟩
  let outside : Padding := ⟨" ", "", List.all_iff_forall_prop.1 (by decide), by simp⟩
  have hhost : IsHostName "fe80::1".toList :=
    ⟨by decide, (all_visible_iff _).1 (by decide), List.all_iff_forall_prop.1 (by decide),
      fun hopen => absurd hopen (by decide)⟩
  have hport : IsDigits "1080".toList := by decide
  have htail : IsTail "?a=b@c:1 d".toList := by rintro c ⟨⟩; decide
  obtain ⟨hread, -⟩ :=
    hostOf_undoes_joinHostPort o hhost hport (by decide) htail inHost inPort outside
  exact ⟨o, inHost, inPort, outside, by decide, by decide, by decide, hhost, hport, htail, hread⟩

end LinkWatch.Proxy
