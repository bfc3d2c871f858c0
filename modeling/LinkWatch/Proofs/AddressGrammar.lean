import LinkWatch.Proofs.TextCuts
import LinkWatch.Proxy.Authority
import Mathlib.Data.Bool.AllAny

/-!
# The grammar of proxy addresses

A proxy address has a host exactly when its trimmed text is an optional scheme, an authority and a
tail, and what the authority has after its user information is a proper host. The grammar is told
by what the parts look like and not by how they are found: that the first `://`, the first
delimiter and the last `@` are the right places to cut is what is shown here. The host of a host is
that host again.
-/

namespace LinkWatch.Proxy

open LinkWatch.Text

/-! ## The grammar -/

/-- What divides a scheme from the rest of an address. -/
def schemeEnd : List Char :=
  [':', '/', '/']

/-- The characters that end an authority. -/
def delimiters : List Char :=
  ['/', '?', '#']

/-- A scheme is an ASCII letter followed by ASCII letters, digits and `+ - .`. -/
def IsSchemeName (scheme : List Char) : Prop :=
  ∃ first rest, scheme = first :: rest ∧ first.isAlpha = true ∧
    ∀ c ∈ rest, c.isAlphanum = true ∨ c ∈ ['+', '-', '.']

/-- What stands before the authority: nothing in an address that has no `://` at all, or a scheme
and `://`. -/
inductive Opens (address : List Char) : List Char → Prop
  | bare (hnone : ¬ schemeEnd <:+: address) : Opens address []
  | scheme {name : List Char} (hname : IsSchemeName name) : Opens address (name ++ schemeEnd)

/-- The host of an authority is what follows its last `@`, or all of it. -/
inductive FollowsUser : List Char → List Char → Prop
  | alone {host : List Char} (hfree : '@' ∉ host) : FollowsUser host host
  | user {info host : List Char} (hfree : '@' ∉ host) : FollowsUser (info ++ '@' :: host) host

/-- ASCII digits, possibly none. -/
def IsDigits (cs : List Char) : Prop :=
  ∀ c ∈ cs, c.isDigit = true

instance (cs : List Char) : Decidable (IsDigits cs) :=
  List.decidableBAll _ cs

/-- The shapes of a host. Digits hold no colon, so a colon before them is the last one. -/
inductive HostShape : List Char → Prop
  | bracketed {inner suffix : List Char} (hne : inner ≠ []) (hfree : ']' ∉ inner)
      (hsuffix : suffix = [] ∨ ∃ port, suffix = ':' :: port ∧ IsDigits port) :
      HostShape ('[' :: (inner ++ ']' :: suffix))
  | unbracketed {host : List Char} (hopen : host.head? ≠ some '[')
      (hport : ':' ∉ host ∨ ∃ name port, host = name ++ ':' :: port ∧ IsDigits port) :
      HostShape host

/-- An address in its parts: what stands before the authority, the authority, and a tail that is
empty or begins with a delimiter. -/
structure Parts (address opening authority tail : List Char) : Prop where
  eq_append : address = opening ++ authority ++ tail
  opens : Opens address opening
  undelimited : ∀ c ∈ authority, c ∉ delimiters
  delimited : ∀ c, tail.head? = some c → c ∈ delimiters

/-- A text has a host: it is not empty, it shows no blank and no control character, it has the
shape of a host, and it is where the trimmed text has its host. -/
structure HasHost (raw host : List Char) : Prop where
  ne_nil : host ≠ []
  visible : ∀ c ∈ host, isBlank c = false ∧ isControl c = false
  shape : HostShape host
  place : ∃ opening authority tail,
    Parts (trim raw) opening authority tail ∧ FollowsUser authority host

/-! ## The parts of an address -/

theorem isSchemeChar_iff (c : Char) :
    isSchemeChar c = true ↔ c.isAlphanum = true ∨ c ∈ ['+', '-', '.'] := by
  simp only [isSchemeChar, Bool.or_eq_true, beq_iff_eq, List.mem_cons, List.not_mem_nil, or_false,
    or_assoc]

/-- The test of a scheme decides the grammar of scheme names. -/
theorem isScheme_iff (scheme : List Char) : isScheme scheme = true ↔ IsSchemeName scheme := by
  cases scheme with
  | nil => exact ⟨fun h => (Bool.false_ne_true h).elim, fun ⟨_, _, h, _⟩ => by cases h⟩
  | cons first rest =>
    rw [isScheme, Bool.and_eq_true, List.all_eq_true]
    constructor
    · rintro ⟨hfirst, hrest⟩
      exact ⟨first, rest, rfl, hfirst, fun c hc => (isSchemeChar_iff c).1 (hrest c hc)⟩
    · rintro ⟨_, _, ⟨⟩, hfirst, hrest⟩
      exact ⟨hfirst, fun c hc => (isSchemeChar_iff c).2 (hrest c hc)⟩

/-- A scheme has no colon, so the first `://` of an address ends it. -/
theorem unmarked_of_isSchemeName {scheme : List Char} (h : IsSchemeName scheme) :
    ¬ schemeEnd <:+: scheme := by
  intro hmark
  have hcolon : ':' ∈ scheme := hmark.subset (by decide)
  obtain ⟨first, rest, rfl, hfirst, hrest⟩ := h
  rcases List.mem_cons.1 hcolon with rfl | hcolon
  · exact absurd hfirst (by decide)
  · exact absurd (hrest ':' hcolon) (by decide)

/-- What ends a scheme is found at its first place, which is right behind a scheme without it. -/
theorem cut?_schemeEnd {scheme : List Char} (h : ¬ schemeEnd <:+: scheme) (rest : List Char) :
    cut? schemeEnd (scheme ++ schemeEnd ++ rest) = some (scheme, rest) :=
  cut?_append_mark (by decide) h rest

/-- Taking a scheme off leaves exactly what follows an opening of the grammar. -/
theorem withoutScheme?_eq_some_iff {address rest : List Char} :
    withoutScheme? address = some rest ↔
      ∃ opening, Opens address opening ∧ address = opening ++ rest := by
  constructor
  · intro h
    rw [withoutScheme?] at h
    cases hcut : cut? [':', '/', '/'] address with
    | none =>
      rw [hcut] at h
      cases h
      exact ⟨[], .bare ((cut?_eq_none_iff (by decide)).1 hcut), rfl⟩
    | some parts =>
      obtain ⟨scheme, after⟩ := parts
      rw [hcut] at h
      obtain ⟨hscheme, ⟨⟩⟩ := Option.ite_none_right_eq_some.1 h
      exact ⟨_, .scheme ((isScheme_iff scheme).1 hscheme), cut?_eq_append hcut⟩
  · rintro ⟨opening, hopens, haddress⟩
    cases hopens with
    | bare hnone =>
      have hcut : cut? [':', '/', '/'] address = none := (cut?_eq_none_iff (by decide)).2 hnone
      rw [withoutScheme?, hcut, haddress, List.nil_append]
    | @scheme name hname =>
      -- the mark behind a scheme is the first one of the address
      have hcut : cut? [':', '/', '/'] address = some (name, rest) := by
        rw [haddress]
        exact cut?_schemeEnd (unmarked_of_isSchemeName hname) rest
      simp only [withoutScheme?, hcut, (isScheme_iff name).2 hname, if_true]

theorem endsAuthority_iff (c : Char) : endsAuthority c = true ↔ c ∈ delimiters := by
  simp only [endsAuthority, delimiters, Bool.or_eq_true, beq_iff_eq, List.mem_cons,
    List.not_mem_nil, or_false, or_assoc]

/-- Taking the user off leaves exactly what follows a user in the grammar. -/
theorem withoutUser_eq_iff {authority host : List Char} :
    withoutUser authority = host ↔ FollowsUser authority host := by
  constructor
  · rintro rfl
    rw [withoutUser]
    cases hlast : afterLast? '@' authority with
    | none => exact .alone (afterLast?_eq_none_iff.1 hlast)
    | some host =>
      obtain ⟨info, rfl, hfree⟩ := afterLast?_eq_some_iff.1 hlast
      exact .user hfree
  · intro h
    cases h with
    | alone hfree => rw [withoutUser, afterLast?_eq_none_iff.2 hfree, Option.getD_none]
    | @user info _ hfree =>
      rw [withoutUser, afterLast?_eq_some_iff.2 ⟨info, rfl, hfree⟩, Option.getD_some]

/-- The place of the host is found exactly where the grammar has it. -/
theorem hostPart?_eq_some_iff {address host : List Char} :
    hostPart? address = some host ↔ ∃ opening authority tail,
      Parts address opening authority tail ∧ FollowsUser authority host := by
  rw [hostPart?, Option.map_eq_some_iff]
  constructor
  · rintro ⟨rest, hrest, hhost⟩
    obtain ⟨opening, hopens, haddress⟩ := withoutScheme?_eq_some_iff.1 hrest
    -- the tail is what the scan for the end of the authority leaves
    obtain ⟨tail, hauthority, hundelimited, hdelimited⟩ := takeWhile_eq_iff.1 rfl
    refine ⟨opening, _, tail, ⟨?_, hopens, ?_, ?_⟩, withoutUser_eq_iff.1 hhost⟩
    · rw [List.append_assoc, ← hauthority, haddress]
    · intro c hc hmem
      simpa [(endsAuthority_iff c).2 hmem] using hundelimited c hc
    · intro c hc
      rw [← endsAuthority_iff]
      simpa using hdelimited c hc
  · rintro ⟨opening, authority, tail, hparts, hfollows⟩
    refine ⟨authority ++ tail, ?_, ?_⟩
    · rw [withoutScheme?_eq_some_iff]
      exact ⟨opening, hparts.opens, by rw [hparts.eq_append, List.append_assoc]⟩
    · rw [← withoutUser_eq_iff.2 hfollows]
      congr 1
      refine takeWhile_eq_iff.2 ⟨tail, rfl, ?_, ?_⟩
      · intro c hc
        have hnot := mt (endsAuthority_iff c).1 (hparts.undelimited c hc)
        simpa using hnot
      · intro c hc
        simpa using (endsAuthority_iff c).2 (hparts.delimited c hc)

/-! ## The host -/

theorem isPort_iff (cs : List Char) : isPort cs = true ↔ IsDigits cs :=
  List.all_eq_true

/-- What may stand behind a bracketed address is nothing, or a colon and digits. -/
theorem isPortSuffix_iff (suffix : List Char) :
    isPortSuffix suffix = true ↔ suffix = [] ∨ ∃ port, suffix = ':' :: port ∧ IsDigits port := by
  cases suffix with
  | nil => simp [isPortSuffix]
  | cons c cs =>
    simp only [isPortSuffix, Bool.and_eq_true, beq_iff_eq, isPort_iff, List.cons.injEq]
    constructor
    · rintro ⟨rfl, hdigits⟩
      exact Or.inr ⟨cs, ⟨rfl, rfl⟩, hdigits⟩
    · rintro (h | ⟨port, ⟨rfl, rfl⟩, hdigits⟩)
      · cases h
      · exact ⟨rfl, hdigits⟩

/-- A port has no colon, so the colon before it is the last one. -/
theorem colon_not_mem_of_isDigits {port : List Char} (h : IsDigits port) : ':' ∉ port :=
  fun hmem => absurd (h ':' hmem) (by decide)

theorem all_visible_iff (cs : List Char) :
    cs.all (fun c => !isBlank c && !isControl c) = true ↔
      ∀ c ∈ cs, isBlank c = false ∧ isControl c = false := by
  simp only [List.all_eq_true, Bool.and_eq_true, Bool.not_eq_true']

/-- A text with an opening bracket is cut at its first closing bracket, and only there it can have
the shape of a host. -/
theorem isHost_bracket_iff (cs : List Char) :
    isHost ('[' :: cs) = true ↔
      (∀ c ∈ '[' :: cs, isBlank c = false ∧ isControl c = false) ∧ HostShape ('[' :: cs) := by
  rw [isHost, Bool.and_eq_true, all_visible_iff, if_pos rfl]
  refine and_congr_right fun _ => ⟨fun h => ?_, fun h => ?_⟩
  · cases hcut : cutAt? ']' cs with
    | none => simp [hcut] at h
    | some parts =>
      obtain ⟨inner, suffix⟩ := parts
      obtain ⟨rfl, hfree⟩ := cutAt?_eq_some_iff.1 hcut
      simp only [hcut, Bool.and_eq_true, bne_iff_ne] at h
      exact .bracketed h.1 hfree ((isPortSuffix_iff suffix).1 h.2)
  · cases h with
    | @bracketed inner suffix hne hfree hsuffix =>
      have hcut : cutAt? ']' (inner ++ ']' :: suffix) = some (inner, suffix) :=
        cutAt?_eq_some_iff.2 ⟨rfl, hfree⟩
      simp [hcut, hne, (isPortSuffix_iff suffix).2 hsuffix]
    | unbracketed hopen => exact absurd rfl hopen

/-- A text without an opening bracket has the shape of a host when a port follows its last colon. -/
theorem isHost_iff_of_ne {c : Char} (hc : c ≠ '[') (cs : List Char) :
    isHost (c :: cs) = true ↔
      (∀ x ∈ c :: cs, isBlank x = false ∧ isControl x = false) ∧ HostShape (c :: cs) := by
  rw [isHost, Bool.and_eq_true, all_visible_iff, if_neg hc]
  refine and_congr_right fun _ => ⟨fun h => ?_, fun h => ?_⟩
  · refine .unbracketed (by simpa using hc) ?_
    cases hlast : afterLast? ':' (c :: cs) with
    | none => exact Or.inl (afterLast?_eq_none_iff.1 hlast)
    | some port =>
      obtain ⟨name, hhost, -⟩ := afterLast?_eq_some_iff.1 hlast
      simp only [hlast] at h
      exact Or.inr ⟨name, port, hhost, (isPort_iff port).1 h⟩
  · cases h with
    | bracketed => exact absurd rfl hc
    | unbracketed _ hport =>
      rcases hport with hfree | ⟨name, port, hhost, hdigits⟩
      · simp [afterLast?_eq_none_iff.2 hfree]
      · have hlast : afterLast? ':' (c :: cs) = some port :=
          afterLast?_eq_some_iff.2 ⟨name, hhost, colon_not_mem_of_isDigits hdigits⟩
        simp [hlast, (isPort_iff port).2 hdigits]

/-- The test of a host decides the grammar of hosts. -/
theorem isHost_iff (host : List Char) :
    isHost host = true ↔
      host ≠ [] ∧ (∀ c ∈ host, isBlank c = false ∧ isControl c = false) ∧ HostShape host := by
  cases host with
  | nil => simp [isHost]
  | cons c cs =>
    have hne : c :: cs ≠ [] := List.cons_ne_nil c cs
    by_cases hc : c = '['
    · subst hc
      rw [isHost_bracket_iff, and_iff_right hne]
    · rw [isHost_iff_of_ne hc, and_iff_right hne]

/-! ## Reading an address -/

/-- A text that is not empty is read as the host of an address exactly when it is its host. -/
theorem hostChars_eq_iff {raw host : List Char} (hne : host ≠ []) :
    hostChars raw = host ↔ HasHost raw host := by
  rw [hostChars]
  constructor
  · intro h
    split at h
    case h_1 found hfound =>
      obtain ⟨hhost, rfl⟩ : isHost found = true ∧ found = host := by
        split at h
        case isTrue hhost => exact ⟨hhost, h⟩
        case isFalse => exact absurd h.symm hne
      obtain ⟨-, hvisible, hshape⟩ := (isHost_iff found).1 hhost
      exact ⟨hne, hvisible, hshape, hostPart?_eq_some_iff.1 hfound⟩
    case h_2 => exact absurd h.symm hne
  · intro h
    have hhost : isHost host = true := (isHost_iff host).2 ⟨h.ne_nil, h.visible, h.shape⟩
    rw [hostPart?_eq_some_iff.2 h.place]
    exact if_pos hhost

/-- What was found as a host holds no `@` and none of the delimiters. -/
theorem plain_of_hasHost {raw host : List Char} (h : HasHost raw host) :
    '@' ∉ host ∧ ∀ c ∈ host, c ∉ delimiters := by
  obtain ⟨opening, authority, tail, hparts, hfollows⟩ := h.place
  cases hfollows with
  | alone hfree => exact ⟨hfree, hparts.undelimited⟩
  | user hfree =>
    exact ⟨hfree, fun c hc => hparts.undelimited c (by simp [hc])⟩

/-- A text that looks like a host and holds no `@` and none of the delimiters is its own host. -/
theorem hasHost_of_plain {host : List Char} (hne : host ≠ [])
    (hvisible : ∀ c ∈ host, isBlank c = false ∧ isControl c = false) (hshape : HostShape host)
    (hfree : '@' ∉ host) (hundelimited : ∀ c ∈ host, c ∉ delimiters) : HasHost host host := by
  have htrim : trim host = host := trim_of_visible fun c hc => (hvisible c hc).1
  -- without a slash there is neither a mark nor a path, so the host is its own authority
  have hnone : ¬ schemeEnd <:+: host := fun hmark =>
    hundelimited '/' (hmark.subset (by decide)) (by decide)
  refine ⟨hne, hvisible, hshape, [], host, [], ?_, .alone hfree⟩
  rw [htrim]
  exact ⟨by simp, .bare hnone, hundelimited, by simp⟩

/-- The host of an address is its own host. -/
theorem hasHost_self {raw host : List Char} (h : HasHost raw host) : HasHost host host := by
  obtain ⟨hfree, hundelimited⟩ := plain_of_hasHost h
  exact hasHost_of_plain h.ne_nil h.visible h.shape hfree hundelimited

/-- A host is its own host. -/
theorem hostChars_hostChars (raw : List Char) : hostChars (hostChars raw) = hostChars raw := by
  by_cases hne : hostChars raw = []
  · rw [hne]
    rfl
  · have hhas : HasHost raw (hostChars raw) := (hostChars_eq_iff hne).1 rfl
    exact (hostChars_eq_iff hne).2 (hasHost_self hhas)

/-- **An address is read by its grammar.** A text that is not empty is the host that is read from
an address exactly when the grammar has it there; an address in which the grammar has no host gives
the empty text; and a host is read as itself. -/
theorem hostOf_follows_grammar (raw : String) :
    (∀ host : String, host ≠ "" → (hostOf raw = host ↔ HasHost raw.toList host.toList)) ∧
      (hostOf raw = "" ↔ ∀ host, ¬ HasHost raw.toList host) ∧
      hostOf (hostOf raw) = hostOf raw := by
  refine ⟨?_, ?_, ?_⟩
  · intro host hne
    have hchars : host.toList ≠ [] := by simpa using hne
    rw [← hostChars_eq_iff hchars, hostOf, ← String.toList_inj, String.toList_ofList]
  · have hempty : hostOf raw = "" ↔ hostChars raw.toList = [] := by
      rw [hostOf, ← String.toList_inj, String.toList_ofList]
      rfl
    rw [hempty]
    constructor
    · intro hnil host h
      exact h.ne_nil (((hostChars_eq_iff h.ne_nil).2 h).symm.trans hnil)
    · intro h
      by_contra hne
      exact h _ ((hostChars_eq_iff hne).1 rfl)
  · rw [hostOf, hostOf, String.toList_ofList, hostChars_hostChars]

/-- An address with an `@` in its password and another one in its path, and with colons on all
sides, has the bracketed host between them. -/
theorem host_between_at_signs :
    let raw := " SOCKS5://user:p@ss@[::1]:1080/a@b\t"
    "[::1]:1080" ≠ "" ∧ HasHost raw.toList "[::1]:1080".toList ∧ hostOf raw = "[::1]:1080" := by
  intro raw
  have hne : "[::1]:1080" ≠ "" := by decide
  have hshape : HostShape ('[' :: ("::1".toList ++ ']' :: ":1080".toList)) :=
    .bracketed (by decide) (by decide) (Or.inr ⟨"1080".toList, by decide, by decide⟩)
  have hparts : Parts (trim raw.toList) ("SOCKS5".toList ++ schemeEnd)
      ("user:p@ss".toList ++ '@' :: "[::1]:1080".toList) "/a@b".toList :=
    ⟨by decide, .scheme ((isScheme_iff _).1 (by decide)), List.all_iff_forall_prop.1 (by decide),
      by rintro c ⟨⟩; decide⟩
  have hhas : HasHost raw.toList "[::1]:1080".toList :=
    ⟨by decide, (all_visible_iff _).1 (by decide), hshape, _, _, _, hparts, .user (by decide)⟩
  exact ⟨hne, hhas, ((hostOf_follows_grammar raw).1 _ hne).2 hhas⟩

end LinkWatch.Proxy
