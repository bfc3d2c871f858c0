import LinkWatch.Proofs.DictionaryEntries

/-!
# Dictionaries that were cut short

A dictionary text that was cut at a line end has some of the entries of the whole text and no
others. So a kind that is on in it is on in the whole text, and its host is the one that the whole
text has for this kind, perhaps without the port, or it is what stands for a missing host.
-/

namespace LinkWatch.Proxy

open LinkWatch.Text

/-! ## Entries that were lost -/

/-- A dictionary has the entries of another one, apart from some that were lost. -/
def Entries.Within (d whole : Entries) : Prop :=
  ∀ key, d key ≠ [] → whole key = d key

/-- What stands for a host that is missing. -/
def placeholder? : Kind → Option String
  | .socks | .https | .http => some "System Proxy"
  | .pac => some "PAC"
  | .wpad | .tun | .absent => none

/-- How the host of a kind may differ from the one of the whole dictionary: not at all, in that the
port was lost, or in that the host was lost. -/
inductive KeepsHost (kind : Kind) : String → String → Prop
  | same {host : String} : KeepsHost kind host host
  | portLost {host port : String} (hne : port ≠ "") (hdigits : IsDigits port.toList) :
      KeepsHost kind host (host ++ ":" ++ port)
  | hostLost {shown host : String} (hshown : placeholder? kind = some shown) :
      KeepsHost kind shown host

variable {d whole : Entries}

/-- Where a kind is set by hand, a part of a dictionary may have lost the port or the host. -/
theorem keepsHost_manualHost (h : d.Within whole) {kind : Kind}
    (hkind : placeholder? kind = some "System Proxy") :
    KeepsHost kind (d.manualHost kind) (whole.manualHost kind) := by
  by_cases hproxy : d (kind.name ++ "Proxy") = []
  · -- without a proxy the placeholder is shown
    have hshown : d.manualHost kind = "System Proxy" := by simp [Entries.manualHost, hproxy]
    rw [hshown]
    exact .hostLost hkind
  · have hsame := h _ hproxy
    by_cases hport : d (kind.name ++ "Port") = []
    · have hhost : d.manualHost kind = String.ofList (d (kind.name ++ "Proxy")) := by
        simp [Entries.manualHost, hproxy, hport]
      rw [hhost, Entries.manualHost, hsame, if_neg hproxy]
      split
      case isTrue hdigits =>
        have hwhole : String.ofList (d (kind.name ++ "Proxy") ++ ':' :: whole (kind.name ++ "Port"))
            = String.ofList (d (kind.name ++ "Proxy")) ++ ":" ++
              String.ofList (whole (kind.name ++ "Port")) := by
          rw [← String.toList_inj]
          simp
        rw [hwhole]
        exact .portLost (by simpa using hdigits.1) (by simpa using hdigits.2)
      case isFalse => exact .same
    · rw [Entries.manualHost, Entries.manualHost, hsame, h _ hport]
      exact .same

/-- Where there is a script, a part of a dictionary may have lost the host. -/
theorem keepsHost_scriptHost (h : d.Within whole) :
    KeepsHost .pac d.scriptHost whole.scriptHost := by
  by_cases hurl : d "ProxyAutoConfigURLString" = []
  · have hshown : d.scriptHost = "PAC" := by
      rw [Entries.scriptHost, hurl]
      rfl
    rw [hshown]
    exact .hostLost rfl
  · rw [Entries.scriptHost, Entries.scriptHost, h _ hurl]
    exact .same

/-- Discovery has no host that could be lost, and all other kinds keep theirs. -/
theorem keepsHost_host (h : d.Within whole) {kind : Kind} (hkind : kind ∈ precedence) :
    KeepsHost kind (d.host kind) (whole.host kind) := by
  cases kind with
  | socks | https | http => exact keepsHost_manualHost h rfl
  | pac =>
    rw [host_pac, host_pac]
    exact keepsHost_scriptHost h
  | wpad => exact .same
  | tun | absent => exact absurd hkind (by decide)

/-- A dictionary tells a kind when its switch is on, and then with the host of the kind. -/
theorem status?_eq_some_iff {kind : Kind} {s : Status} :
    d.status? kind = some s ↔
      ∃ key, switchKey? kind = some key ∧ d key = ['1'] ∧ .found kind (d.host kind) = s := by
  simp only [Entries.status?, Option.bind_eq_some_iff, Option.ite_none_right_eq_some,
    Option.some.injEq]

theorem kind_of_status? {kind : Kind} {s : Status} (h : d.status? kind = some s) :
    s.kind = kind := by
  obtain ⟨key, -, -, rfl⟩ := status?_eq_some_iff.1 h
  rfl

/-- A kind that is on stays on in the whole dictionary. -/
theorem status?_within (h : d.Within whole) {kind : Kind} {s : Status}
    (hs : d.status? kind = some s) :
    whole.status? kind = some (.found kind (whole.host kind)) := by
  obtain ⟨key, hswitch, hon, -⟩ := status?_eq_some_iff.1 hs
  have hne : d key ≠ [] := by simp [hon]
  exact status?_eq_some_iff.2 ⟨key, hswitch, (h key hne).trans hon, rfl⟩

/-- The whole dictionary asks for a kind that does not come later. -/
theorem findSome?_within (h : d.Within whole) {kinds : List Kind} {s : Status}
    (hs : kinds.findSome? d.status? = some s) :
    ∃ t, kinds.findSome? whole.status? = some t ∧ whole.status? t.kind = some t ∧
      kinds.idxOf t.kind ≤ kinds.idxOf s.kind := by
  induction kinds with
  | nil => cases hs
  | cons kind kinds ih =>
    rw [findSome?_cons_eq_or] at hs ⊢
    cases hwhole : whole.status? kind with
    | some t =>
      have hkind := kind_of_status? hwhole
      refine ⟨t, Option.some_or, by rw [hkind, hwhole], ?_⟩
      rw [hkind, List.idxOf_cons_self]
      exact Nat.zero_le _
    | none =>
      -- the first kind is on in neither dictionary, so both go on to the others
      have hd : d.status? kind = none := by
        rw [Option.eq_none_iff_forall_ne_some]
        intro s hs
        rw [status?_within h hs] at hwhole
        cases hwhole
      rw [hd, Option.none_or] at hs
      obtain ⟨t, ht, hown, hle⟩ := ih hs
      obtain ⟨other, -, hother⟩ := List.exists_of_findSome?_eq_some hs
      have hs_ne : kind ≠ s.kind := by
        rintro rfl
        rw [kind_of_status? hother, hother] at hd
        cases hd
      have ht_ne : kind ≠ t.kind := by
        rintro rfl
        rw [hown] at hwhole
        cases hwhole
      refine ⟨t, ht, hown, ?_⟩
      rw [List.idxOf_cons_ne _ hs_ne, List.idxOf_cons_ne _ ht_ne]
      exact Nat.succ_le_succ hle

/-! ## Texts -/

/-- A text has the entries of any text that it begins, apart from those that come later. -/
theorem entriesOfText_within (text rest : List Char) :
    (entriesOfText text).Within (entriesOfText (text ++ '\n' :: rest)) := by
  intro key hkey
  rw [entriesOfText, value] at hkey
  rw [entriesOfText, entriesOfText, value, value, value?_append]
  cases hvalue : value? text key.toList with
  | none => simp [hvalue] at hkey
  | some found => rfl

/-- What a text asks for before and after it was cut: the kind is one that the whole text has on,
with a host that is kept from there; and the whole text asks for this kind or for one that comes
before it. -/
structure OnlyLoses (whole : String) (cut : Status) : Prop where
  own : ∃ own, (entriesOfText whole.toList).status? cut.kind = some own ∧
    KeepsHost cut.kind cut.host own.host
  asks : ∃ s, fromDictionary whole = some s ∧ cut.kind ∈ precedence ∧
    precedence.idxOf s.kind ≤ precedence.idxOf cut.kind ∧
    (s.kind = cut.kind → KeepsHost cut.kind cut.host s.host)

/-- **A dictionary that was cut short only loses.** Whatever is on in a text is on in every text
that goes on after it, and what the text asks for, if anything, is what the longer one has for the
same kind, without what was lost of its host. -/
theorem cut_dictionary_only_loses (text rest : String) :
    let whole := text ++ "\n" ++ rest
    (∀ key : String, isOn text.toList key.toList = true → isOn whole.toList key.toList = true) ∧
      ∀ s, fromDictionary text = some s → OnlyLoses whole s := by
  intro whole
  have hwhole : whole.toList = text.toList ++ '\n' :: rest.toList := by
    simp [whole, String.toList_append]
  have hwithin : (entriesOfText text.toList).Within (entriesOfText whole.toList) := by
    rw [hwhole]
    exact entriesOfText_within text.toList rest.toList
  refine ⟨fun key hon => ?_, fun s hs => ?_⟩
  · rw [isOn, beq_iff_eq] at hon ⊢
    exact (hwithin key (by simp [entriesOfText, hon])).trans hon
  · rw [fromDictionary, dictionaryStatus?_eq] at hs
    obtain ⟨kind, hkind, hstatus⟩ := List.exists_of_findSome?_eq_some hs
    obtain ⟨key, hswitch, hon, rfl⟩ := status?_eq_some_iff.1 hstatus
    have hown := status?_within hwithin hstatus
    have hkeeps := keepsHost_host hwithin hkind
    obtain ⟨t, ht, htown, hle⟩ := findSome?_within hwithin hs
    refine ⟨⟨_, hown, hkeeps⟩, t, ?_, hkind, hle, ?_⟩
    · rw [fromDictionary, dictionaryStatus?_eq, Entries.decision?, ht]
    · intro hsame
      -- the whole text asks for the same kind, so for what it has under this kind
      rw [hsame] at htown
      obtain rfl := Option.some.inj (hown.symm.trans htown)
      exact hkeeps

/-- A text that was cut in front of the port, and in front of a kind that comes before its own. -/
theorem cut_before_port_and_kind :
    let text := "<dictionary> \x7b\r\n  HTTPEnable : 1\r\n  HTTPProxy : proxy"
    let rest := "  HTTPPort : 3128\n  SOCKSEnable : 1\n\x7d"
    isOn text.toList "HTTPEnable".toList = true ∧
      isOn (text ++ "\n" ++ rest).toList "HTTPEnable".toList = true ∧
      fromDictionary text = some (.found .http "proxy") ∧
      OnlyLoses (text ++ "\n" ++ rest) (.found .http "proxy") := by
  intro text rest
  obtain ⟨hon, honly⟩ := cut_dictionary_only_loses text rest
  have htext : fromDictionary text = some (.found .http "proxy") := by decide +kernel
  have henable : isOn text.toList "HTTPEnable".toList = true := by decide
  exact ⟨henable, hon "HTTPEnable" henable, htext, honly _ htext⟩

end LinkWatch.Proxy
