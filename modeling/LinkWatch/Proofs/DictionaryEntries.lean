import LinkWatch.Proofs.AddressGrammar
import LinkWatch.Proofs.DistinctKeys
import LinkWatch.Proxy.Dictionary

/-!
# What a dictionary asks for

A text of the system's proxy dictionary asks for what its entries ask for: the first of the kinds
in their order of precedence that is on, with its host. The entries are read from lines of any
indentation, with any other lines between them; of several lines with one key the first counts.
-/

namespace LinkWatch.Proxy

open LinkWatch.Text

/-! ## The decision -/

/-- The keys that are looked up in a dictionary. -/
def consultedKeys : List String := [
  "SOCKSEnable", "SOCKSProxy", "SOCKSPort",
  "HTTPSEnable", "HTTPSProxy", "HTTPSPort",
  "HTTPEnable", "HTTPProxy", "HTTPPort",
  "ProxyAutoConfigEnable", "ProxyAutoConfigURLString", "ProxyAutoDiscoveryEnable"]

/-- The kinds that a dictionary can ask for, in order of precedence. -/
def precedence : List Kind :=
  [.socks, .https, .http, .pac, .wpad]

/-- What a dictionary has under its keys; a key without an entry has the empty text. -/
abbrev Entries := String → List Char

/-- The host of a kind that is set by hand: the proxy, with its port if that is a number. -/
def Entries.manualHost (d : Entries) (kind : Kind) : String :=
  let proxy := d (kind.name ++ "Proxy")
  let port := d (kind.name ++ "Port")
  if proxy = [] then "System Proxy"
  else if port ≠ [] ∧ IsDigits port then String.ofList (proxy ++ ':' :: port)
  else String.ofList proxy

/-- The host of a configuration script: that of its address. -/
def Entries.scriptHost (d : Entries) : String :=
  let host := hostOf (String.ofList (d "ProxyAutoConfigURLString"))
  if host = "" then "PAC" else host

/-- The host of a kind, or what is shown in its place. -/
def Entries.host (d : Entries) : Kind → String
  | .pac => d.scriptHost
  | .wpad => "Auto Discovery"
  | kind => d.manualHost kind

theorem host_pac (d : Entries) : d.host .pac = d.scriptHost := rfl

/-- The key that turns a kind on. -/
def switchKey? : Kind → Option String
  | .pac => some "ProxyAutoConfigEnable"
  | .wpad => some "ProxyAutoDiscoveryEnable"
  | .tun | .absent => none
  | kind => some (kind.name ++ "Enable")

/-- The status that the entries of one kind ask for, if it is on. -/
def Entries.status? (d : Entries) (kind : Kind) : Option Status :=
  (switchKey? kind).bind fun key =>
    if d key = ['1'] then some (.found kind (d.host kind)) else none

/-- The status that a dictionary asks for: that of the first kind that is on. -/
def Entries.decision? (d : Entries) : Option Status :=
  precedence.findSome? d.status?

/-- The host of a kind depends on the consulted keys only. -/
theorem host_congr {d other : Entries} (h : ∀ key ∈ consultedKeys, d key = other key)
    {kind : Kind} (hkind : kind ∈ precedence) : d.host kind = other.host kind := by
  have hmanual (hproxy : kind.name ++ "Proxy" ∈ consultedKeys)
      (hport : kind.name ++ "Port" ∈ consultedKeys) :
      d.manualHost kind = other.manualHost kind := by
    rw [Entries.manualHost, Entries.manualHost, h _ hproxy, h _ hport]
  cases kind with
  | socks | https | http => exact hmanual (by decide) (by decide)
  | pac =>
    have hurl := h "ProxyAutoConfigURLString" (by decide)
    rw [host_pac, host_pac, Entries.scriptHost, Entries.scriptHost, hurl]
  | wpad => rfl
  | tun | absent => exact absurd hkind (by decide)

/-- Only the keys that are looked up matter to the decision. -/
theorem decision?_congr {d other : Entries} (h : ∀ key ∈ consultedKeys, d key = other key) :
    d.decision? = other.decision? := by
  have hswitch : ∀ kind ∈ precedence, ∀ key, switchKey? kind = some key → key ∈ consultedKeys := by
    decide
  have hstatus : ∀ kind ∈ precedence, d.status? kind = other.status? kind := by
    intro kind hkind
    rw [Entries.status?, Entries.status?, host_congr h hkind]
    cases hkey : switchKey? kind with
    | none => rfl
    | some key => rw [Option.bind_some, Option.bind_some, h key (hswitch kind hkind key hkey)]
  rw [Entries.decision?, Entries.decision?, ← List.head?_filterMap, ← List.head?_filterMap,
    List.filterMap_congr hstatus]

/-! ## Lines of a text -/

theorem findSome?_cons_eq_or {α β : Type} (f : α → Option β) (a : α) (as : List α) :
    (a :: as).findSome? f = (f a).or (as.findSome? f) := by
  rw [List.findSome?_cons]
  cases f a <;> rfl

/-- What stands between a key and its value. -/
def keyEnd : List Char :=
  [' ', ':']

/-- The value of a key in one line. -/
def lineValue? (key line : List Char) : Option (List Char) :=
  (stripPrefix? (key ++ keyEnd) (trim line)).map trim

/-- A blank line tells nothing. -/
theorem lineValue?_of_blank (key : List Char) {line : List Char}
    (h : ∀ c ∈ line, isBlank c = true) : lineValue? key line = none := by
  rw [lineValue?, trim_of_blank h]
  cases key <;> rfl

theorem lineValue?_nil (key : List Char) : lineValue? key [] = none :=
  lineValue?_of_blank key fun _ hc => absurd hc List.not_mem_nil

/-- What a line tells depends on what is left of it without blanks around it. -/
theorem lineValue?_congr (key : List Char) {line other : List Char} (h : trim line = trim other) :
    lineValue? key line = lineValue? key other := by
  rw [lineValue?, h, ← lineValue?]

/-- The value of a key is that in the first piece that has one. -/
theorem value?_eq (text key : List Char) :
    value? text key = (pieces '\n' text).findSome? (lineValue? key) := by
  have hnil : (stripPrefix? (key ++ keyEnd) []).map trim = none := lineValue?_nil key
  exact findSome?_lines (f := fun line => (stripPrefix? (key ++ keyEnd) line).map trim) hnil text

/-- Lines behind a text only matter to the keys that it has no line for. -/
theorem value?_append (first second key : List Char) :
    value? (first ++ '\n' :: second) key = (value? first key).or (value? second key) := by
  rw [value?_eq, pieces_append, List.findSome?_append, ← value?_eq, ← value?_eq]

theorem value?_of_blank {text : List Char} (h : ∀ c ∈ text, isBlank c = true) (key : List Char) :
    value? text key = none := by
  rw [value?_eq, List.findSome?_eq_none_iff]
  intro piece hpiece
  exact lineValue?_of_blank key fun c hc => h c (mem_of_mem_pieces hpiece hc)

theorem trim_value (text key : List Char) : trim (value text key) = value text key := by
  rw [value]
  cases hvalue : value? text key with
  | none => rfl
  | some found =>
    obtain ⟨line, -, hline⟩ := List.exists_of_findSome?_eq_some hvalue
    obtain ⟨rest, -, rfl⟩ := Option.map_eq_some_iff.1 hline
    exact trim_trim rest

/-! ## The decision on a text -/

/-- The entries that are looked up in a text. -/
def entriesOfText (text : List Char) : Entries := fun key =>
  value text key.toList

/-- The host and port of a kind set by hand: the port is shown only if it is a number. -/
theorem hostOr_joinChars {proxy port : List Char} (hproxy : trim proxy = proxy)
    (hport : trim port = port) :
    hostOr "System Proxy" (joinChars proxy port) =
      if proxy = [] then "System Proxy"
      else if port ≠ [] ∧ IsDigits port then String.ofList (proxy ++ ':' :: port)
      else String.ofList proxy := by
  simp only [joinChars, hproxy, hport, hostOr, Bool.and_eq_true, decide_eq_true_eq, isPort_iff]
  by_cases hnil : proxy = []
  · simp [hnil]
  · by_cases hdigits : port ≠ [] ∧ IsDigits port
    · simp [hnil, hdigits]
    · simp [hnil, hdigits]

/-- The host of a script is that of its URL, or a placeholder. -/
theorem hostOr_hostChars (url : List Char) :
    hostOr "PAC" (hostChars url) =
      if hostOf (String.ofList url) = "" then "PAC" else hostOf (String.ofList url) := by
  rw [hostOf, String.toList_ofList, hostOr]
  simp

/-- The keys of a kind are its name and what the entry is for. -/
theorem manualStatus?_eq (text : List Char) {keys : ManualKeys} (hmem : keys ∈ manualKeys) :
    manualStatus? text keys = (entriesOfText text).status? keys.kind := by
  have hhost (host port : String) :=
    hostOr_joinChars (trim_value text host.toList) (trim_value text port.toList)
  simp only [manualStatus?, isOn, beq_iff_eq, hhost]
  simp only [manualKeys, List.mem_cons, List.not_mem_nil, or_false] at hmem
  rcases hmem with rfl | rfl | rfl <;> rfl

/-- What is told of a script, by the entries of the dictionary. -/
theorem scriptStatus?_eq (text : List Char) :
    scriptStatus? text = (entriesOfText text).status? .pac := by
  simp only [scriptStatus?, isOn, beq_iff_eq, hostOr_hostChars]
  rfl

theorem discoveryStatus?_eq (text : List Char) :
    discoveryStatus? text = (entriesOfText text).status? .wpad := by
  simp only [discoveryStatus?, isOn, beq_iff_eq]
  rfl

/-- A blank text has no entries. -/
theorem decision?_of_blank {text : List Char} (h : isBlankText text = true) :
    (entriesOfText text).decision? = none := by
  have hempty : entriesOfText text = fun _ => [] := by
    funext key
    rw [entriesOfText, value, value?_of_blank (List.all_eq_true.1 h)]
    rfl
  rw [hempty]
  rfl

/-- A text asks for what its entries ask for. -/
theorem dictionaryStatus?_eq (text : List Char) :
    dictionaryStatus? text = (entriesOfText text).decision? := by
  rw [dictionaryStatus?]
  split
  case isTrue hblank => exact (decision?_of_blank hblank).symm
  case isFalse =>
    have hmanual : manualKeys.findSome? (manualStatus? text) =
        [Kind.socks, .https, .http].findSome? (entriesOfText text).status? := by
      have hkinds : [Kind.socks, .https, .http] = manualKeys.map ManualKeys.kind := rfl
      rw [hkinds, List.findSome?_map, ← List.head?_filterMap, ← List.head?_filterMap,
        List.filterMap_congr fun keys hmem => manualStatus?_eq text hmem]
      rfl
    have hrest : (scriptStatus? text).or (discoveryStatus? text) =
        [Kind.pac, .wpad].findSome? (entriesOfText text).status? := by
      rw [scriptStatus?_eq, discoveryStatus?_eq, findSome?_cons_eq_or, findSome?_cons_eq_or,
        List.findSome?_nil, Option.or_none]
    rw [hmanual, hrest, ← List.findSome?_append]
    rfl

/-! ## Lines with their ends -/

/-- What ends a line. -/
inductive LineEnd where
  | feed
  | returnAndFeed
  deriving DecidableEq

/-- The text of a line's end. -/
def LineEnd.text : LineEnd → List Char
  | .feed => ['\n']
  | .returnAndFeed => ['\r', '\n']

/-- The text of lines with their ends; the end of the last line is left out. -/
def joinLines : List (List Char × LineEnd) → List Char
  | [] => []
  | [(line, _)] => line
  | (line, lineEnd) :: next :: more => line ++ lineEnd.text ++ joinLines (next :: more)

theorem value?_of_line {line : List Char} (h : '\n' ∉ line) (key : List Char) :
    value? line key = lineValue? key line := by
  rw [value?_eq, pieces_of_not_mem h, findSome?_cons_eq_or, List.findSome?_nil, Option.or_none]

/-- The value of a key is that in the first line that has one, whatever ends the lines. -/
theorem value?_joinLines {lines : List (List Char × LineEnd)}
    (h : ∀ line ∈ lines, '\n' ∉ line.1) (key : List Char) :
    value? (joinLines lines) key = lines.findSome? fun line => lineValue? key line.1 := by
  induction lines with
  | nil => exact value?_of_blank (fun c hc => absurd hc List.not_mem_nil) key
  | cons line rest ih =>
    obtain ⟨text, lineEnd⟩ := line
    have htext : '\n' ∉ text := h _ List.mem_cons_self
    cases rest with
    | nil =>
      rw [joinLines, value?_of_line htext, findSome?_cons_eq_or, List.findSome?_nil,
        Option.or_none]
    | cons next more =>
      -- a carriage return in front of the line feed belongs to the line, where it is trimmed away
      obtain ⟨extra, hextra, hend⟩ : ∃ extra, (∀ c ∈ extra, isBlank c = true ∧ c ≠ '\n') ∧
          text ++ lineEnd.text = (text ++ extra) ++ ['\n'] := by
        cases lineEnd with
        | feed => exact ⟨[], by simp, by simp [LineEnd.text]⟩
        | returnAndFeed =>
          exact ⟨['\r'], List.forall_mem_singleton.2 (by decide), by simp [LineEnd.text]⟩
      have hline : '\n' ∉ text ++ extra := by
        rw [List.mem_append, not_or]
        exact ⟨htext, fun hmem => (hextra _ hmem).2 rfl⟩
      have htrim : trim (text ++ extra) = trim text :=
        trim_append_of_blank text fun c hc => (hextra c hc).1
      rw [joinLines, hend, List.append_assoc, List.singleton_append, value?_append,
        value?_of_line hline, lineValue?_congr key htrim,
        ih fun line hmem => h line (List.mem_cons_of_mem _ hmem),
        findSome?_cons_eq_or _ (text, lineEnd)]

/-! ## Entries as lines -/

/-- Blank text within a line. -/
def IsGap (cs : List Char) : Prop :=
  ∀ c ∈ cs, isBlank c = true ∧ c ≠ '\n'

instance (cs : List Char) : Decidable (IsGap cs) :=
  List.decidableBAll _ cs

/-- A key stands within a line, has no blank ends, and holds nothing that would end it. -/
structure IsKey (key : List Char) : Prop where
  ne_nil : key ≠ []
  oneLine : '\n' ∉ key
  unmarked : ¬ keyEnd <:+: key
  starts : ∀ c, key.head? = some c → isBlank c = false
  ends : ∀ c, key.getLast? = some c → isBlank c = false

instance (key : List Char) : Decidable (IsKey key) :=
  decidable_of_iff
    (key ≠ [] ∧ '\n' ∉ key ∧ ¬ keyEnd <:+: key ∧
      (key.head?.all fun c => !isBlank c) = true ∧ (key.getLast?.all fun c => !isBlank c) = true)
    ⟨fun ⟨hne, hline, hmark, hstarts, hends⟩ => ⟨hne, hline, hmark,
        by simpa [Option.all_eq_true] using hstarts, by simpa [Option.all_eq_true] using hends⟩,
      fun ⟨hne, hline, hmark, hstarts, hends⟩ => ⟨hne, hline, hmark,
        by simpa [Option.all_eq_true] using hstarts, by simpa [Option.all_eq_true] using hends⟩⟩

/-- A line that binds a value to a key, with blank text on all sides. -/
structure Binding where
  indent : List Char
  key : List Char
  gap : List Char
  value : List Char
  tail : List Char
  isKey : IsKey key
  indent_isGap : IsGap indent
  gap_isGap : IsGap gap
  tail_isGap : IsGap tail
  value_oneLine : '\n' ∉ value

/-- The text of a binding. -/
def Binding.text (b : Binding) : List Char :=
  b.indent ++ b.key ++ keyEnd ++ b.gap ++ b.value ++ b.tail

/-- Any other line, in which none of the keys that are looked up is bound. -/
structure Remark where
  text : List Char
  oneLine : '\n' ∉ text
  foreign : ∀ key ∈ consultedKeys, ¬ key.toList ++ keyEnd <+: trim text

/-- A line of a dump. -/
inductive DumpLine where
  | binding (b : Binding)
  | remark (r : Remark)

/-- The text of a line. -/
def DumpLine.text : DumpLine → List Char
  | .binding b => b.text
  | .remark r => r.text

/-- A printed dictionary: its lines with their ends. -/
abbrev Dump := List (DumpLine × LineEnd)

/-- The text of a dump. -/
def Dump.text (dump : Dump) : List Char :=
  joinLines (dump.map fun line => (line.1.text, line.2))

/-- The key and the trimmed value that a line binds. -/
def DumpLine.bound? : DumpLine → Option (List Char × List Char)
  | .binding b => some (b.key, trim b.value)
  | .remark _ => none

/-- The keys and the trimmed values that a dump binds, in its order. -/
def Dump.bound (dump : Dump) : List (List Char × List Char) :=
  dump.filterMap fun line => line.1.bound?

/-- The entries of a dump: of several values of one key the first counts. -/
def Dump.entries (dump : Dump) : Entries := fun key =>
  (dump.bound.lookup key.toList).getD []

/-- What a dump binds to the keys that are looked up. -/
def Dump.consulted (dump : Dump) : List (List Char × List Char) :=
  dump.bound.filter fun entry => entry.1 ∈ consultedKeys.map String.toList

/-- A line has one key only, because a key does not contain what ends it. -/
theorem key_inj {key other a b : List Char} (hkey : ¬ keyEnd <:+: key)
    (hother : ¬ keyEnd <:+: other) (h : key ++ keyEnd ++ a = other ++ keyEnd ++ b) :
    key = other ∧ a = b := by
  have hcut : cut? keyEnd (key ++ keyEnd ++ a) = some (key, a) :=
    cut?_append_mark (by decide) hkey a
  have hcut' : cut? keyEnd (other ++ keyEnd ++ b) = some (other, b) :=
    cut?_append_mark (by decide) hother b
  rw [h, hcut'] at hcut
  cases hcut
  exact ⟨rfl, rfl⟩

/-- Trimming a binding leaves the blank text between its key and its value. -/
theorem trim_bindingText (b : Binding) :
    trim b.text = b.key ++ keyEnd ++ trimEnd (b.gap ++ b.value ++ b.tail) := by
  obtain ⟨first, rest, hkey⟩ := List.exists_cons_of_ne_nil b.isKey.ne_nil
  have hfirst : isBlank first = false := b.isKey.starts first (by rw [hkey]; rfl)
  have hindent : ∀ c ∈ b.indent, isBlank c = true := fun c hc => (b.indent_isGap c hc).1
  have hkeyStart : trimStart (b.indent ++ b.key ++ [' ']) = b.key ++ [' '] := by
    rw [List.append_assoc, trimStart_append_of_blank hindent, hkey, List.cons_append]
    exact trimStart_append_cons hfirst [] _
  calc trim b.text
      = trim (b.indent ++ b.key ++ [' '] ++ ':' :: (b.gap ++ b.value ++ b.tail)) := by
        simp [Binding.text, keyEnd]
    _ = b.key ++ [' '] ++ ':' :: trimEnd (b.gap ++ b.value ++ b.tail) := by
        rw [trim_append_cons (by decide), hkeyStart]
    _ = b.key ++ keyEnd ++ trimEnd (b.gap ++ b.value ++ b.tail) := by simp [keyEnd]

/-- A binding has a value for its own key alone, whatever keys begin like it. -/
theorem lineValue?_binding (b : Binding) {key : List Char} (hkey : ¬ keyEnd <:+: key) :
    lineValue? key b.text = if key = b.key then some (trim b.value) else none := by
  rw [lineValue?, trim_bindingText]
  split
  case isTrue heq =>
    have hgap : ∀ c ∈ b.gap, isBlank c = true := fun c hc => (b.gap_isGap c hc).1
    have htail : ∀ c ∈ b.tail, isBlank c = true := fun c hc => (b.tail_isGap c hc).1
    rw [heq, stripPrefix?_eq_some_iff.2 rfl, Option.map_some, trim_trimEnd,
      trim_append_of_blank _ htail, trim_of_blank_append hgap]
  case isFalse hne =>
    rw [Option.map_eq_none_iff, Option.eq_none_iff_forall_ne_some]
    intro rest hrest
    exact hne (key_inj hkey b.isKey.unmarked (stripPrefix?_eq_some_iff.1 hrest).symm).1

/-- No consulted key contains what ends a key. -/
theorem unmarked_of_consulted : ∀ key ∈ consultedKeys, ¬ keyEnd <:+: key.toList := by
  decide

theorem oneLine_of_isGap {cs : List Char} (h : IsGap cs) : '\n' ∉ cs :=
  fun hmem => (h _ hmem).2 rfl

theorem oneLine_dumpLine (line : DumpLine) : '\n' ∉ line.text := by
  cases line with
  | binding b =>
    have hend : '\n' ∉ keyEnd := by decide
    simp only [DumpLine.text, Binding.text, List.mem_append, not_or]
    exact ⟨⟨⟨⟨⟨oneLine_of_isGap b.indent_isGap, b.isKey.oneLine⟩, hend⟩,
      oneLine_of_isGap b.gap_isGap⟩, b.value_oneLine⟩, oneLine_of_isGap b.tail_isGap⟩
  | remark r => exact r.oneLine

theorem oneLine_dumpLines (dump : Dump) :
    ∀ line ∈ dump.map fun line => (line.1.text, line.2), '\n' ∉ line.1 := by
  intro line hmem
  obtain ⟨line, -, rfl⟩ := List.mem_map.1 hmem
  exact oneLine_dumpLine line.1

/-- A line in which no binding of a key stands has no value for it. -/
theorem lineValue?_remark {r : Remark} {key : List Char}
    (h : ¬ key ++ keyEnd <+: trim r.text) : lineValue? key r.text = none := by
  rw [lineValue?, Option.map_eq_none_iff, Option.eq_none_iff_forall_ne_some]
  intro rest hrest
  exact h ⟨rest, (stripPrefix?_eq_some_iff.1 hrest).symm⟩

/-- A line has a value for a key exactly when it binds it. -/
theorem lineValue?_dumpLine (line : DumpLine) {key : List Char} (hkey : ¬ keyEnd <:+: key)
    (hforeign : ∀ r, line = .remark r → ¬ key ++ keyEnd <+: trim r.text) :
    lineValue? key line.text =
      line.bound?.bind fun entry => if key = entry.1 then some entry.2 else none := by
  cases line with
  | binding b => exact lineValue?_binding b hkey
  | remark r => exact lineValue?_remark (hforeign r rfl)

/-- What is looked up in the text of a dump is found in what the dump binds, unless another line
looks like a binding of the key. -/
theorem value?_dumpText (dump : Dump) {key : List Char} (hkey : ¬ keyEnd <:+: key)
    (hforeign : ∀ line ∈ dump, ∀ r, line.1 = .remark r → ¬ key ++ keyEnd <+: trim r.text) :
    value? dump.text key = dump.bound.lookup key := by
  rw [Dump.text, value?_joinLines (oneLine_dumpLines dump), List.findSome?_map]
  -- line by line, the search in the texts finds what the lookup finds in the bound values
  induction dump with
  | nil => rfl
  | cons line dump ih =>
    obtain ⟨hfirst, hrest⟩ := List.forall_mem_cons.1 hforeign
    have hline : lineValue? key line.1.text = _ := lineValue?_dumpLine line.1 hkey hfirst
    rw [findSome?_cons_eq_or, ih hrest, Function.comp_apply, hline, Dump.bound, Dump.bound,
      List.filterMap_cons]
    cases line.1.bound? with
    | none => rfl
    | some entry =>
      obtain ⟨bound, found⟩ := entry
      rw [Option.bind_some, List.lookup_cons]
      by_cases heq : key = bound
      · simp [heq]
      · simp [heq, beq_false_of_ne heq]

/-! ## What matters in a dump -/

/-- The entries of a dump at the consulted keys, by a look-up among its bindings of these. -/
theorem entries_eq_lookup_consulted (dump : Dump) {key : String} (hkey : key ∈ consultedKeys) :
    dump.entries key = (dump.consulted.lookup key.toList).getD [] := by
  rw [Dump.entries, Dump.consulted, lookup_filter (List.mem_map_of_mem hkey)]

/-- The text of a dump asks for what its entries ask for. -/
theorem fromDictionary_dumpText (dump : Dump) :
    fromDictionary (String.ofList dump.text) = dump.entries.decision? := by
  rw [fromDictionary, String.toList_ofList, dictionaryStatus?_eq]
  apply decision?_congr
  intro key hkey
  have hvalue : value? dump.text key.toList = dump.bound.lookup key.toList :=
    value?_dumpText dump (unmarked_of_consulted key hkey) fun _ _ r _ => r.foreign key hkey
  rw [entriesOfText, value, hvalue, Dump.entries]

/-- Two dumps in which the same is found for the keys that are looked up ask for the same. -/
theorem fromDictionary_congr {dump other : Dump}
    (h : ∀ key ∈ consultedKeys,
      dump.consulted.lookup key.toList = other.consulted.lookup key.toList) :
    fromDictionary (String.ofList other.text) = fromDictionary (String.ofList dump.text) := by
  rw [fromDictionary_dumpText, fromDictionary_dumpText]
  apply decision?_congr
  intro key hkey
  rw [entries_eq_lookup_consulted other hkey, entries_eq_lookup_consulted dump hkey, h key hkey]

/-- **A dump asks for what its entries ask for.** The status is decided by the first value that the
dump binds to each key. Indentation, foreign keys, other lines and the ends of the lines have no
part in it, nor has the order of lines with distinct keys. -/
theorem dump_asks_by_entries (dump : Dump) :
    fromDictionary (String.ofList dump.text) = dump.entries.decision? ∧
      (∀ other : Dump, other.consulted = dump.consulted →
        fromDictionary (String.ofList other.text) = fromDictionary (String.ofList dump.text)) ∧
      ∀ other : Dump, dump.consulted.Perm other.consulted →
        (dump.consulted.map Prod.fst).Nodup →
        fromDictionary (String.ofList other.text) = fromDictionary (String.ofList dump.text) := by
  refine ⟨fromDictionary_dumpText dump, ?_, ?_⟩
  · intro other h
    exact fromDictionary_congr fun key _ => by rw [h]
  · intro other hperm hdistinct
    exact fromDictionary_congr fun key _ => lookup_perm hperm hdistinct key.toList

/-- A proxy whose name holds the mark of a key is named by two bindings, in a printed dictionary
and, the other way round, without its bracket and its indentation. -/
theorem bindings_read_in_two_orders :
    let enable : Binding :=
      ⟨"  ".toList, "HTTPSEnable".toList, " ".toList, "1".toList, "\t".toList,
        by decide, by decide, by decide, by decide, by decide⟩
    let proxy : Binding :=
      ⟨[], "HTTPSProxy".toList, [], " a :b".toList, [],
        by decide, by decide, by decide, by decide, by decide⟩
    let bracket : Remark := ⟨"<dictionary> \x7b".toList, by decide, by decide⟩
    let dump : Dump :=
      [(.remark bracket, .feed), (.binding enable, .returnAndFeed), (.binding proxy, .feed)]
    let other : Dump := [(.binding proxy, .feed), (.binding enable, .feed)]
    dump.consulted.Perm other.consulted ∧ (dump.consulted.map Prod.fst).Nodup ∧
      fromDictionary (String.ofList dump.text) = some (.found .https "a :b") ∧
      fromDictionary (String.ofList other.text) = some (.found .https "a :b") := by
  intro enable proxy bracket dump other
  have hperm : dump.consulted.Perm other.consulted := by decide
  have hdistinct : (dump.consulted.map Prod.fst).Nodup := by decide
  obtain ⟨hstatus, -, hreordered⟩ := dump_asks_by_entries dump
  have hdecision : dump.entries.decision? = some (.found .https "a :b") := by decide
  refine ⟨hperm, hdistinct, hstatus.trans hdecision, ?_⟩
  rw [hreordered other hperm hdistinct, hstatus, hdecision]

end LinkWatch.Proxy
