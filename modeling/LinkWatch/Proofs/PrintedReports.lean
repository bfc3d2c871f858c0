import LinkWatch.CommandLine.Screen
import LinkWatch.Proofs.JsonRecords
import LinkWatch.Proofs.WrittenDoubles

/-!
# What is printed of a report

What a printed report has to look like is told apart from how it is put together. For people it is a
heading, a row for each interface in the order of the report, and the status, each on a line of its
own. As JSON it is one line, and what stands on it is read back as a document that carries the
fields of the report.
-/

namespace LinkWatch.CommandLine

open LinkWatch.Json LinkWatch.Proxy LinkWatch.Traffic

/-! ## Columns and rows -/

/-- A text set to the right in some columns: spaces stand before it if it is shorter. -/
def SetRight (width : Nat) (text column : List Char) : Prop :=
  ∃ spaces, column = List.replicate spaces ' ' ++ text ∧ column.length = max width text.length

/-- A text set to the left in some columns: spaces stand after it if it is shorter. -/
def SetLeft (width : Nat) (text column : List Char) : Prop :=
  ∃ spaces, column = text ++ List.replicate spaces ' ' ∧ column.length = max width text.length

/-- A column shows a rate: two places, set to the right in eight columns. -/
def ShowsRate (x : Float) (column : List Char) : Prop :=
  ∃ text, Decimal.ShowsHundredths x text ∧ SetRight 8 text column

/-- A row shows an interface: its name, what it receives and sends, and its address or a dash. -/
def ShowsInterface (t : Throughput) (row : String) : Prop :=
  ∃ name receiving sending, SetLeft 10 t.name.toList name ∧
    ShowsRate t.receiving receiving ∧ ShowsRate t.sending sending ∧
    row = "  " ++ String.ofList name ++ " ↓" ++ String.ofList receiving ++ " MB/s  ↑" ++
      String.ofList sending ++ " MB/s  " ++ t.address.getD "-"

/-! ## Printed reports -/

/-- Lines of text, each with its end. -/
def linesText (lines : List String) : String :=
  String.join (lines.map (· ++ "\n"))

/-- The rows of a report: one for each interface, in order, or a remark that there are none. -/
def ShowsInterfaces (networks : List Throughput) (rows : List String) : Prop :=
  (networks = [] → rows = ["  (no active interfaces)"]) ∧
    (networks ≠ [] → List.Forall₂ ShowsInterface networks rows)

/-- A text shows a report in plain lines. -/
def ShowsPlainly (stamp : String) (r : Report) (text : String) : Prop :=
  ∃ rows, ShowsInterfaces r.networks rows ∧
    text = linesText (("=== " ++ stamp ++ " ===") :: rows ++ ["  Proxy: " ++ r.proxy.display])

/-- A node is a double: a number of its sign that rounds to it, or null if it is not finite. -/
def IsDouble (x : Float) (n : Node) : Prop :=
  let magnitude := x.toBits.toNat % 2 ^ 63
  if magnitude < 0x7ff0000000000000 then
    ∃ number, n = .number number ∧ (number.negative = true ↔ 2 ^ 63 ≤ x.toBits.toNat) ∧
      Decimal.RoundsTo number.value magnitude
  else n = .null

/-- A node is an address, or null if there is none. -/
def IsAddress (address : Option String) (n : Node) : Prop :=
  match address with
  | some text => IsText text n
  | none => n = .null

/-- A node is an array with an item for each of some values. -/
def IsArrayOf {α : Type} (tells : α → Node → Prop) (values : List α) (n : Node) : Prop :=
  ∃ items, n = .array items ∧ List.Forall₂ tells values items

/-- The fields of a throughput. -/
def throughputFields (t : Throughput) : FieldList :=
  [("name", IsText t.name), ("rx_rate_mbps", IsDouble t.receiving),
    ("tx_rate_mbps", IsDouble t.sending), ("ip", IsAddress t.address)]

/-- The fields of a report. -/
def reportFields (r : Report) : FieldList :=
  [("networks", IsArrayOf (fun t => Carries (throughputFields t)) r.networks),
    ("proxy", Carries r.proxy.fields), ("rx_history", IsArrayOf IsDouble r.received),
    ("tx_history", IsArrayOf IsDouble r.sent)]

/-- A text shows a report as one line of JSON. -/
def ShowsAsJson (r : Report) (text : String) : Prop :=
  ∃ body n, text = body ++ "\n" ∧ '\n' ∉ body.toList ∧ Node.parse? body.toList = some n ∧
    Carries (reportFields r) n

/-- A text shows a report in a style. -/
def Shows (style : Style) (stamp : String) (r : Report) (text : String) : Prop :=
  match style with
  | .plain => ShowsPlainly stamp r text
  | .json => ShowsAsJson r text

/-! ## Plain lines -/

/-- Padding on the left sets a text to the right. -/
theorem setRight_padLeft (width : Nat) (text : List Char) :
    SetRight width text (Decimal.padLeft width ' ' text) := by
  refine ⟨_, rfl, ?_⟩
  rw [Decimal.padLeft, List.length_append, List.length_replicate]
  omega

theorem setLeft_padRight (width : Nat) (text : List Char) :
    SetLeft width text (Decimal.padRight width ' ' text) := by
  refine ⟨_, rfl, ?_⟩
  rw [Decimal.padRight, List.length_append, List.length_replicate]
  omega

/-- The column of a rate shows the rate. -/
theorem showsRate_column (x : Float) : ShowsRate x (Decimal.padLeft 8 ' ' (Decimal.fixed x 2)) :=
  ⟨_, Decimal.showsHundredths_fixed x, setRight_padLeft 8 _⟩

/-- The line of an interface shows it. -/
theorem showsInterface_line (t : Throughput) :
    ∃ row, interfaceLine t = row ++ "\n" ∧ ShowsInterface t row :=
  ⟨_, rfl, _, _, _, setLeft_padRight 10 _, showsRate_column _, showsRate_column _, rfl⟩

theorem linesText_cons (first : String) (lines : List String) :
    linesText (first :: lines) = first ++ "\n" ++ linesText lines := by
  rw [linesText, List.map_cons, String.join_cons]
  rfl

theorem linesText_append (lines more : List String) :
    linesText (lines ++ more) = linesText lines ++ linesText more := by
  rw [linesText, List.map_append, String.join_append]
  rfl

/-- The lines of interfaces show them, one after another. -/
theorem showsInterface_lines (networks : List Throughput) :
    ∃ rows, String.join (networks.map interfaceLine) = linesText rows ∧
      List.Forall₂ ShowsInterface networks rows := by
  induction networks with
  | nil => exact ⟨[], rfl, .nil⟩
  | cons t networks ih =>
    obtain ⟨row, hline, hrow⟩ := showsInterface_line t
    obtain ⟨rows, hlines, hrows⟩ := ih
    refine ⟨row :: rows, ?_, .cons hrow hrows⟩
    rw [List.map_cons, String.join_cons, hline, hlines, linesText_cons]

/-- A report in plain lines shows the report. -/
theorem showsPlainly_plainReport (stamp : String) (r : Report) :
    ShowsPlainly stamp r (plainReport stamp r) := by
  obtain ⟨rows, hlines, hrows⟩ : ∃ rows, (if r.networks.isEmpty then
      line "  (no active interfaces)" else String.join (r.networks.map interfaceLine)) =
        linesText rows ∧ ShowsInterfaces r.networks rows := by
    cases hnetworks : r.networks with
    | nil => exact ⟨["  (no active interfaces)"], rfl, fun _ => rfl, fun h => absurd rfl h⟩
    | cons t networks =>
      obtain ⟨rows, hlines, hrows⟩ := showsInterface_lines (t :: networks)
      exact ⟨rows, hlines, fun h => absurd h (List.cons_ne_nil _ _), fun _ => hrows⟩
  have hstatus : "  " ++ proxyLine r.proxy = "  Proxy: " ++ r.proxy.display ++ "\n" := by
    rw [proxyLine, line, ← String.append_assoc, ← String.append_assoc]
    rfl
  refine ⟨rows, hrows, ?_⟩
  simp only [plainReport, hlines]
  rw [List.cons_append, linesText_cons, linesText_append, linesText_cons, String.append_assoc,
    String.append_assoc, hstatus, line]
  simp [linesText, String.append_assoc]

/-! ## JSON on one line -/

/-- A node is written as a text of it, on one line. -/
structure IsWritten (n : Node) : Prop where
  spells : Spells n n.compact
  oneLine : '\n' ∉ n.compact

/-- No hexadecimal digit is a line end. -/
theorem ne_of_hexUnit? {a b c d : Char} (h : (hexUnit? a b c d).isSome = true) :
    a ≠ '\n' ∧ b ≠ '\n' ∧ c ≠ '\n' ∧ d ≠ '\n' := by
  have hnone : hexValue? '\n' = none := rfl
  refine ⟨?_, ?_, ?_, ?_⟩
  all_goals
    rintro rfl
    simp [hexUnit?, hnone] at h

/-- What stands in a string has no line end. -/
theorem oneLine_of_isBody {cs : List Char} (h : IsBody cs) : '\n' ∉ cs := by
  induction h with
  | nil => exact List.not_mem_nil
  | plain _ _ hcontrol _ ih =>
    rw [List.mem_cons, not_or]
    refine ⟨?_, ih⟩
    rintro rfl
    exact absurd hcontrol (by decide)
  | @short e _ he _ ih =>
    have hne : '\n' ≠ e := by
      rintro rfl
      cases he
    simp [hne, ih]
  | @unit a b c d _ hunit _ ih =>
    obtain ⟨ha, hb, hc, hd⟩ := ne_of_hexUnit? hunit
    simp [ha.symm, hb.symm, hc.symm, hd.symm, ih]

/-- A number has no line end. -/
theorem oneLine_of_isProper {n : Numeral} (h : n.isProper = true) : '\n' ∉ n.text := by
  have hdigits {cs : List Char} (hcs : isDigits cs = true) : '\n' ∉ cs :=
    fun hmem => absurd ((isDigits_iff.1 hcs).2 _ hmem) (by decide)
  obtain ⟨negative, whole, fraction, exponent⟩ := n
  simp only [Numeral.isProper, Bool.and_eq_true] at h
  obtain ⟨⟨⟨hwhole, -⟩, hfraction⟩, hexponent⟩ := h
  have hsign : '\n' ∉ (if negative then ['-'] else []) := by
    cases negative <;> decide
  have hpoint : '\n' ∉ fraction.elim [] fun f => '.' :: f := by
    cases fraction with
    | none => exact List.not_mem_nil
    | some f =>
      rw [Option.all_some] at hfraction
      simpa using hdigits hfraction
  have hlast : '\n' ∉ exponent.elim [] Exponent.text := by
    cases exponent with
    | none => exact List.not_mem_nil
    | some e =>
      simp only [Option.all_some, Bool.and_eq_true, Bool.or_eq_true, beq_iff_eq] at hexponent
      obtain ⟨⟨hmark, hplus⟩, hvalue⟩ := hexponent
      have hmarkEnd : '\n' ≠ e.mark := by
        rcases hmark with hmark | hmark
        all_goals
          rw [hmark]
          decide
      have hsignEnd : '\n' ∉ e.sign.toList := by
        intro hmem
        rw [Option.mem_toList] at hmem
        rw [hmem] at hplus
        cases hplus
      simp [Exponent.text, hmarkEnd, hsignEnd, hdigits hvalue]
  simp only [Numeral.text, List.mem_append, not_or]
  exact ⟨⟨⟨hsign, hdigits hwhole⟩, hpoint⟩, hlast⟩

/-- Commas between texts of one line make no other line. -/
theorem oneLine_joinWith {ts : List (List Char)} (h : ∀ t ∈ ts, '\n' ∉ t) :
    '\n' ∉ joinWith [','] ts := by
  induction ts with
  | nil => exact List.not_mem_nil
  | cons t ts ih =>
    obtain ⟨hfirst, hrest⟩ := List.forall_mem_cons.1 h
    cases ts with
    | nil => exact hfirst
    | cons u ts =>
      rw [joinWith]
      simp [hfirst, ih hrest]

theorem isWritten_null : IsWritten .null := by
  constructor
  · rw [Node.compact]
    exact Spells.null
  · rw [Node.compact]
    decide

theorem isWritten_bool (b : Bool) : IsWritten (.bool b) := by
  refine ⟨spells_bool b, ?_⟩
  cases b
  all_goals
    rw [Node.compact]
    decide

/-- A text is written on one line, since its line ends are escaped. -/
theorem isWritten_ofText (s : String) : IsWritten (.ofText s) := by
  refine ⟨spells_ofText s, ?_⟩
  rw [Node.ofText, Node.compact]
  simp [quote, oneLine_of_isBody (isBody_of_escapes (escapes_escape s.toList))]

/-- Doubles are written as numbers, or as null. -/
theorem isWritten_ofFloat (x : Float) : IsWritten (.ofFloat x) := by
  rw [Node.ofFloat]
  rcases Nat.lt_or_ge (x.toBits.toNat % 2 ^ 63) 0x7ff0000000000000 with hfinite | hinfinite
  · obtain ⟨n, hn, hproper, -⟩ := exists_ofFloat? hfinite
    rw [hn]
    constructor
    · rw [Node.compact]
      exact Spells.number hproper
    · rw [Node.compact]
      exact oneLine_of_isProper hproper
  · rw [ofFloat?_eq_none hinfinite]
    exact isWritten_null

theorem compactItems_eq_map (items : List Node) : compactItems items = items.map Node.compact := by
  induction items with
  | nil => rfl
  | cons item items ih => rw [compactItems, ih, List.map_cons]

theorem compactMembers_eq_map (members : List (List Char × Node)) :
    compactMembers members = members.map fun m => quote m.1 ++ ':' :: m.2.compact := by
  induction members with
  | nil => rfl
  | cons m members ih => rw [compactMembers, ih, List.map_cons]

/-- An array is written on one line if its items are. -/
theorem isWritten_array {items : List Node} (h : ∀ n ∈ items, IsWritten n) :
    IsWritten (.array items) := by
  refine ⟨spells_compact_array fun n hn => (h n hn).spells, ?_⟩
  have hitems : '\n' ∉ joinWith [','] (compactItems items) := by
    refine oneLine_joinWith fun t ht => ?_
    rw [compactItems_eq_map] at ht
    obtain ⟨n, hn, rfl⟩ := List.mem_map.1 ht
    exact (h n hn).oneLine
  rw [Node.compact]
  simp [hitems]

/-- An object is written on one line if its members are. -/
theorem isWritten_ofMembers {members : List (String × Node)} (h : ∀ m ∈ members, IsWritten m.2) :
    IsWritten (.ofMembers members) := by
  refine ⟨spells_ofMembers fun m hm => (h m hm).spells, ?_⟩
  have hmembers : '\n' ∉ joinWith [','] (compactMembers
      (members.map fun m => (escape m.1.toList, m.2))) := by
    refine oneLine_joinWith fun t ht => ?_
    rw [compactMembers_eq_map, List.map_map] at ht
    obtain ⟨m, hm, rfl⟩ := List.mem_map.1 ht
    simp [quote, oneLine_of_isBody (isBody_of_escapes (escapes_escape m.1.toList)),
      (h m hm).oneLine]
  rw [Node.ofMembers, Node.compact]
  simp [hmembers]

/-! ## The document of a report -/

theorem isWritten_status (s : Status) : IsWritten s.toNode := by
  apply isWritten_ofMembers
  simp only [List.forall_mem_cons]
  exact ⟨isWritten_bool _, isWritten_ofText _, isWritten_ofText _, List.forall_mem_nil _⟩

theorem isWritten_throughput (t : Throughput) : IsWritten t.toNode := by
  have haddress : IsWritten (t.address.elim .null .ofText) := by
    cases t.address with
    | none => exact isWritten_null
    | some text => exact isWritten_ofText text
  apply isWritten_ofMembers
  simp only [List.forall_mem_cons]
  exact ⟨isWritten_ofText _, isWritten_ofFloat _, isWritten_ofFloat _, haddress,
    List.forall_mem_nil _⟩

/-- Values are written on one line if each of them is. -/
theorem isWritten_map {α : Type} {write : α → Node} (h : ∀ a, IsWritten (write a))
    (values : List α) : IsWritten (.array (values.map write)) := by
  refine isWritten_array fun n hn => ?_
  obtain ⟨a, -, rfl⟩ := List.mem_map.1 hn
  exact h a

/-- A report is written on one line. -/
theorem isWritten_report (r : Report) : IsWritten r.toNode := by
  apply isWritten_ofMembers
  simp only [List.forall_mem_cons]
  exact ⟨isWritten_map isWritten_throughput _, isWritten_status _,
    isWritten_map isWritten_ofFloat _, isWritten_map isWritten_ofFloat _, List.forall_mem_nil _⟩

theorem isArrayOf_map {α : Type} {tells : α → Node → Prop} {write : α → Node}
    (h : ∀ a, tells a (write a)) (values : List α) :
    IsArrayOf tells values (.array (values.map write)) := by
  refine ⟨_, rfl, ?_⟩
  rw [List.forall₂_map_right_iff, List.forall₂_same]
  exact fun a _ => h a

/-- What is written for a double is the double. -/
theorem isDouble_ofFloat (x : Float) : IsDouble x (.ofFloat x) := by
  unfold IsDouble
  extract_lets magnitude
  rw [Node.ofFloat]
  split
  case isTrue hfinite =>
    obtain ⟨n, hn, -, hsign, hrounds⟩ := exists_ofFloat? hfinite
    rw [hn]
    exact ⟨n, rfl, hsign, hrounds⟩
  case isFalse hinfinite =>
    rw [ofFloat?_eq_none (Nat.le_of_not_lt hinfinite)]

/-- What is written for a throughput carries its fields. -/
theorem carries_throughput (t : Throughput) : Carries (throughputFields t) t.toNode := by
  have haddress : IsAddress t.address (t.address.elim .null .ofText) := by
    cases t.address with
    | none => rfl
    | some text => exact isText_ofText text
  exact carries_ofMembers (.cons ⟨rfl, isText_ofText _⟩ (.cons ⟨rfl, isDouble_ofFloat _⟩
    (.cons ⟨rfl, isDouble_ofFloat _⟩ (.cons ⟨rfl, haddress⟩ .nil))))

/-- What is written for a report carries its fields. -/
theorem carries_report (r : Report) : Carries (reportFields r) r.toNode := by
  have hdoubles (xs : List Float) : IsArrayOf IsDouble xs (.array (xs.map .ofFloat)) :=
    isArrayOf_map isDouble_ofFloat xs
  exact carries_ofMembers (.cons ⟨rfl, isArrayOf_map carries_throughput _⟩
    (.cons ⟨rfl, carries_status _⟩ (.cons ⟨rfl, hdoubles _⟩ (.cons ⟨rfl, hdoubles _⟩ .nil))))

/-- The document of a report on a line of its own shows the report. -/
theorem showsAsJson_text (r : Report) : ShowsAsJson r (line r.toNode.text) := by
  have hwritten := isWritten_report r
  refine ⟨r.toNode.text, r.toNode, rfl, ?_, parse?_of_isTextOf (isTextOf_text hwritten.spells),
    carries_report r⟩
  rw [Node.text, String.toList_ofList]
  exact hwritten.oneLine

/-- **What is printed of a report shows it.** -/
theorem shows_reportText (style : Style) (stamp : String) (r : Report) :
    Shows style stamp r (reportText style stamp r) := by
  cases style with
  | plain => exact showsPlainly_plainReport stamp r
  | json => exact showsAsJson_text r

/-- What shows a report is not empty and ends with a line end. -/
theorem exists_line_of_shows {style : Style} {stamp : String} {r : Report} {text : String}
    (h : Shows style stamp r text) : ∃ before, text = before ++ "\n" := by
  cases style with
  | plain =>
    obtain ⟨rows, -, rfl⟩ := h
    refine ⟨linesText (("=== " ++ stamp ++ " ===") :: rows) ++ ("  Proxy: " ++ r.proxy.display), ?_⟩
    simp [linesText, String.append_assoc]
  | json =>
    obtain ⟨body, -, rfl, -⟩ := h
    exact ⟨body, rfl⟩

end LinkWatch.CommandLine
