import LinkWatch.Document.Proxy
import LinkWatch.Document.Settings
import LinkWatch.Document.Traffic
import LinkWatch.Proofs.JsonSpelling
import Mathlib.Data.List.Forall2
import Mathlib.Data.List.Nodup

/-!
# Records are read back from their documents

What a document says is told apart from how it is read: it is an object in which each field of a
record stands once, in any order and spelled in any way, among members of other names. Every text of
such a document is read as the record, and the compact text of the record is one of them. A document
in which a field stands twice is refused.
-/

namespace LinkWatch.Json

/-! ## What a document says -/

/-- A node is a string of a text, however it is escaped. -/
def IsText (s : String) (n : Node) : Prop :=
  ∃ body, n = .string body ∧ Escapes s.toList body

/-- A node is a natural number: its decimal digits, without sign, fraction and exponent. -/
def IsNatural (u : UInt64) (n : Node) : Prop :=
  n = .number ⟨false, Nat.toDigits 10 u.toNat, none, none⟩

/-- A node is a truth value. -/
def IsTruth (b : Bool) (n : Node) : Prop :=
  n = .bool b

/-- A node is an array of texts. -/
def IsTexts (ss : List String) (n : Node) : Prop :=
  ∃ items, n = .array items ∧ List.Forall₂ IsText ss items

/-- The fields of a record: their names, and what their values have to be. -/
abbrev FieldList := List (String × (Node → Prop))

/-- A member has a field's name, however it is escaped, and its value. -/
def StandsFor (field : String × (Node → Prop)) (m : List Char × Node) : Prop :=
  Escapes field.1.toList m.1 ∧ field.2 m.2

/-- A node is an object that carries some fields: in any order each of them once, and further
members with other names. -/
def Carries (fields : FieldList) (n : Node) : Prop :=
  ∃ members known unknown, n = .object members ∧ members.Perm (known ++ unknown) ∧
    List.Forall₂ StandsFor fields known ∧
    ∀ m ∈ unknown, ∃ name, Escapes name m.1 ∧ ∀ field ∈ fields, field.1.toList ≠ name

/-- A node is an object in which a member of one of some names is followed by another one of the
same name. -/
def Repeats (names : List String) (n : Node) : Prop :=
  ∃ name ∈ names, ∃ before first between second after,
    n = .object (before ++ first :: between ++ second :: after) ∧
      Escapes name.toList first.1 ∧ Escapes name.toList second.1

/-! ## Values -/

/-- A string of a text is read as the text. -/
theorem text?_of_isText {s : String} {n : Node} (h : IsText s n) : n.text? = some s := by
  obtain ⟨body, rfl, hbody⟩ := h
  rw [Node.text?, unescape?_of_escapes hbody, Option.map_some, String.ofList_toList]

theorem natural?_of_isNatural {u : UInt64} {n : Node} (h : IsNatural u n) :
    n.natural? = some u := by
  obtain rfl := h
  have hlt : u.toNat < UInt64.size := u.toNat_lt
  simp [Node.natural?, Numeral.natural?, digitsValue_toDigits, hlt]

theorem bool?_of_isTruth {b : Bool} {n : Node} (h : IsTruth b n) : n.bool? = some b := by
  obtain rfl := h
  rfl

/-- If each of some values is read, all are. -/
theorem mapM_eq_some {α β : Type} {f : α → Option β} {as : List α} {bs : List β}
    (h : List.Forall₂ (fun a b => f a = some b) as bs) : as.mapM f = some bs := by
  induction h with
  | nil => rfl
  | cons hhead _ ih =>
    rw [List.mapM_cons, hhead, ih]
    rfl

theorem list?_of_isTexts {ss : List String} {n : Node} (h : IsTexts ss n) :
    Node.list? Node.text? n = some ss := by
  obtain ⟨items, rfl, hitems⟩ := h
  exact mapM_eq_some (hitems.flip.imp fun _ _ => text?_of_isText)

/-! ## Members -/

/-- The text of a member's name. -/
def keyText (m : List Char × Node) : List Char :=
  (unescape? m.1).getD []

theorem keyText_of_escapes {m : List Char × Node} {name : List Char} (h : Escapes name m.1) :
    keyText m = name := by
  rw [keyText, unescape?_of_escapes h]
  rfl

/-- The members of an object with the texts of their names. -/
def named (members : List (List Char × Node)) : List (List Char × Node) :=
  members.map fun m => (keyText m, m.2)

/-- What an object gives for some names, by a look-up of each name among its members. -/
theorem fields?_object {members : List (List Char × Node)} {names : List String}
    (hkeys : ∀ m ∈ members, ∃ name, unescape? m.1 = some name) :
    (Node.object members).fields? names =
      (names.mapM fun name => memberOf? (named members) name.toList).map fun values =>
        ⟨false, values⟩ := by
  have hnamed : (members.mapM fun m => (unescape? m.1).map fun key => (key, m.2)) =
      some (named members) := by
    apply mapM_eq_some
    rw [named, List.forall₂_map_right_iff, List.forall₂_same]
    intro m hm
    obtain ⟨name, hname⟩ := hkeys m hm
    rw [keyText, hname]
    rfl
  rw [Node.fields?, hnamed]
  simp only [Option.bind_eq_bind, Option.bind_some]
  cases names.mapM fun name => memberOf? (named members) name.toList with
  | none => rfl
  | some values => rfl

/-- Among members of different names just one has the name of one of them. -/
theorem filter_eq_singleton {known : List (List Char × Node)} (h : (known.map (·.1)).Nodup)
    {m : List Char × Node} (hm : m ∈ known) : known.filter (·.1 == m.1) = [m] := by
  induction known with
  | nil => cases hm
  | cons first known ih =>
    rw [List.map_cons, List.nodup_cons, List.mem_map] at h
    obtain ⟨hfirst, hrest⟩ := h
    rcases List.mem_cons.1 hm with rfl | hm
    · have hnone : known.filter (·.1 == m.1) = [] := by
        rw [List.filter_eq_nil_iff]
        intro other hother heq
        exact hfirst ⟨other, hother, by simpa using heq⟩
      rw [List.filter_cons_of_pos (by simp), hnone]
    · have hne : (first.1 == m.1) = false := by
        rw [beq_eq_false_iff_ne]
        exact fun heq => hfirst ⟨m, hm, heq.symm⟩
      rw [List.filter_cons_of_neg (by simp [hne]), ih hrest hm]

/-- The one member of a name, among members of different names and others. -/
theorem memberOf?_of_perm {members known unknown : List (List Char × Node)}
    (hperm : members.Perm (known ++ unknown)) (hknown : (known.map (·.1)).Nodup)
    {m : List Char × Node} (hm : m ∈ known) (hunknown : ∀ other ∈ unknown, other.1 ≠ m.1) :
    memberOf? members m.1 = some (some m.2) := by
  have hnone : unknown.filter (·.1 == m.1) = [] := by
    rw [List.filter_eq_nil_iff]
    intro other hother heq
    exact hunknown other hother (by simpa using heq)
  have hfilter : (members.filter (·.1 == m.1)).Perm [m] := by
    have hboth := hperm.filter (·.1 == m.1)
    rwa [List.filter_append, hnone, List.append_nil, filter_eq_singleton hknown hm] at hboth
  rw [memberOf?, List.perm_singleton.1 hfilter]

/-- Lists that are related item by item are so with all that their items are. -/
theorem forall₂_mem {α β : Type} {r : α → β → Prop} {as : List α} {bs : List β}
    (h : List.Forall₂ r as bs) : List.Forall₂ (fun a b => r a b ∧ a ∈ as ∧ b ∈ bs) as bs := by
  induction h with
  | nil => exact .nil
  | cons hhead _ ih =>
    refine .cons ⟨hhead, List.mem_cons_self, List.mem_cons_self⟩ (ih.imp fun a b hab => ?_)
    exact ⟨hab.1, List.mem_cons_of_mem _ hab.2.1, List.mem_cons_of_mem _ hab.2.2⟩

/-- Members that stand for fields have their names. -/
theorem map_keyText {fields : FieldList} {known : List (List Char × Node)}
    (h : List.Forall₂ StandsFor fields known) :
    known.map keyText = fields.map fun field => field.1.toList := by
  induction h with
  | nil => rfl
  | cons hhead _ ih =>
    rw [List.map_cons, List.map_cons, ih, keyText_of_escapes hhead.1]

/-- The names in an object that carries fields are texts. -/
theorem exists_name_of_mem {fields : FieldList} {known : List (List Char × Node)}
    (h : List.Forall₂ StandsFor fields known) {m : List Char × Node} (hm : m ∈ known) :
    ∃ name, unescape? m.1 = some name := by
  induction h with
  | nil => cases hm
  | cons hhead _ ih =>
    rcases List.mem_cons.1 hm with rfl | hm
    · exact ⟨_, unescape?_of_escapes hhead.1⟩
    · exact ih hm

/-- An object that carries fields of different names gives their values in order. -/
theorem fields?_of_carries {fields : FieldList} {names : List String} {n : Node}
    (h : Carries fields n) (hfields : fields.map (·.1) = names) (hnames : names.Nodup) :
    ∃ values, n.fields? names = some ⟨false, values.map some⟩ ∧
      List.Forall₂ (fun field value => field.2 value) fields values := by
  subst hfields
  obtain ⟨members, known, unknown, rfl, hperm, hknown, hunknown⟩ := h
  have hkeys : ∀ m ∈ members, ∃ name, unescape? m.1 = some name := by
    intro m hm
    rcases List.mem_append.1 (hperm.mem_iff.1 hm) with hm | hm
    · exact exists_name_of_mem hknown hm
    · obtain ⟨name, hname, -⟩ := hunknown m hm
      exact ⟨name, unescape?_of_escapes hname⟩
  have hnamed : (named members).Perm (named known ++ named unknown) := by
    have hmap := hperm.map fun m => (keyText m, m.2)
    rwa [List.map_append] at hmap
  have hnodup : ((named known).map (·.1)).Nodup := by
    have htexts : (named known).map (·.1) = (fields.map (·.1)).map String.toList := by
      rw [named, List.map_map, List.map_map]
      exact map_keyText hknown
    rw [htexts]
    exact List.Nodup.map (fun _ _ => String.toList_inj.1) hnames
  -- a field's name is found among the known members once, and among the unknown ones never
  have hmember : ∀ field m, StandsFor field m ∧ field ∈ fields ∧ m ∈ known →
      memberOf? (named members) field.1.toList = some (some m.2) := by
    rintro field m ⟨hfield, hmem, hm⟩
    have hkey : keyText m = field.1.toList := keyText_of_escapes hfield.1
    have hothers : ∀ other ∈ named unknown, other.1 ≠ keyText m := by
      intro other hother
      obtain ⟨u, hu, rfl⟩ := List.mem_map.1 hother
      obtain ⟨name, hname, hne⟩ := hunknown u hu
      rw [keyText_of_escapes hname, hkey]
      exact fun heq => hne field hmem heq.symm
    rw [← hkey]
    exact @memberOf?_of_perm _ _ _ hnamed hnodup (keyText m, m.2) (List.mem_map_of_mem hm) hothers
  refine ⟨known.map (·.2), ?_, ?_⟩
  · have hvalues : ((fields.map (·.1)).mapM fun name => memberOf? (named members) name.toList) =
        some ((known.map (·.2)).map some) := by
      apply mapM_eq_some
      rw [List.map_map, List.forall₂_map_left_iff, List.forall₂_map_right_iff]
      exact (forall₂_mem hknown).imp hmember
    rw [fields?_object hkeys, hvalues, Option.map_some]
  · rw [List.forall₂_map_right_iff]
    exact hknown.imp fun _ _ h => h.2

theorem mapM_eq_none {α β : Type} {f : α → Option β} {as : List α} {a : α} (ha : a ∈ as)
    (h : f a = none) : as.mapM f = none := by
  induction as with
  | nil => cases ha
  | cons first as ih =>
    rw [List.mapM_cons]
    rcases List.mem_cons.1 ha with rfl | ha
    · rw [h]
      rfl
    · rw [ih ha]
      cases f first <;> rfl

/-- A name that is no text spoils the whole object. -/
theorem fields?_of_no_text {members : List (List Char × Node)} {m : List Char × Node}
    (hm : m ∈ members) (hkey : unescape? m.1 = none) (names : List String) :
    (Node.object members).fields? names = none := by
  have hnone : ((unescape? m.1).map fun key => (key, m.2)) = none := by
    rw [hkey]
    rfl
  rw [Node.fields?, mapM_eq_none hm hnone]
  rfl

/-- There is no one member of a name that stands twice. -/
theorem memberOf?_of_two (before between after : List (List Char × Node))
    {first second : List Char × Node} {name : List Char} (hfirst : first.1 = name)
    (hsecond : second.1 = name) :
    memberOf? (before ++ first :: between ++ second :: after) name = none := by
  have hlength : 2 ≤ ((before ++ first :: between ++ second :: after).filter
      (·.1 == name)).length := by
    simp [List.filter_append, hfirst, hsecond]
    omega
  rw [memberOf?]
  split
  case h_1 heq =>
    rw [heq] at hlength
    simp at hlength
  case h_2 heq =>
    rw [heq] at hlength
    simp at hlength
  case h_3 => rfl

/-- An object in which one of the fields stands twice is no record. -/
theorem fields?_of_repeats {names : List String} {n : Node} (h : Repeats names n) :
    n.fields? names = none := by
  obtain ⟨name, hname, before, first, between, second, after, rfl, hfirst, hsecond⟩ := h
  -- a name that cannot be unescaped is refused before the fields are looked for
  by_cases hkeys : ∀ m ∈ before ++ first :: between ++ second :: after,
      ∃ name, unescape? m.1 = some name
  · have hnone : memberOf? (named (before ++ first :: between ++ second :: after)) name.toList =
        none := by
      rw [named, List.map_append, List.map_append, List.map_cons, List.map_cons]
      exact memberOf?_of_two _ _ _ (keyText_of_escapes hfirst) (keyText_of_escapes hsecond)
    rw [fields?_object hkeys, mapM_eq_none hname hnone, Option.map_none]
  · push Not at hkeys
    obtain ⟨m, hm, hkey⟩ := hkeys
    exact fields?_of_no_text hm (Option.eq_none_iff_forall_ne_some.2 hkey) names

/-- A member of an object is the one of its name, or there is no such one. -/
theorem memberOf?_of_mem {members : List (List Char × Node)} {m : List Char × Node}
    (hm : m ∈ members) :
    memberOf? members m.1 = some (some m.2) ∨ memberOf? members m.1 = none := by
  have hmem : m ∈ members.filter (·.1 == m.1) := List.mem_filter.2 ⟨hm, by simp⟩
  rw [memberOf?]
  split
  case h_1 heq =>
    rw [heq] at hmem
    cases hmem
  case h_2 heq =>
    rw [heq] at hmem
    rw [List.mem_singleton.1 hmem]
    exact Or.inl rfl
  case h_3 => exact Or.inr rfl

end LinkWatch.Json

namespace LinkWatch

open LinkWatch.Json LinkWatch.Proxy LinkWatch.Traffic

/-! ## Records -/

/-- The fields of a status. The kind goes under `type`. -/
def Proxy.Status.fields (s : Status) : FieldList :=
  [("enabled", IsTruth s.enabled), ("type", IsText s.kind.name), ("host", IsText s.host)]

/-- The fields of a counter. -/
def Traffic.Counter.fields (c : Counter) : FieldList :=
  [("name", IsText c.name), ("rx_bytes", IsNatural c.received), ("tx_bytes", IsNatural c.sent)]

/-- The fields of the sampling section. -/
def Sampling.fields (s : Sampling) : FieldList :=
  [("interval_ms", IsNatural s.interval), ("top_interfaces", IsNatural s.topInterfaces),
    ("trend_capacity", IsNatural s.trendCapacity),
    ("extra_noise_prefixes", IsTexts s.extraNoise)]

/-- The fields of the detection section. -/
def Detection.fields (d : Detection) : FieldList :=
  [("query_timeout_ms", IsNatural d.queryTimeout), ("poll_interval_ms", IsNatural d.pollInterval),
    ("system_query", IsTruth d.systemQuery)]

/-- The fields of the settings, which are its sections. -/
def Settings.fields (s : Settings) : FieldList :=
  [("sampling", Carries s.sampling.fields), ("proxy", Carries s.detection.fields)]

/-- A field stands twice among the sections, or twice within one of them. -/
def RepeatsSetting (n : Node) : Prop :=
  Repeats Settings.fieldNames n ∨
    ∃ members m, n = .object members ∧ m ∈ members ∧
      (Escapes "sampling".toList m.1 ∧ Repeats Sampling.fieldNames m.2 ∨
        Escapes "proxy".toList m.1 ∧ Repeats Detection.fieldNames m.2)

theorem ofNode?_kind {k : Kind} {n : Node} (h : IsText k.name n) : Kind.ofNode? n = some k := by
  obtain ⟨body, rfl, hbody⟩ := h
  rw [Kind.ofNode?, unescape?_of_escapes hbody, Option.bind_some, String.ofList_toList,
    ofName?_name]

/-- A node that carries the fields of a status is read as the status. -/
theorem ofNode?_status {s : Status} {n : Node} (h : Carries s.fields n) :
    Status.ofNode? n = some s := by
  obtain ⟨values, hfields, hvalues⟩ :=
    fields?_of_carries h (rfl : _ = Status.fieldNames) (by decide)
  rcases hvalues with _ | ⟨henabled, _ | ⟨hkind, _ | ⟨hhost, _ | _⟩⟩⟩
  rw [Status.ofNode?, hfields]
  simp only [List.map_cons, List.map_nil, Option.bind_eq_bind, Option.bind_some, required?,
    bool?_of_isTruth henabled, ofNode?_kind hkind, text?_of_isText hhost]
  rfl

theorem ofNode?_counter {c : Counter} {n : Node} (h : Carries c.fields n) :
    Counter.ofNode? n = some c := by
  obtain ⟨values, hfields, hvalues⟩ :=
    fields?_of_carries h (rfl : _ = Counter.fieldNames) (by decide)
  rcases hvalues with _ | ⟨hname, _ | ⟨hreceived, _ | ⟨hsent, _ | _⟩⟩⟩
  rw [Counter.ofNode?, hfields]
  simp only [List.map_cons, List.map_nil, Option.bind_eq_bind, Option.bind_some, required?,
    text?_of_isText hname, natural?_of_isNatural hreceived, natural?_of_isNatural hsent]
  rfl

theorem ofNode?_sampling {s : Sampling} {n : Node} (h : Carries s.fields n) :
    Sampling.ofNode? n = some s := by
  obtain ⟨values, hfields, hvalues⟩ :=
    fields?_of_carries h (rfl : _ = Sampling.fieldNames) (by decide)
  rcases hvalues with _ | ⟨hinterval, _ | ⟨htop, _ | ⟨hcapacity, _ | ⟨hextra, _ | _⟩⟩⟩⟩
  rw [Sampling.ofNode?, hfields]
  simp only [List.map_cons, List.map_nil, Option.bind_eq_bind, Option.bind_some, orDefault?,
    natural?_of_isNatural hinterval, natural?_of_isNatural htop,
    natural?_of_isNatural hcapacity, list?_of_isTexts hextra]
  rfl

theorem ofNode?_detection {d : Detection} {n : Node} (h : Carries d.fields n) :
    Detection.ofNode? n = some d := by
  obtain ⟨values, hfields, hvalues⟩ :=
    fields?_of_carries h (rfl : _ = Detection.fieldNames) (by decide)
  rcases hvalues with _ | ⟨htimeout, _ | ⟨hpoll, _ | ⟨hquery, _ | _⟩⟩⟩
  rw [Detection.ofNode?, hfields]
  simp only [List.map_cons, List.map_nil, Option.bind_eq_bind, Option.bind_some, orDefault?,
    natural?_of_isNatural htimeout, natural?_of_isNatural hpoll, bool?_of_isTruth hquery]
  rfl

/-- A node that carries settings is read as these. -/
theorem ofNode?_settings {s : Settings} {n : Node} (h : Carries s.fields n) :
    Settings.ofNode? n = some s := by
  obtain ⟨values, hfields, hvalues⟩ :=
    fields?_of_carries h (rfl : _ = Settings.fieldNames) (by decide)
  rcases hvalues with _ | ⟨hsampling, _ | ⟨hdetection, _ | _⟩⟩
  rw [Settings.ofNode?, hfields]
  simp only [List.map_cons, List.map_nil, Option.bind_eq_bind, Option.bind_some, orDefault?,
    ofNode?_sampling hsampling, ofNode?_detection hdetection]
  rfl

/-- An object is read as settings by its sections, each of which is found and read. -/
theorem ofNode?_settings_object {members : List (List Char × Node)}
    (hkeys : ∀ m ∈ members, ∃ name, unescape? m.1 = some name) :
    Settings.ofNode? (.object members) =
      ((memberOf? (named members) "sampling".toList).bind (orDefault? {} Sampling.ofNode?)).bind
        fun s => ((memberOf? (named members) "proxy".toList).bind
          (orDefault? {} Detection.ofNode?)).map fun d => ⟨s, d⟩ := by
  rw [Settings.ofNode?, fields?_object hkeys, Settings.fieldNames, List.mapM_cons, List.mapM_cons,
    List.mapM_nil]
  cases memberOf? (named members) "sampling".toList with
  | none => rfl
  | some sampling =>
    simp only [Option.bind_eq_bind, Option.bind_some, Option.pure_def]
    cases memberOf? (named members) "proxy".toList with
    | none => simp only [Option.bind_none, Option.map_none, Option.bind_fun_none]
    | some detection =>
      simp only [Option.bind_some, Option.map_some]
      cases orDefault? {} Sampling.ofNode? sampling with
      | none => rfl
      | some s =>
        cases orDefault? {} Detection.ofNode? detection with
        | none => rfl
        | some d => rfl

/-- A section is not read when one of the members with its name is refused. -/
theorem section_eq_none {α : Type} {usual : α} {read : Node → Option α}
    {members : List (List Char × Node)} {m : List Char × Node} (hm : m ∈ members)
    {name : List Char} (hkey : Escapes name m.1) (hread : read m.2 = none) :
    (memberOf? (named members) name).bind (orDefault? usual read) = none := by
  have hnamed : (keyText m, m.2) ∈ named members := List.mem_map_of_mem hm
  have hmember := memberOf?_of_mem hnamed
  rw [keyText_of_escapes hkey] at hmember
  rcases hmember with hone | hmany
  · rw [hone, Option.bind_some, orDefault?, hread]
  · rw [hmany, Option.bind_none]

/-- A node that tells a setting twice is not read. -/
theorem ofNode?_of_repeatsSetting {n : Node} (h : RepeatsSetting n) :
    Settings.ofNode? n = none := by
  rcases h with h | ⟨members, m, rfl, hm, hsection⟩
  · rw [Settings.ofNode?, fields?_of_repeats h]
    rfl
  · by_cases hkeys : ∀ m ∈ members, ∃ name, unescape? m.1 = some name
    · rw [ofNode?_settings_object hkeys]
      rcases hsection with ⟨hkey, hrepeats⟩ | ⟨hkey, hrepeats⟩
      · have hread : Sampling.ofNode? m.2 = none := by
          rw [Sampling.ofNode?, fields?_of_repeats hrepeats]
          rfl
        rw [section_eq_none hm hkey hread, Option.bind_none]
      · have hread : Detection.ofNode? m.2 = none := by
          rw [Detection.ofNode?, fields?_of_repeats hrepeats]
          rfl
        simp only [section_eq_none hm hkey hread, Option.map_none, Option.bind_fun_none]
    · push Not at hkeys
      obtain ⟨m, hm, hkey⟩ := hkeys
      rw [Settings.ofNode?, fields?_of_no_text hm (Option.eq_none_iff_forall_ne_some.2 hkey)]
      rfl

/-! ## Written records -/

/-- What is written for a text is a string of it. -/
theorem isText_ofText (s : String) : IsText s (.ofText s) :=
  ⟨escape s.toList, rfl, escapes_escape s.toList⟩

theorem isNatural_ofNat (u : UInt64) : IsNatural u (.ofNat u.toNat) :=
  rfl

theorem isTexts_map_ofText (ss : List String) : IsTexts ss (.array (ss.map .ofText)) := by
  refine ⟨_, rfl, ?_⟩
  rw [List.forall₂_map_right_iff, List.forall₂_same]
  exact fun s _ => isText_ofText s

/-- A written object carries the fields whose names and values it is made of. -/
theorem carries_ofMembers {fields : FieldList} {members : List (String × Node)}
    (h : List.Forall₂ (fun field m => field.1 = m.1 ∧ field.2 m.2) fields members) :
    Carries fields (.ofMembers members) := by
  refine ⟨_, members.map fun m => (escape m.1.toList, m.2), [], rfl, by simp, ?_, by simp⟩
  rw [List.forall₂_map_right_iff]
  refine h.imp fun field m hm => ⟨?_, hm.2⟩
  rw [hm.1]
  exact escapes_escape _

/-- What is written for a status carries its fields. -/
theorem carries_status (s : Status) : Carries s.fields s.toNode :=
  carries_ofMembers (.cons ⟨rfl, rfl⟩ (.cons ⟨rfl, isText_ofText _⟩
    (.cons ⟨rfl, isText_ofText _⟩ .nil)))

theorem carries_counter (c : Counter) : Carries c.fields c.toNode :=
  carries_ofMembers (.cons ⟨rfl, isText_ofText _⟩ (.cons ⟨rfl, isNatural_ofNat _⟩
    (.cons ⟨rfl, isNatural_ofNat _⟩ .nil)))

theorem carries_sampling (s : Sampling) : Carries s.fields s.toNode :=
  carries_ofMembers (.cons ⟨rfl, isNatural_ofNat _⟩ (.cons ⟨rfl, isNatural_ofNat _⟩
    (.cons ⟨rfl, isNatural_ofNat _⟩ (.cons ⟨rfl, isTexts_map_ofText _⟩ .nil))))

theorem carries_detection (d : Detection) : Carries d.fields d.toNode :=
  carries_ofMembers (.cons ⟨rfl, isNatural_ofNat _⟩ (.cons ⟨rfl, isNatural_ofNat _⟩
    (.cons ⟨rfl, rfl⟩ .nil)))

theorem carries_settings (s : Settings) : Carries s.fields s.toNode :=
  carries_ofMembers (.cons ⟨rfl, carries_sampling _⟩ (.cons ⟨rfl, carries_detection _⟩ .nil))

theorem spells_status (s : Status) : Spells s.toNode s.toNode.compact := by
  apply spells_ofMembers
  simp only [List.forall_mem_cons]
  exact ⟨spells_bool _, spells_ofText _, spells_ofText _, List.forall_mem_nil _⟩

theorem spells_counter (c : Counter) : Spells c.toNode c.toNode.compact := by
  apply spells_ofMembers
  simp only [List.forall_mem_cons]
  exact ⟨spells_ofText _, spells_ofNat _, spells_ofNat _, List.forall_mem_nil _⟩

theorem spells_sampling (s : Sampling) : Spells s.toNode s.toNode.compact := by
  have hextra : ∀ n ∈ s.extraNoise.map Node.ofText, Spells n n.compact := by
    intro n hn
    obtain ⟨text, -, rfl⟩ := List.mem_map.1 hn
    exact spells_ofText text
  apply spells_ofMembers
  simp only [List.forall_mem_cons]
  exact ⟨spells_ofNat _, spells_ofNat _, spells_ofNat _, spells_compact_array hextra,
    List.forall_mem_nil _⟩

theorem spells_detection (d : Detection) : Spells d.toNode d.toNode.compact := by
  apply spells_ofMembers
  simp only [List.forall_mem_cons]
  exact ⟨spells_ofNat _, spells_ofNat _, spells_bool _, List.forall_mem_nil _⟩

theorem spells_settings (s : Settings) : Spells s.toNode s.toNode.compact := by
  apply spells_ofMembers
  simp only [List.forall_mem_cons]
  exact ⟨spells_sampling _, spells_detection _, List.forall_mem_nil _⟩

/-- Values are read back: from their compact texts, and from every text of a document that says the
same. No text of a document that repeats a field is read. -/
structure ReadsBack {α : Type} (read : String → Option α) (write : α → Node)
    (tells : α → Node → Prop) (repeats : Node → Prop) : Prop where
  compact : ∀ a, read (write a).text = some a
  told : ∀ a n text, tells a n → IsTextOf text n → read text = some a
  repeated : ∀ n text, repeats n → IsTextOf text n → read text = none

/-- Documents of a type are read back if its nodes are. -/
theorem readsBack_of_nodes {α : Type} {read : Node → Option α} {write : α → Node}
    {tells : α → Node → Prop} {repeats : Node → Prop}
    (hwrite : ∀ a, tells a (write a) ∧ Spells (write a) (write a).compact)
    (htold : ∀ a n, tells a n → read n = some a) (hrepeats : ∀ n, repeats n → read n = none) :
    ReadsBack (fun text => (Node.parse? text.toList).bind read) write tells repeats := by
  have hread : ∀ n text, IsTextOf text n → (Node.parse? text.toList).bind read = read n := by
    intro n text htext
    rw [parse?_of_isTextOf htext, Option.bind_some]
  constructor
  case compact =>
    intro a
    rw [hread _ _ (isTextOf_text (hwrite a).2), htold a _ (hwrite a).1]
  case told =>
    intro a n text htells htext
    rw [hread n text htext, htold a n htells]
  case repeated =>
    intro n text hrep htext
    rw [hread n text htext, hrepeats n hrep]

/-- **Records are read back from their documents.** Statuses, kinds, counters and settings are read
from their compact texts, and from every text of an object that carries their fields in any order,
spelled in any way and among further members of other names. An object in which a field stands twice
is refused, and so are settings with a section in which one does. -/
theorem documents_are_read_back :
    ReadsBack Status.ofJson? Status.toNode (fun s => Carries s.fields)
        (Repeats Status.fieldNames) ∧
      ReadsBack Kind.ofJson? Kind.toNode (fun k => IsText k.name) (fun _ => False) ∧
      ReadsBack Counter.ofJson? Counter.toNode (fun c => Carries c.fields)
        (Repeats Counter.fieldNames) ∧
      ReadsBack Settings.ofJson? Settings.toNode (fun s => Carries s.fields) RepeatsSetting := by
  refine ⟨?_, ?_, ?_, ?_⟩
  · refine readsBack_of_nodes (fun s => ⟨carries_status s, spells_status s⟩)
      (fun _ _ => ofNode?_status) fun n hrepeats => ?_
    rw [Status.ofNode?, fields?_of_repeats hrepeats]
    rfl
  · exact readsBack_of_nodes (fun k => ⟨isText_ofText _, spells_ofText _⟩)
      (fun _ _ => ofNode?_kind) fun _ hrepeats => hrepeats.elim
  · refine readsBack_of_nodes (fun c => ⟨carries_counter c, spells_counter c⟩)
      (fun _ _ => ofNode?_counter) fun n hrepeats => ?_
    rw [Counter.ofNode?, fields?_of_repeats hrepeats]
    rfl
  · exact readsBack_of_nodes (fun s => ⟨carries_settings s, spells_settings s⟩)
      (fun _ _ => ofNode?_settings) fun _ => ofNode?_of_repeatsSetting

/-- A status whose fields stand in another order, with a member of an unknown name among them and a
host whose characters are given by their numbers. -/
def reorderedStatus : Node :=
  .ofMembers [("host", .string "\\u0041\\ud83d\\ude00".toList),
    ("since", .array [.null, .ofNat 7]), ("enabled", .bool true), ("type", .ofText "SOCKS")]

/-- A status that names two kinds. -/
def statusOfTwoKinds : Node :=
  .ofMembers [("type", .ofText "HTTP"), ("enabled", .bool true), ("host", .ofText ""),
    ("type", .ofText "SOCKS")]

/-- The fields of a status are found in another order, and a second kind is refused. -/
theorem reordered_status_is_read :
    Status.ofJson? reorderedStatus.text = some ⟨true, .socks, "A😀"⟩ ∧
      Status.ofJson? statusOfTwoKinds.text = none := by
  obtain ⟨⟨-, htold, hrepeated⟩, -⟩ := documents_are_read_back
  constructor
  · have hpair : Escapes ['😀'] ['\\', 'u', 'd', '8', '3', 'd', '\\', 'u', 'd', 'e', '0', '0'] :=
      Escapes.cons (.pair rfl rfl (by decide) (by decide) (by decide)) Escapes.nil
    have hhost : Escapes "A😀".toList "\\u0041\\ud83d\\ude00".toList :=
      Escapes.cons (w := ['\\', 'u', '0', '0', '4', '1']) (.unit rfl) hpair
    have hcarries : Carries (Status.fields ⟨true, .socks, "A😀"⟩) reorderedStatus := by
      refine ⟨_, [_, _, _], [_], rfl, @List.perm_append_comm _ [_, _] [_, _], ?_, ?_⟩
      · exact .cons ⟨escapes_escape _, rfl⟩ (.cons ⟨escapes_escape _, isText_ofText _⟩
          (.cons ⟨escapes_escape _, _, rfl, hhost⟩ .nil))
      · intro m hm
        rw [List.mem_singleton.1 hm]
        exact ⟨_, escapes_escape _, by decide⟩
    have hnull : Spells .null Node.null.compact := by
      rw [Node.compact]
      exact Spells.null
    have hsince : Spells (.array [.null, .ofNat 7]) (Node.array [.null, .ofNat 7]).compact := by
      apply spells_compact_array
      simp only [List.forall_mem_cons]
      exact ⟨hnull, spells_ofNat 7, List.forall_mem_nil _⟩
    have hspells : Spells reorderedStatus reorderedStatus.compact := by
      apply spells_ofMembers
      simp only [List.forall_mem_cons]
      refine ⟨?_, hsince, spells_bool _, spells_ofText _, List.forall_mem_nil _⟩
      rw [Node.compact]
      exact Spells.string (isBody_of_escapes hhost)
    exact htold _ _ _ hcarries (isTextOf_text hspells)
  · have hrepeats : Repeats Status.fieldNames statusOfTwoKinds :=
      ⟨"type", by decide, [], _, [_, _], _, [], rfl, escapes_escape _, escapes_escape _⟩
    have hspells : Spells statusOfTwoKinds statusOfTwoKinds.compact := by
      apply spells_ofMembers
      simp only [List.forall_mem_cons]
      exact ⟨spells_ofText _, spells_bool _, spells_ofText _, spells_ofText _,
        List.forall_mem_nil _⟩
    exact hrepeated _ _ hrepeats (isTextOf_text hspells)

end LinkWatch
