import LinkWatch.Proofs.ConfigurationText
import LinkWatch.Proofs.SoundDocuments
import Mathlib

/-!
# Settings over the usual ones

A configuration text sets the fields that it gives, and every other field keeps its usual value. The
fields are told apart from the way in which the text gives them: by name in a table, however the
table is written, or by place in an array. Whether a section is missing or only the field is makes
no difference, although the usual values of a missing section come from another place.
-/

namespace LinkWatch

open LinkWatch.Toml

/-! ## Fields -/

/-- What a field can hold. -/
inductive FieldKind where
  | natural
  | boolean
  | texts
  deriving DecidableEq, Repr

/-- The values of a kind: the numbers that are not negative, the truth values, and the arrays of
texts. -/
def FieldKind.Accepts : FieldKind → Value → Prop
  | .natural, .integer n => 0 ≤ n
  | .boolean, .boolean _ => True
  | .texts, .array items => ∀ v ∈ items, ∃ s, v = .text s
  | _, _ => False

/-- The fields of the settings. -/
inductive Field where
  | interval
  | topInterfaces
  | trendCapacity
  | extraNoise
  | queryTimeout
  | pollInterval
  | systemQuery
  deriving DecidableEq, Repr

namespace Field

/-- The section of a field. -/
def sectionName : Field → String
  | interval | topInterfaces | trendCapacity | extraNoise => "sampling"
  | queryTimeout | pollInterval | systemQuery => "proxy"

/-- The name of a field in its section. -/
def name : Field → String
  | interval => "interval_ms"
  | topInterfaces => "top_interfaces"
  | trendCapacity => "trend_capacity"
  | extraNoise => "extra_noise_prefixes"
  | queryTimeout => "query_timeout_ms"
  | pollInterval => "poll_interval_ms"
  | systemQuery => "system_query"

/-- The place of a field among those of its section. -/
def position : Field → Nat
  | interval | queryTimeout => 0
  | topInterfaces | pollInterval => 1
  | trendCapacity | systemQuery => 2
  | extraNoise => 3

/-- What a field holds. -/
def kind : Field → FieldKind
  | interval | topInterfaces | trendCapacity | queryTimeout | pollInterval => .natural
  | systemQuery => .boolean
  | extraNoise => .texts

/-- The value of a field. -/
def value (s : Settings) : Field → Value
  | interval => .integer s.sampling.interval.toNat
  | topInterfaces => .integer s.sampling.topInterfaces.toNat
  | trendCapacity => .integer s.sampling.trendCapacity.toNat
  | extraNoise => .array (s.sampling.extraNoise.map .text)
  | queryTimeout => .integer s.detection.queryTimeout.toNat
  | pollInterval => .integer s.detection.pollInterval.toNat
  | systemQuery => .boolean s.detection.systemQuery

/-- What holds of each field by name holds of all. -/
theorem forall_iff {P : Field → Prop} :
    (∀ f, P f) ↔ (P interval ∧ P topInterfaces ∧ P trendCapacity ∧ P extraNoise) ∧
      P queryTimeout ∧ P pollInterval ∧ P systemQuery := by
  constructor
  · intro h
    exact ⟨⟨h _, h _, h _, h _⟩, h _, h _, h _⟩
  · rintro ⟨⟨hinterval, htop, hcapacity, hextra⟩, htimeout, hpoll, hquery⟩ f
    cases f with
    | interval => exact hinterval
    | topInterfaces => exact htop
    | trendCapacity => exact hcapacity
    | extraNoise => exact hextra
    | queryTimeout => exact htimeout
    | pollInterval => exact hpoll
    | systemQuery => exact hquery

end Field

/-! ## What a document gives -/

/-- The entries of a document at its top level. -/
abbrev Document := List (String × Value)

/-- The names of the sections. -/
def sectionNames : List String := ["sampling", "proxy"]

/-- The values that are sections. -/
def IsSection : Value → Prop
  | .table _ | .array _ => True
  | _ => False

/-- A section gives a value for a field: under its name in a table, at its place in an array. -/
inductive SectionGives (f : Field) (v : Value) : Value → Prop where
  | table {entries : List (String × Value)} (found : (f.name, v) ∈ entries) :
      SectionGives f v (.table entries)
  | array {items : List Value} (found : items[f.position]? = some v) :
      SectionGives f v (.array items)

/-- A table gives a field the value at the field's name. -/
theorem sectionGives_table_iff {f : Field} {v : Value} {entries : List (String × Value)} :
    SectionGives f v (.table entries) ↔ (f.name, v) ∈ entries :=
  ⟨fun (.table found) => found, .table⟩

theorem sectionGives_array_iff {f : Field} {v : Value} {items : List Value} :
    SectionGives f v (.array items) ↔ items[f.position]? = some v :=
  ⟨fun (.array found) => found, .array⟩

/-- A document gives a value for a field. Neither the order of its entries matters nor the entries
under other names. -/
def Gives (document : Document) (f : Field) (v : Value) : Prop :=
  ∃ part, (f.sectionName, part) ∈ document ∧ SectionGives f v part

/-- Whatever stands under the name of a section is one. -/
def HasSections (document : Document) : Prop :=
  ∀ name ∈ sectionNames, ∀ part, (name, part) ∈ document → IsSection part

/-- No section is a date. -/
def NoDateSection (document : Document) : Prop :=
  ∀ name ∈ sectionNames, (name, .moment) ∉ document

/-- A document that can be read as settings: sections of any form, in which every field that is
given has a value of its kind. -/
@[mk_iff]
structure IsReadable (document : Document) : Prop where
  sections : HasSections document
  fields : ∀ f v, Gives document f v → f.kind.Accepts v

/-- The settings of a document: given values where there are any, and the usual ones elsewhere. -/
def Overlays (document : Document) (s : Settings) : Prop :=
  ∀ f : Field, (∀ v, Gives document f v → f.value s = v) ∧
    ((∀ v, ¬ Gives document f v) → f.value s = f.value {})

/-! ## Finding a field -/

/-- What is found for a field in a section. -/
def Field.in? (f : Field) : Value → Option Value
  | .table entries => entries.lookup f.name
  | .array items => items[f.position]?
  | _ => none

/-- What is found for a field in a document. -/
def Field.of? (f : Field) (document : Document) : Option Value :=
  (document.lookup f.sectionName).bind f.in?

/-- What is found for a field in a sound section is what the section gives it. -/
theorem in?_eq_some_iff {part : Value} (h : part.IsSound) (f : Field) (v : Value) :
    f.in? part = some v ↔ SectionGives f v part := by
  cases h with
  | table distinct _ =>
    rw [Field.in?, lookup_eq_some_iff_mem distinct, sectionGives_table_iff]
  | array _ => rw [Field.in?, sectionGives_array_iff]
  | _ =>
    constructor
    · intro hfound
      cases hfound
    · intro hgives
      cases hgives

/-- In a sound document a field is given at most one value, the one that is found. -/
theorem of?_eq_some_iff {document : Document} (h : (Value.table document).IsSound) (f : Field)
    (v : Value) : f.of? document = some v ↔ Gives document f v := by
  rw [Field.of?, Option.bind_eq_some_iff]
  refine exists_congr fun part => ?_
  rw [lookup_eq_some_iff_mem h.distinct]
  exact and_congr_right fun hpart => in?_eq_some_iff (h.of_mem hpart) f v

/-- What a sound section gives is sound. -/
theorem SectionGives.isSound {part v : Value} {f : Field} (h : SectionGives f v part)
    (hpart : part.IsSound) : v.IsSound := by
  cases h with
  | table found =>
    cases hpart with
    | table _ sound => exact sound _ found
  | array found =>
    cases hpart with
    | array sound => exact sound v (List.mem_of_getElem? found)

theorem isSound_of_of? {document : Document} (h : (Value.table document).IsSound) {f : Field}
    {v : Value} (hfound : f.of? document = some v) : v.IsSound := by
  obtain ⟨part, hpart, hgives⟩ := (of?_eq_some_iff h f v).1 hfound
  exact hgives.isSound (h.of_mem hpart)

/-- The settings of a document have what is found in it, or else the usual value. -/
theorem overlays_iff {document : Document} (h : (Value.table document).IsSound) {s : Settings} :
    Overlays document s ↔ ∀ f : Field, f.value s = (f.of? document).getD (f.value {}) := by
  refine forall_congr' fun f => ?_
  simp only [← of?_eq_some_iff h]
  cases f.of? document with
  | none => simp
  | some v => simp

/-! ## Reading a field -/

/-- A kind of fields, read and written: what is read is what would have been written. -/
structure ReadsKind (kind : FieldKind) {α : Type} (read : Value → Option α) (write : α → Value) :
    Prop where
  injective : Function.Injective write
  read_iff : ∀ {v a}, v.IsSound → (read v = some a ↔ write a = v)
  accepts_iff : ∀ {v}, (read v).isSome ↔ kind.Accepts v

section ReadsKind

variable {kind : FieldKind} {α : Type} {read : Value → Option α} {write : α → Value}

/-- What is read of a value that may be absent: its own form, or that of the usual one. -/
theorem ReadsKind.orUsual?_iff (h : ReadsKind kind read write) {usual a : α} {found : Option Value}
    (hfound : ∀ v, found = some v → v.IsSound) :
    orUsual? usual read found = some a ↔ write a = found.getD (write usual) := by
  cases found with
  | none =>
    rw [orUsual?, Option.some.injEq, Option.getD_none, h.injective.eq_iff, eq_comm]
  | some v => exact h.read_iff (hfound v rfl)

/-- A value that may be absent can be read if it is absent or of the kind. -/
theorem ReadsKind.isSome_orUsual? (h : ReadsKind kind read write) {usual : α}
    {found : Option Value} :
    (orUsual? usual read found).isSome ↔ ∀ v, found = some v → kind.Accepts v := by
  cases found with
  | none => simp [orUsual?]
  | some v => simp [orUsual?, h.accepts_iff]

end ReadsKind

/-- Numbers are read by their kind. -/
theorem reads_natural : ReadsKind .natural readNatural? fun n => .integer n.toNat where
  injective n m heq := by
    injection heq with heq
    exact UInt64.toNat_inj.1 (Int.ofNat_inj.1 heq)
  read_iff {v n} hsound := by
    constructor
    · intro hread
      cases hsound with
      | @integer k _ upper =>
        rw [readNatural?] at hread
        split at hread
        · next hlower =>
          cases hread
          -- 63 bits fit into 64
          have hfits : (UInt64.ofNat k.toNat).toNat = k.toNat :=
            UInt64.toNat_ofNat_of_lt' (by rw [UInt64.size]; omega)
          rw [hfits, Int.toNat_of_nonneg hlower]
        · cases hread
      | _ => cases hread
    · rintro rfl
      exact readNatural?_toNat n
  accepts_iff {v} := by
    cases v with
    | integer n =>
      rw [readNatural?, FieldKind.Accepts]
      split
      · next h => simpa using h
      · next h => simpa using h
    | _ => simp [readNatural?, FieldKind.Accepts]

theorem reads_boolean : ReadsKind .boolean readBoolean? .boolean where
  injective b c heq := by
    injection heq
  read_iff {v b} _ := by
    cases v with
    | boolean c => simp [readBoolean?, eq_comm]
    | _ => simp [readBoolean?]
  accepts_iff {v} := by
    cases v with
    | boolean c => simp [readBoolean?, FieldKind.Accepts]
    | _ => simp [readBoolean?, FieldKind.Accepts]

theorem reads_texts : ReadsKind .texts readStrings? fun ss => .array (ss.map .text) where
  injective ss ts heq := by
    injection heq with heq
    exact List.map_injective_iff.2 (fun _ _ h => by injection h) heq
  read_iff {v ss} _ := by
    cases v with
    | array items => rw [readStrings?, mapM_readString?_iff, Value.array.injEq]
    | _ => simp [readStrings?]
  accepts_iff {v} := by
    cases v with
    | array items =>
      rw [readStrings?, FieldKind.Accepts, Option.isSome_iff_exists]
      simp only [mapM_readString?_iff]
      constructor
      · rintro ⟨ss, rfl⟩ v hv
        obtain ⟨s, -, rfl⟩ := List.mem_map.1 hv
        exact ⟨s, rfl⟩
      · intro h
        induction items with
        | nil => exact ⟨[], rfl⟩
        | cons v items ih =>
          obtain ⟨⟨s, rfl⟩, hitems⟩ := List.forall_mem_cons.1 h
          obtain ⟨ss, rfl⟩ := ih hitems
          exact ⟨s :: ss, rfl⟩
    | _ => simp [readStrings?, FieldKind.Accepts]

/-! ## Reading the sections -/

/-- A field of the settings is what is read where the field was looked for. -/
def Field.IsRead (s : Settings) (found : Option Value) : Field → Prop
  | interval =>
    orUsual? ({} : Sampling).interval readNatural? found = some s.sampling.interval
  | topInterfaces =>
    orUsual? ({} : Sampling).topInterfaces readNatural? found = some s.sampling.topInterfaces
  | trendCapacity =>
    orUsual? ({} : Sampling).trendCapacity readNatural? found = some s.sampling.trendCapacity
  | extraNoise =>
    orUsual? ({} : Sampling).extraNoise readStrings? found = some s.sampling.extraNoise
  | queryTimeout =>
    orUsual? ({} : Detection).queryTimeout readNatural? found = some s.detection.queryTimeout
  | pollInterval =>
    orUsual? ({} : Detection).pollInterval readNatural? found = some s.detection.pollInterval
  | systemQuery =>
    orUsual? ({} : Detection).systemQuery readBoolean? found = some s.detection.systemQuery

/-- A field is read as what was found for it, or else as the usual value. -/
theorem isRead_iff {s : Settings} {found : Option Value} {f : Field}
    (h : ∀ v, found = some v → v.IsSound) :
    f.IsRead s found ↔ f.value s = found.getD (f.value {}) := by
  cases f with
  | extraNoise => exact reads_texts.orUsual?_iff h
  | systemQuery => exact reads_boolean.orUsual?_iff h
  | _ => exact reads_natural.orUsual?_iff h

/-- What is read of a field is of the field's kind. -/
theorem accepts_of_isRead {s : Settings} {found : Option Value} {f : Field}
    (h : f.IsRead s found) {v : Value} (hfound : found = some v) : f.kind.Accepts v := by
  cases f with
  | extraNoise => exact reads_texts.isSome_orUsual?.1 (Option.isSome_of_eq_some h) v hfound
  | systemQuery => exact reads_boolean.isSome_orUsual?.1 (Option.isSome_of_eq_some h) v hfound
  | _ => exact reads_natural.isSome_orUsual?.1 (Option.isSome_of_eq_some h) v hfound

/-- Fields of which each has a value of its kind, if any, are read together. -/
theorem exists_isRead {found : Field → Option Value}
    (h : ∀ f v, found f = some v → f.kind.Accepts v) :
    ∃ s : Settings, ∀ f : Field, f.IsRead s (found f) := by
  have natural (f : Field) (hkind : f.kind = .natural) (usual : UInt64) :
      ∃ n, orUsual? usual readNatural? (found f) = some n :=
    Option.isSome_iff_exists.1 (reads_natural.isSome_orUsual?.2 fun v hv => hkind ▸ h f v hv)
  obtain ⟨interval, hinterval⟩ := natural .interval rfl ({} : Sampling).interval
  obtain ⟨top, htop⟩ := natural .topInterfaces rfl ({} : Sampling).topInterfaces
  obtain ⟨capacity, hcapacity⟩ := natural .trendCapacity rfl ({} : Sampling).trendCapacity
  obtain ⟨extra, hextra⟩ := Option.isSome_iff_exists.1
    (reads_texts.isSome_orUsual?.2 (h .extraNoise))
  obtain ⟨timeout, htimeout⟩ := natural .queryTimeout rfl ({} : Detection).queryTimeout
  obtain ⟨poll, hpoll⟩ := natural .pollInterval rfl ({} : Detection).pollInterval
  obtain ⟨query, hquery⟩ := Option.isSome_iff_exists.1
    (reads_boolean.isSome_orUsual?.2 (h .systemQuery))
  refine ⟨⟨⟨interval, top, capacity, extra⟩, ⟨timeout, poll, query⟩⟩, Field.forall_iff.2 ?_⟩
  exact ⟨⟨hinterval, htop, hcapacity, hextra⟩, htimeout, hpoll, hquery⟩

/-- In a section of either form each field is looked for on its own. -/
theorem sectionFields?_eq (fields : List Field) {part : Value} (h : IsSection part)
    (hpositions : fields.map Field.position = List.range fields.length) :
    sectionFields? (fields.map Field.name) part = some (fields.map fun f => f.in? part) := by
  cases part with
  | table entries =>
    rw [sectionFields?, List.map_map]
    rfl
  | array items =>
    rw [sectionFields?, List.length_map, ← hpositions, List.map_map]
    rfl
  | _ => exact h.elim

/-- What gives fields is a section, unless it is a date. -/
theorem isSection_of_sectionFields? {names : List String} {part : Value} (hne : part ≠ .moment)
    (h : (sectionFields? names part).isSome) : IsSection part := by
  cases part with
  | table _ => trivial
  | array _ => trivial
  | moment => exact absurd rfl hne
  | _ => simp [sectionFields?] at h

/-- A sampling section is read field by field. One that is missing reads as one without fields: its
usual values are those of its fields. -/
theorem sampling_iff {found : Option Value} (h : ∀ part, found = some part → IsSection part)
    {s : Settings} :
    orUsual? {} Sampling.ofValue? found = some s.sampling ↔
      Field.interval.IsRead s (found.bind Field.interval.in?) ∧
        Field.topInterfaces.IsRead s (found.bind Field.topInterfaces.in?) ∧
        Field.trendCapacity.IsRead s (found.bind Field.trendCapacity.in?) ∧
        Field.extraNoise.IsRead s (found.bind Field.extraNoise.in?) := by
  obtain ⟨⟨interval, top, capacity, extra⟩, detection⟩ := s
  cases found with
  | none =>
    -- the usual section and the usual fields agree
    simp [orUsual?, Field.IsRead]
  | some part =>
    have hfields : sectionFields? ["interval_ms", "top_interfaces", "trend_capacity",
        "extra_noise_prefixes"] part = _ :=
      sectionFields?_eq [.interval, .topInterfaces, .trendCapacity, .extraNoise] (h part rfl) rfl
    rw [orUsual?, Sampling.ofValue?, hfields]
    simp [Field.IsRead, Option.bind_eq_some_iff]

/-- The section of detection is read field by field. -/
theorem detection_iff {found : Option Value} (h : ∀ part, found = some part → IsSection part)
    {s : Settings} :
    orUsual? {} Detection.ofValue? found = some s.detection ↔
      Field.queryTimeout.IsRead s (found.bind Field.queryTimeout.in?) ∧
        Field.pollInterval.IsRead s (found.bind Field.pollInterval.in?) ∧
        Field.systemQuery.IsRead s (found.bind Field.systemQuery.in?) := by
  obtain ⟨sampling, ⟨timeout, poll, query⟩⟩ := s
  cases found with
  | none => simp [orUsual?, Field.IsRead]
  | some part =>
    have hfields : sectionFields? ["query_timeout_ms", "poll_interval_ms", "system_query"] part =
        _ := sectionFields?_eq [.queryTimeout, .pollInterval, .systemQuery] (h part rfl) rfl
    rw [orUsual?, Detection.ofValue?, hfields]
    simp [Field.IsRead, Option.bind_eq_some_iff, -Bool.exists_bool]

/-! ## Reading a document -/

/-- A document is read section by section. -/
theorem ofEntries?_iff {document : Document} {s : Settings} :
    Settings.ofEntries? document = some s ↔
      orUsual? {} Sampling.ofValue? (document.lookup "sampling") = some s.sampling ∧
        orUsual? {} Detection.ofValue? (document.lookup "proxy") = some s.detection := by
  obtain ⟨sampling, detection⟩ := s
  simp [Settings.ofEntries?, Option.bind_eq_some_iff]

/-- Dates aside, what is read has sections only. -/
theorem hasSections_of_ofEntries? {document : Document} (h : (Value.table document).IsSound)
    (hdate : NoDateSection document) {s : Settings}
    (hread : Settings.ofEntries? document = some s) : HasSections document := by
  obtain ⟨hsampling, hdetection⟩ := ofEntries?_iff.1 hread
  intro name hname part hpart
  have hfound := (lookup_eq_some_iff_mem h.distinct name part).2 hpart
  have hne : part ≠ .moment := fun heq => hdate name hname (heq ▸ hpart)
  simp only [sectionNames, List.mem_cons, List.not_mem_nil, or_false] at hname
  obtain rfl | rfl := hname
  · rw [hfound, orUsual?, Sampling.ofValue?, Option.bind_eq_bind, Option.bind_eq_some_iff]
      at hsampling
    obtain ⟨_, hfields, -⟩ := hsampling
    exact isSection_of_sectionFields? hne (Option.isSome_of_eq_some hfields)
  · rw [hfound, orUsual?, Detection.ofValue?, Option.bind_eq_bind, Option.bind_eq_some_iff]
      at hdetection
    obtain ⟨_, hfields, -⟩ := hdetection
    exact isSection_of_sectionFields? hne (Option.isSome_of_eq_some hfields)

/-- A document is read field by field. -/
theorem ofEntries?_iff_isRead {document : Document} (hsections : HasSections document)
    {s : Settings} :
    Settings.ofEntries? document = some s ↔ ∀ f : Field, f.IsRead s (f.of? document) := by
  have hpart (name : String) (hname : name ∈ sectionNames) :
      ∀ part, document.lookup name = some part → IsSection part := fun part hfound =>
    hsections name hname part (mem_of_lookup hfound)
  rw [ofEntries?_iff, sampling_iff (hpart "sampling" (by decide)),
    detection_iff (hpart "proxy" (by decide)), Field.forall_iff]
  rfl

/-- The settings of a document are the usual ones overlaid with what it gives. -/
theorem ofEntries?_iff_overlays {document : Document} (h : (Value.table document).IsSound)
    (hsections : HasSections document) {s : Settings} :
    Settings.ofEntries? document = some s ↔ Overlays document s := by
  rw [ofEntries?_iff_isRead hsections, overlays_iff h]
  exact forall_congr' fun f => isRead_iff fun v hv => isSound_of_of? h hv

/-- A document can be read if each value that it gives a field is of the field's kind. -/
theorem isReadable_iff_exists {document : Document} (h : (Value.table document).IsSound)
    (hdate : NoDateSection document) :
    IsReadable document ↔ ∃ s, Settings.ofEntries? document = some s := by
  constructor
  · rintro ⟨hsections, hfields⟩
    simp only [ofEntries?_iff_isRead hsections]
    exact exists_isRead fun f v hv => hfields f v ((of?_eq_some_iff h f v).1 hv)
  · rintro ⟨s, hread⟩
    have hsections := hasSections_of_ofEntries? h hdate hread
    refine ⟨hsections, fun f v hgives => ?_⟩
    exact accepts_of_isRead ((ofEntries?_iff_isRead hsections).1 hread f)
      ((of?_eq_some_iff h f v).2 hgives)

/-! ## Configuration texts -/

section Texts

variable {wording : Wording}

/-- A text of a document is loaded as what the document is read as. -/
theorem ofToml_eq_ok_iff {text : String} {document : Document} {s : Settings}
    (h : Toml.parse? text.toList = some document) :
    Settings.ofToml wording text = .ok s ↔ Settings.ofEntries? document = some s := by
  rw [Settings.ofToml, h, Option.bind_some]
  cases Settings.ofEntries? document with
  | none => simp
  | some other => simp

/-- Whatever is refused is refused in the same way, with what there is to say about it. -/
theorem ofToml_eq_ok_or_error (text : String) :
    (∃ s, Settings.ofToml wording text = .ok s) ∨ Settings.ofToml wording text =
      .error (.parse ("Failed to parse config: " ++ wording text)) := by
  rw [Settings.ofToml]
  split
  · next s _ => exact Or.inl ⟨s, rfl⟩
  · exact Or.inr rfl

/-- A text of no document is refused, in the words of the reader. -/
theorem ofToml_of_no_document {text : String} (h : Toml.parse? text.toList = none) :
    Settings.ofToml wording text =
      .error (.parse ("Failed to parse config: " ++ wording text)) := by
  rw [Settings.ofToml, h, Option.bind_none]

/-- A text of a document is loaded as the overlay of the document, if this can be read. -/
theorem ofToml_eq_ok_iff_overlays {text : String} {document : Document} {s : Settings}
    (h : Toml.parse? text.toList = some document) (hdate : NoDateSection document) :
    Settings.ofToml wording text = .ok s ↔ IsReadable document ∧ Overlays document s := by
  have hsound := isSound_of_parse? h
  rw [ofToml_eq_ok_iff h]
  constructor
  · intro hread
    have hreadable := (isReadable_iff_exists hsound hdate).2 ⟨s, hread⟩
    exact ⟨hreadable, (ofEntries?_iff_overlays hsound hreadable.sections).1 hread⟩
  · rintro ⟨hreadable, hoverlays⟩
    exact (ofEntries?_iff_overlays hsound hreadable.sections).2 hoverlays

/-- A text of a document is loaded if the document can be read. -/
theorem exists_ofToml_iff_isReadable {text : String} {document : Document}
    (h : Toml.parse? text.toList = some document) (hdate : NoDateSection document) :
    (∃ s, Settings.ofToml wording text = .ok s) ↔ IsReadable document := by
  simp only [ofToml_eq_ok_iff h]
  exact (isReadable_iff_exists (isSound_of_parse? h) hdate).symm

/-- In two documents that give the same for a field, the settings have the same in it. -/
theorem value_congr {document other : Document} {s t : Settings} (hs : Overlays document s)
    (ht : Overlays other t) {f : Field} (h : ∀ v, Gives document f v ↔ Gives other f v) :
    f.value s = f.value t := by
  by_cases hgiven : ∃ v, Gives document f v
  · obtain ⟨v, hv⟩ := hgiven
    rw [(hs f).1 v hv, (ht f).1 v ((h v).1 hv)]
  · rw [not_exists] at hgiven
    rw [(hs f).2 hgiven, (ht f).2 fun v hv => hgiven v ((h v).2 hv)]

/-- Documents that give the same for every field are read to the same settings, if at all. -/
theorem ofToml_congr {text otherText : String} {document other : Document}
    (htext : Toml.parse? text.toList = some document) (hdate : NoDateSection document)
    (hother : Toml.parse? otherText.toList = some other) (hotherDate : NoDateSection other)
    (hsections : HasSections document ↔ HasSections other)
    (hgives : ∀ f v, Gives document f v ↔ Gives other f v) (s : Settings) :
    Settings.ofToml wording text = .ok s ↔ Settings.ofToml wording otherText = .ok s := by
  rw [ofToml_eq_ok_iff_overlays htext hdate, ofToml_eq_ok_iff_overlays hother hotherDate]
  simp only [isReadable_iff, Overlays, hsections, hgives]

end Texts

/-- **A text is laid over the usual settings.** One that is no document is refused. One that is a
document, in which no section is a date, is read if its sections are tables or arrays and every
field that is given has a value of its kind, and refused otherwise. The settings then have, in every
field, the value that is given for it or else the usual one: a field depends on nothing else in the
text, and neither the order of keys nor the entries under other names make a difference. -/
theorem ofToml_overlays_usual (wording : Wording) (text : String) :
    (Toml.parse? text.toList = none → Settings.ofToml wording text =
      .error (.parse ("Failed to parse config: " ++ wording text))) ∧
    ∀ document, Toml.parse? text.toList = some document → NoDateSection document →
      ((∃ s, Settings.ofToml wording text = .ok s) ↔ IsReadable document) ∧
      (¬ IsReadable document → Settings.ofToml wording text =
        .error (.parse ("Failed to parse config: " ++ wording text))) ∧
      (∀ s, Settings.ofToml wording text = .ok s → Overlays document s) ∧
      ∀ otherText other, Toml.parse? otherText.toList = some other → NoDateSection other →
        (∀ s t, Settings.ofToml wording text = .ok s → Settings.ofToml wording otherText = .ok t →
          ∀ f : Field, (∀ v, Gives document f v ↔ Gives other f v) → f.value s = f.value t) ∧
        ((HasSections document ↔ HasSections other) →
          (∀ f v, Gives document f v ↔ Gives other f v) →
            ∀ s, Settings.ofToml wording text = .ok s ↔
              Settings.ofToml wording otherText = .ok s) := by
  refine ⟨ofToml_of_no_document, fun document htext hdate => ?_⟩
  have hreadable : (∃ s, Settings.ofToml wording text = .ok s) ↔ IsReadable document :=
    exists_ofToml_iff_isReadable htext hdate
  have hoverlays (s : Settings) (hs : Settings.ofToml wording text = .ok s) :
      Overlays document s :=
    ((ofToml_eq_ok_iff_overlays htext hdate).1 hs).2
  refine ⟨hreadable, ?_, hoverlays, ?_⟩
  · intro hnot
    exact (ofToml_eq_ok_or_error text).resolve_left fun hok => hnot (hreadable.1 hok)
  · intro otherText other hother hotherDate
    constructor
    · intro s t hs ht f hgives
      exact value_congr (hoverlays s hs)
        ((ofToml_eq_ok_iff_overlays hother hotherDate).1 ht).2 hgives
    · exact ofToml_congr htext hdate hother hotherDate

/-- A text with a dotted key, with the fields of a table in another order, and with entries that are
not known. -/
def mixedText : String :=
  "proxy.system_query = false\nmore = 1979-05-27\n[sampling]\nlast = [1]\n" ++
    "extra_noise_prefixes = ['tun']\ntop_interfaces = 2\n"

/-- What stands in that text. -/
def mixedDocument : Document :=
  [("proxy", .table [("system_query", .boolean false)]), ("more", .moment),
    ("sampling", .table [("last", .array [.integer 1]),
      ("extra_noise_prefixes", .array [.text "tun"]), ("top_interfaces", .integer 2)])]

/-- A text of which one section is an array that ends before the last fields. -/
def arrayText : String :=
  "sampling = [250, 2]\nproxy = { poll_interval_ms = 9, system_query = true }\n"

/-- What stands in that text. -/
def arrayDocument : Document :=
  [("sampling", .array [.integer 250, .integer 2]),
    ("proxy", .table [("poll_interval_ms", .integer 9), ("system_query", .boolean true)])]

/-- A text in which a section is a number. -/
def numberedSection : String :=
  "sampling = 7\n"

/-- A text that is no document. -/
def brokenLine : String :=
  "sampling\n"

/-- What there is to say about the last two texts. -/
def sampleWording : Wording := fun text =>
  if text = numberedSection then
    "TOML parse error at line 1, column 12\n  |\n1 | sampling = 7\n  |            ^\n" ++
      "invalid type: integer `7`, expected struct SamplingConfig\n"
  else "TOML parse error at line 1, column 9\n  |\n1 | sampling\n  |         ^\n" ++
    "expected `.`, `=`\n"

/-- The first two texts have one field in common, which the one gives by name and the other by
place. The last two are refused. -/
theorem mixed_text_overlaid :
    Settings.ofToml sampleWording mixedText = .ok ⟨⟨1000, 2, 60, ["tun"]⟩, ⟨500, 5000, false⟩⟩ ∧
    Overlays mixedDocument ⟨⟨1000, 2, 60, ["tun"]⟩, ⟨500, 5000, false⟩⟩ ∧
    Settings.ofToml sampleWording arrayText = .ok ⟨⟨250, 2, 60, []⟩, ⟨500, 9, true⟩⟩ ∧
    Field.topInterfaces.value ⟨⟨1000, 2, 60, ["tun"]⟩, ⟨500, 5000, false⟩⟩ =
      Field.topInterfaces.value ⟨⟨250, 2, 60, []⟩, ⟨500, 9, true⟩⟩ ∧
    Settings.ofToml sampleWording numberedSection =
      .error (.parse ("Failed to parse config: " ++ sampleWording numberedSection)) ∧
    Settings.ofToml sampleWording brokenLine =
      .error (.parse ("Failed to parse config: " ++ sampleWording brokenLine)) := by
  have hdate : NoDateSection mixedDocument := by
    simp [NoDateSection, sectionNames, mixedDocument]
  have harrayDate : NoDateSection arrayDocument := by
    simp [NoDateSection, sectionNames, arrayDocument]
  have hnumberDate : NoDateSection [("sampling", .integer 7)] := by
    simp [NoDateSection]
  obtain ⟨-, -, hoverlays, hother⟩ :=
    (ofToml_overlays_usual sampleWording mixedText).2 mixedDocument (by cbv) hdate
  have hok : Settings.ofToml sampleWording mixedText =
      .ok ⟨⟨1000, 2, 60, ["tun"]⟩, ⟨500, 5000, false⟩⟩ := by
    cbv
  have harray : Settings.ofToml sampleWording arrayText =
      .ok ⟨⟨250, 2, 60, []⟩, ⟨500, 9, true⟩⟩ := by
    cbv
  have hcommon (v : Value) : Gives mixedDocument .topInterfaces v ↔
      Gives arrayDocument .topInterfaces v := by
    simp [Gives, mixedDocument, arrayDocument, Field.sectionName, Field.name, Field.position,
      sectionGives_table_iff, sectionGives_array_iff, eq_comm]
  refine ⟨hok, hoverlays _ hok, harray, ?_, ?_,
    (ofToml_overlays_usual sampleWording brokenLine).1 (by cbv)⟩
  · exact (hother arrayText arrayDocument (by cbv) harrayDate).1 _ _ hok harray .topInterfaces
      hcommon
  · refine ((ofToml_overlays_usual sampleWording numberedSection).2 _ (by cbv) hnumberDate).2.1 ?_
    rintro ⟨hsections, -⟩
    exact hsections "sampling" (by decide) (.integer 7) List.mem_cons_self

end LinkWatch
