import LinkWatch.Proofs.DistinctKeys
import LinkWatch.Toml.Document

/-!
# Sound documents

What is read as a document is sound at every depth: no table has a key twice, and every whole
number fits into 64 bits with sign. The values are sound as they are read; the tables that grow from
the sections of a document are kept sound by every pair and every header that is added to them.
-/

namespace LinkWatch.Toml

/-! ## Soundness -/

/-- A value without repeated keys and without numbers that are too large. -/
inductive Value.IsSound : Value → Prop where
  | text (s : String) : IsSound (.text s)
  | integer {n : Int} (lower : -9223372036854775808 ≤ n) (upper : n ≤ 9223372036854775807) :
      IsSound (.integer n)
  | floating : IsSound .floating
  | boolean (b : Bool) : IsSound (.boolean b)
  | moment : IsSound .moment
  | array {items : List Value} (sound : ∀ v ∈ items, IsSound v) : IsSound (.array items)
  | table {entries : List (String × Value)} (distinct : (entries.map Prod.fst).Nodup)
      (sound : ∀ e ∈ entries, IsSound e.2) : IsSound (.table entries)

/-- The keys of a sound table are distinct. -/
theorem Value.IsSound.distinct {entries : List (String × Value)}
    (h : (Value.table entries).IsSound) : (entries.map Prod.fst).Nodup := by
  cases h with
  | table distinct _ => exact distinct

/-- What a sound table holds is sound. -/
theorem Value.IsSound.of_mem {entries : List (String × Value)} (h : (Value.table entries).IsSound)
    {e : String × Value} (he : e ∈ entries) : e.2.IsSound := by
  cases h with
  | table _ sound => exact sound e he

/-- The same for an item of a table that is being built. -/
inductive Item.IsSound : Item → Prop where
  | value {v : Value} (sound : v.IsSound) : IsSound (.value v)
  | table {origin : Origin} {entries : Entries} (distinct : (entries.map Prod.fst).Nodup)
      (sound : ∀ e ∈ entries, IsSound e.2) : IsSound (.table origin entries)
  | tables {elements : List Entries}
      (distinct : ∀ entries ∈ elements, (entries.map Prod.fst).Nodup)
      (sound : ∀ entries ∈ elements, ∀ e ∈ entries, IsSound e.2) : IsSound (.tables elements)

/-- Entries of distinct keys, all of them sound. -/
structure AreSound (entries : Entries) : Prop where
  distinct : (entries.map Prod.fst).Nodup
  sound : ∀ e ∈ entries, e.2.IsSound

theorem isSound_table_iff {origin : Origin} {entries : Entries} :
    (Item.table origin entries).IsSound ↔ AreSound entries := by
  constructor
  · rintro (_ | ⟨distinct, sound⟩)
    exact ⟨distinct, sound⟩
  · rintro ⟨distinct, sound⟩
    exact .table distinct sound

theorem isSound_tables_iff {elements : List Entries} :
    (Item.tables elements).IsSound ↔ ∀ entries ∈ elements, AreSound entries := by
  constructor
  · rintro (_ | _ | ⟨distinct, sound⟩) entries hentries
    exact ⟨distinct entries hentries, sound entries hentries⟩
  · intro h
    exact .tables (fun entries hentries => (h entries hentries).distinct)
      (fun entries hentries => (h entries hentries).sound)

/-! ## Entries -/

theorem areSound_nil : AreSound [] :=
  ⟨List.nodup_nil, List.forall_mem_nil _⟩

/-- What is found among sound entries is sound. -/
theorem AreSound.of_lookup {entries : Entries} (h : AreSound entries) {key : String} {item : Item}
    (hfound : entries.lookup key = some item) : item.IsSound :=
  h.sound _ (mem_of_lookup hfound)

/-- An entry may be added under a key that is not there yet. -/
theorem AreSound.append {entries : Entries} (h : AreSound entries) {key : String} {item : Item}
    (hnew : entries.lookup key = none) (hitem : item.IsSound) :
    AreSound (entries ++ [(key, item)]) where
  distinct := by
    rw [List.map_append, List.map_singleton, List.nodup_append]
    refine ⟨h.distinct, List.nodup_singleton _, ?_⟩
    intro other hother last hlast heq
    rw [List.mem_singleton] at hlast
    subst heq hlast
    exact notMem_keys_of_lookup hnew hother
  sound e he := by
    rw [List.mem_append, List.mem_singleton] at he
    obtain he | rfl := he
    · exact h.sound e he
    · exact hitem

theorem map_fst_replace (key : String) (item : Item) (entries : Entries) :
    (replace key item entries).map Prod.fst = entries.map Prod.fst := by
  induction entries with
  | nil => rfl
  | cons e entries ih =>
    rw [replace]
    split
    · next hkey => rw [List.map_cons, List.map_cons, eq_of_beq hkey]
    · rw [List.map_cons, List.map_cons, ih]

/-- After a replacement there is the new entry and none that was not there. -/
theorem mem_replace {key : String} {item : Item} {entries : Entries} {e : String × Item}
    (he : e ∈ replace key item entries) : e = (key, item) ∨ e ∈ entries := by
  induction entries with
  | nil => exact Or.inr he
  | cons first entries ih =>
    rw [replace] at he
    split at he
    · exact (List.mem_cons.1 he).imp_right (List.mem_cons_of_mem _)
    · obtain rfl | he := List.mem_cons.1 he
      · exact Or.inr List.mem_cons_self
      · exact (ih he).imp_right (List.mem_cons_of_mem _)

/-- A sound item may replace an entry. -/
theorem AreSound.replace {entries : Entries} (h : AreSound entries) (key : String) {item : Item}
    (hitem : item.IsSound) : AreSound (replace key item entries) where
  distinct := by
    rw [map_fst_replace]
    exact h.distinct
  sound e he := by
    obtain rfl | he := mem_replace he
    · exact hitem
    · exact h.sound e he

/-! ## Building -/

/-- A change of a table that leaves sound entries sound. -/
def KeepsSound (change : Entries → Option Entries) : Prop :=
  ∀ ⦃entries changed⦄, AreSound entries → change entries = some changed → AreSound changed

section Growing

variable {entries inner grown : Entries} {name : String}

/-- A table may be opened under a name that is not there yet. -/
theorem AreSound.append_table (h : AreSound entries) (hnew : entries.lookup name = none)
    (origin : Origin) (hinner : AreSound inner) :
    AreSound (entries ++ [(name, .table origin inner)]) :=
  h.append hnew (isSound_table_iff.2 hinner)

/-- A table among the entries may grow. -/
theorem AreSound.replace_table (h : AreSound entries) {origin : Origin}
    (hfound : entries.lookup name = some (.table origin inner)) (next : Origin)
    (hgrown : AreSound inner → AreSound grown) :
    AreSound (Toml.replace name (.table next grown) entries) :=
  h.replace name (isSound_table_iff.2 (hgrown (isSound_table_iff.1 (h.of_lookup hfound))))

/-- Of a list of tables the last one may grow. -/
theorem AreSound.replace_last (h : AreSound entries) {elements earlier : List Entries}
    (hfound : entries.lookup name = some (.tables elements))
    (hlast : elements.reverse = inner :: earlier) (hgrown : AreSound inner → AreSound grown) :
    AreSound (Toml.replace name (.tables (earlier.reverse ++ [grown])) entries) := by
  have helements : elements = earlier.reverse ++ [inner] := by
    rw [← List.reverse_reverse elements, hlast, List.reverse_cons]
  subst helements
  obtain ⟨hearlier, hinner⟩ :=
    List.forall_mem_append.1 (isSound_tables_iff.1 (h.of_lookup hfound))
  refine h.replace name (isSound_tables_iff.2 (List.forall_mem_append.2 ⟨hearlier, ?_⟩))
  exact List.forall_mem_singleton.2 (hgrown (List.forall_mem_singleton.1 hinner))

end Growing

/-- A sound value may be added under a key. -/
theorem keepsSound_addPair (key : String) {value : Value} (hvalue : value.IsSound)
    (path : List String) : KeepsSound (addPair key value path) := by
  intro entries changed h hchanged
  induction path generalizing entries changed with
  | nil =>
    rw [addPair] at hchanged
    split at hchanged
    · cases hchanged
    · next hnew =>
      cases hchanged
      exact h.append hnew (.value hvalue)
  | cons name path ih =>
    -- on the way a name is new, or that of a value, of a table, or of a list of tables
    rw [addPair] at hchanged
    split at hchanged
    · next hnew =>
      obtain ⟨inner, hinner, rfl⟩ := Option.map_eq_some_iff.1 hchanged
      exact h.append_table hnew .dotted (ih areSound_nil hinner)
    · cases hchanged
    · next origin inner hfound =>
      split at hchanged
      · cases hchanged
      · obtain ⟨grown, hgrown, rfl⟩ := Option.map_eq_some_iff.1 hchanged
        exact h.replace_table hfound origin fun hinner => ih hinner hgrown
    · next elements hfound =>
      split at hchanged
      · next hlast =>
        obtain ⟨grown, hgrown, rfl⟩ := Option.map_eq_some_iff.1 hchanged
        exact h.replace_last hfound hlast fun hinner => ih hinner hgrown
      · cases hchanged

/-- Changes made one after another, one for each member of a list. -/
theorem keepsSound_foldlM {α : Type} {change : Entries → α → Option Entries} {xs : List α}
    (h : ∀ x ∈ xs, KeepsSound fun entries => change entries x) :
    KeepsSound fun entries => xs.foldlM change entries := by
  intro entries changed hentries hchanged
  induction xs generalizing entries with
  | nil =>
    cases hchanged
    exact hentries
  | cons x xs ih =>
    rw [List.forall_mem_cons] at h
    simp only [List.foldlM_cons, Option.bind_eq_bind, Option.bind_eq_some_iff] at hchanged
    obtain ⟨next, hnext, hchanged⟩ := hchanged
    exact ih h.2 (h.1 hentries hnext) hchanged

theorem keepsSound_addPairs {pairs : List Pair} (h : ∀ p ∈ pairs, p.value.IsSound) :
    KeepsSound (addPairs pairs) :=
  keepsSound_foldlM fun p hp => keepsSound_addPair p.key (h p hp) p.path

/-- What keeps entries sound does so anywhere below them. -/
theorem keepsSound_within {change : Entries → Option Entries} (h : KeepsSound change)
    (path : List String) : KeepsSound (within change path) := by
  intro entries changed hentries hchanged
  induction path generalizing entries changed with
  | nil => exact h hentries hchanged
  | cons name path ih =>
    rw [within] at hchanged
    split at hchanged
    · next hnew =>
      obtain ⟨inner, hinner, rfl⟩ := Option.map_eq_some_iff.1 hchanged
      exact hentries.append_table hnew .implied (ih areSound_nil hinner)
    · cases hchanged
    · next origin inner hfound =>
      obtain ⟨grown, hgrown, rfl⟩ := Option.map_eq_some_iff.1 hchanged
      exact hentries.replace_table hfound origin fun hinner => ih hinner hgrown
    · next elements hfound =>
      split at hchanged
      · next hlast =>
        obtain ⟨grown, hgrown, rfl⟩ := Option.map_eq_some_iff.1 hchanged
        exact hentries.replace_last hfound hlast fun hinner => ih hinner hgrown
      · cases hchanged

/-- A table of sound values may be opened. -/
theorem keepsSound_openTable (name : String) {pairs : List Pair}
    (h : ∀ p ∈ pairs, p.value.IsSound) : KeepsSound (openTable name pairs) := by
  intro entries changed hentries hchanged
  rw [openTable] at hchanged
  split at hchanged
  · next hnew =>
    obtain ⟨inner, hinner, rfl⟩ := Option.map_eq_some_iff.1 hchanged
    exact hentries.append_table hnew .header (keepsSound_addPairs h areSound_nil hinner)
  · next hfound =>
    obtain ⟨grown, hgrown, rfl⟩ := Option.map_eq_some_iff.1 hchanged
    exact hentries.replace_table hfound .header fun hinner => keepsSound_addPairs h hinner hgrown
  · cases hchanged

theorem keepsSound_openElement (name : String) {pairs : List Pair}
    (h : ∀ p ∈ pairs, p.value.IsSound) : KeepsSound (openElement name pairs) := by
  intro entries changed hentries hchanged
  have hadded {inner : Entries} (hinner : addPairs pairs [] = some inner) :
      ∀ added ∈ [inner], AreSound added :=
    List.forall_mem_singleton.2 (keepsSound_addPairs h areSound_nil hinner)
  rw [openElement] at hchanged
  split at hchanged
  · next hnew =>
    obtain ⟨inner, hinner, rfl⟩ := Option.map_eq_some_iff.1 hchanged
    exact hentries.append hnew (isSound_tables_iff.2 (hadded hinner))
  · next elements hfound =>
    obtain ⟨inner, hinner, rfl⟩ := Option.map_eq_some_iff.1 hchanged
    have helements := isSound_tables_iff.1 (hentries.of_lookup hfound)
    exact hentries.replace name
      (isSound_tables_iff.2 (List.forall_mem_append.2 ⟨helements, hadded hinner⟩))
  · cases hchanged

/-- A section of sound values may be added. -/
theorem keepsSound_addSection {s : Section} (h : ∀ p ∈ s.pairs, p.value.IsSound) :
    KeepsSound fun document => addSection document s := by
  obtain ⟨header, pairs⟩ := s
  cases header with
  | start => exact keepsSound_addPairs h
  | table path name => exact keepsSound_within (keepsSound_openTable name h) path
  | element path name => exact keepsSound_within (keepsSound_openElement name h) path

/-- Sections of sound values build a sound document. -/
theorem areSound_of_build {sections : List Section} {entries : Entries}
    (h : ∀ s ∈ sections, ∀ p ∈ s.pairs, p.value.IsSound)
    (hbuild : build sections = some entries) : AreSound entries :=
  keepsSound_foldlM (fun s hs => keepsSound_addSection (h s hs)) areSound_nil hbuild

/-! ## Finishing -/

theorem finishEntries_eq_map (entries : Entries) :
    finishEntries entries = entries.map fun e => (e.1, e.2.finish) := by
  induction entries with
  | nil => rw [finishEntries, List.map_nil]
  | cons e entries ih => rw [finishEntries, List.map_cons, ih]

theorem finishElements_eq_map (elements : List Entries) :
    finishElements elements = elements.map fun entries => .table (finishEntries entries) := by
  induction elements with
  | nil => rw [finishElements, List.map_nil]
  | cons entries elements ih => rw [finishElements, List.map_cons, ih]

/-- Sound entries with distinct keys are finished as a sound table. -/
theorem isSound_finishEntries {entries : Entries} (distinct : (entries.map Prod.fst).Nodup)
    (sound : ∀ e ∈ entries, e.2.finish.IsSound) :
    (Value.table (finishEntries entries)).IsSound := by
  rw [finishEntries_eq_map]
  refine .table ?_ ?_
  · rw [List.map_map]
    exact distinct
  · rw [List.forall_mem_map]
    exact sound

/-- A sound item is finished as a sound value. -/
theorem Item.IsSound.finish {item : Item} (h : item.IsSound) : item.finish.IsSound := by
  induction h with
  | value sound =>
    rw [Item.finish]
    exact sound
  | table distinct _ ih =>
    rw [Item.finish]
    exact isSound_finishEntries distinct ih
  | tables distinct _ ih =>
    rw [Item.finish, finishElements_eq_map]
    refine .array ?_
    rw [List.forall_mem_map]
    exact fun entries hentries =>
      isSound_finishEntries (distinct entries hentries) (ih entries hentries)

theorem AreSound.finish {entries : Entries} (h : AreSound entries) :
    (Value.table (finishEntries entries)).IsSound :=
  isSound_finishEntries h.distinct fun e he => (h.sound e he).finish

/-! ## Reading -/

theorem isSound_of_inRange? {n m : Int} (h : inRange? n = some m) : (Value.integer m).IsSound := by
  rw [inRange?] at h
  split at h
  · next hrange =>
    cases h
    exact .integer hrange.1 hrange.2
  · cases h

theorem isSound_of_readInteger? {cs rest : List Char} {n : Int}
    (h : readInteger? cs = some (n, rest)) : (Value.integer n).IsSound := by
  have hbased {base : Nat} {digits : List Char}
      (h : readInteger?.based? base digits = some (n, rest)) : (Value.integer n).IsSound := by
    simp only [readInteger?.based?, Option.bind_eq_bind, Option.bind_eq_some_iff] at h
    obtain ⟨_, -, m, hm, h⟩ := h
    cases h
    exact isSound_of_inRange? hm
  rw [readInteger?.eq_def] at h
  split at h
  · exact hbased h
  · exact hbased h
  · exact hbased h
  · simp only [Option.bind_eq_bind, Option.bind_eq_some_iff] at h
    obtain ⟨_, -, m, hm, h⟩ := h
    cases h
    exact isSound_of_inRange? hm

/-- A value of one part that is read is sound. -/
theorem isSound_of_readScalar? {cs rest : List Char} {v : Value}
    (h : readScalar? cs = some (v, rest)) : v.IsSound := by
  rw [readScalar?.eq_def] at h
  split at h
  · obtain ⟨_, -, h⟩ := Option.map_eq_some_iff.1 h
    cases h
    exact .text _
  · obtain ⟨_, -, h⟩ := Option.map_eq_some_iff.1 h
    cases h
    exact .text _
  · cases h
    exact .boolean true
  · cases h
    exact .boolean false
  · split at h
    · cases h
      exact .moment
    · split at h
      · cases h
        exact .floating
      · obtain ⟨_, hn, h⟩ := Option.map_eq_some_iff.1 h
        cases h
        exact isSound_of_readInteger? hn

/-- What is read with some fuel is sound: values, the items of an array, and the values of the pairs
in braces. -/
structure ReadsSound (fuel : Nat) : Prop where
  value : ∀ {depth cs v rest}, readValue? depth fuel cs = some (v, rest) → v.IsSound
  items : ∀ {depth cs vs rest}, readItems? depth fuel cs = some (vs, rest) → ∀ v ∈ vs, v.IsSound
  pairs : ∀ {depth cs ps rest}, readPairs? depth fuel cs = some (ps, rest) →
    ∀ p ∈ ps, p.value.IsSound

/-- A value that is read is sound, if those inside it are. -/
theorem isSound_of_readValue?_succ {fuel : Nat} (h : ReadsSound fuel) {depth : Nat}
    {cs rest : List Char} {v : Value} (hread : readValue? depth (fuel + 1) cs = some (v, rest)) :
    v.IsSound := by
  rw [readValue?.eq_def] at hread
  simp only at hread
  split at hread
  · -- an array
    split at hread
    · split at hread
      · cases hread
        exact .array (List.forall_mem_nil _)
      · obtain ⟨⟨items, _⟩, hitems, hread⟩ := Option.map_eq_some_iff.1 hread
        cases hread
        exact .array (h.items hitems)
    · cases hread
  · -- a table in braces, built like one under a header
    split at hread
    · split at hread
      · cases hread
        exact .table List.nodup_nil (List.forall_mem_nil _)
      · split at hread
        · next pairs rest hpairs =>
          obtain ⟨entries, hentries, hread⟩ := Option.map_eq_some_iff.1 hread
          cases hread
          exact (keepsSound_addPairs (h.pairs hpairs) areSound_nil hentries).finish
        · cases hread
    · cases hread
  · exact isSound_of_readScalar? hread

theorem isSound_of_readItems?_succ {fuel : Nat} (h : ReadsSound fuel) {depth : Nat}
    {cs rest : List Char} {vs : List Value}
    (hread : readItems? depth (fuel + 1) cs = some (vs, rest)) : ∀ v ∈ vs, v.IsSound := by
  rw [readItems?.eq_def] at hread
  simp only at hread
  split at hread
  · cases hread
  · next item after hitem =>
    have hfirst := h.value hitem
    split at hread
    · cases hread
      exact List.forall_mem_singleton.2 hfirst
    · split at hread
      · cases hread
        exact List.forall_mem_singleton.2 hfirst
      · obtain ⟨⟨items, _⟩, hitems, hread⟩ := Option.map_eq_some_iff.1 hread
        cases hread
        exact List.forall_mem_cons.2 ⟨hfirst, h.items hitems⟩
    · cases hread

theorem isSound_of_readPairs?_succ {fuel : Nat} (h : ReadsSound fuel) {depth : Nat}
    {cs rest : List Char} {ps : List Pair}
    (hread : readPairs? depth (fuel + 1) cs = some (ps, rest)) : ∀ p ∈ ps, p.value.IsSound := by
  rw [readPairs?.eq_def] at hread
  simp only at hread
  split at hread
  · split at hread
    · cases hread
    · next path key _ _ _ _ value after hvalue =>
      have hfirst := h.value hvalue
      split at hread
      · cases hread
        exact List.forall_mem_singleton.2 hfirst
      · obtain ⟨⟨pairs, _⟩, hpairs, hread⟩ := Option.map_eq_some_iff.1 hread
        cases hread
        exact List.forall_mem_cons.2 ⟨hfirst, h.pairs hpairs⟩
      · cases hread
  · cases hread

/-- Whatever the fuel, what is read is sound. -/
theorem readsSound (fuel : Nat) : ReadsSound fuel := by
  induction fuel with
  | zero =>
    refine ⟨?_, ?_, ?_⟩
    · intro depth cs v rest hread
      cases hread
    · intro depth cs v rest hread
      cases hread
    · intro depth cs v rest hread
      cases hread
  | succ fuel ih =>
    -- the three readers call one another with less fuel only
    exact ⟨isSound_of_readValue?_succ ih, isSound_of_readItems?_succ ih,
      isSound_of_readPairs?_succ ih⟩

theorem isSound_of_readPair {cs rest : List Char} {p : Pair}
    (h : readPair cs = some (p, rest)) : p.value.IsSound := by
  rw [readPair] at h
  split at h
  · obtain ⟨⟨value, _⟩, hvalue, h⟩ := Option.map_eq_some_iff.1 h
    cases h
    exact (readsSound _).value hvalue
  · cases h

/-- Lines are read into sections of sound values, when the pairs read so far are sound. -/
theorem isSound_of_readLines? {fuel : Nat} {header : Header} {pairs : List Pair} {cs : List Char}
    {sections : List Section} (hpairs : ∀ p ∈ pairs, p.value.IsSound)
    (h : readLines? header pairs fuel cs = some sections) :
    ∀ s ∈ sections, ∀ p ∈ s.pairs, p.value.IsSound := by
  induction fuel generalizing header pairs cs sections with
  | zero => cases h
  | succ fuel ih =>
    have hsection : ∀ p ∈ (⟨header, pairs.reverse⟩ : Section).pairs, p.value.IsSound :=
      fun p hp => hpairs p (List.mem_reverse.1 hp)
    rw [readLines?.eq_def] at h
    simp only at h
    split at h
    · -- the end of the text
      cases h
      exact List.forall_mem_singleton.2 hsection
    · -- a header, which closes the open section
      split at h
      · cases h
      · split at h
        · cases h
        · obtain ⟨later, hlater, rfl⟩ := Option.map_eq_some_iff.1 h
          exact List.forall_mem_cons.2 ⟨hsection, ih (List.forall_mem_nil _) hlater⟩
    · split at h
      · -- a line without a pair
        split at h
        · cases h
        · exact ih hpairs h
      · split at h
        · cases h
        · next pair _ hpair =>
          split at h
          · cases h
          · have hmore : ∀ p ∈ pair :: pairs, p.value.IsSound :=
              List.forall_mem_cons.2 ⟨isSound_of_readPair hpair, hpairs⟩
            exact ih hmore h

/-- A document is sound. -/
theorem isSound_of_parse? {cs : List Char} {document : List (String × Value)}
    (h : parse? cs = some document) : (Value.table document).IsSound := by
  simp only [parse?, Option.bind_eq_bind, Option.bind_eq_some_iff] at h
  obtain ⟨sections, hsections, entries, hentries, h⟩ := h
  cases h
  exact (areSound_of_build (isSound_of_readLines? (List.forall_mem_nil _) hsections)
    hentries).finish

end LinkWatch.Toml
