import LinkWatch.Files.Tree
import LinkWatch.Proofs.TextCuts
import Mathlib.Data.List.Basic

/-!
# Written files are where they were written

Making a file takes no directory away, so every walk that went through before still does. A path
that ends with a plain name leads to that name in a directory; where no device has the name, what
was written is there to be read.
-/

namespace LinkWatch.Files

open LinkWatch.Text

/-! ## Names at the end of a path -/

/-- A name of one piece, other than the dot. -/
structure IsPlainName (name : String) : Prop where
  no_slash : '/' ∉ name.toList
  ne_empty : name ≠ ""
  ne_dot : name ≠ "."

/-- A plain name is not empty and does not stand for its directory. -/
theorem toList_ne_of_isPlainName {name : String} (h : IsPlainName name) :
    name.toList ≠ [] ∧ name.toList ≠ ['.'] := by
  refine ⟨by simpa using h.ne_empty, fun heq => h.ne_dot ?_⟩
  rw [← String.ofList_toList (s := name), heq]

/-- A joined path ends with the name. -/
theorem toList_joinPath (directory name : String) :
    ∃ before, (joinPath directory name).toList = before ++ name.toList := by
  rw [joinPath]
  split
  · exact ⟨[], rfl⟩
  · split
    · exact ⟨_, String.toList_append⟩
    · exact ⟨(directory ++ "/").toList, String.toList_append⟩

/-- A plain name at the end of a path is its last piece. -/
theorem pieces_joinPath (directory : String) {name : String} (hslash : '/' ∉ name.toList) :
    ∃ before, pieces '/' (joinPath directory name).toList = before ++ [name.toList] := by
  rw [joinPath]
  split
  · exact ⟨[], pieces_of_not_mem hslash⟩
  · split
    · next hlast =>
      obtain ⟨before, hbefore⟩ := List.getLast?_eq_some_iff.1 hlast
      refine ⟨pieces '/' before, ?_⟩
      rw [String.toList_append, hbefore, List.append_assoc, List.singleton_append, pieces_append,
        pieces_of_not_mem hslash]
    · refine ⟨pieces '/' directory.toList, ?_⟩
      have hmark : (directory ++ "/" ++ name).toList = directory.toList ++ '/' :: name.toList := by
        simp [String.toList_append]
      rw [hmark, pieces_append, pieces_of_not_mem hslash]

/-- A text that ends with a plain name is not empty and does not end with a slash. -/
theorem ends_of_isPlainName {text name : String} (hname : IsPlainName name) {start : List Char}
    (hstart : text.toList = start ++ name.toList) :
    text ≠ "" ∧ text.toList.getLast? ≠ some '/' := by
  have hempty := (toList_ne_of_isPlainName hname).1
  constructor
  · rintro rfl
    exact hempty (List.append_eq_nil_iff.1 hstart.symm).2
  · rw [hstart, List.getLast?_append_of_ne_nil _ hempty]
    exact fun hslash => hname.no_slash (List.mem_of_getLast? hslash)

/-- The names of a path are its pieces, but for those that are empty or a dot. -/
def namesOf (pieces : List (List Char)) : List String :=
  ((pieces.filter (· ≠ [])).filter (· ≠ ['.'])).map String.ofList

/-- A path whose last piece is a plain name. -/
theorem ofString?_of_pieces {text name : String} (hname : IsPlainName name) {start : List Char}
    (hstart : text.toList = start ++ name.toList) {before : List (List Char)}
    (hpieces : pieces '/' text.toList = before ++ [name.toList]) :
    Path.ofString? text =
      some ⟨text.toList.head? = some '/', namesOf before ++ [name], false⟩ := by
  obtain ⟨hempty, hpoint⟩ := toList_ne_of_isPlainName hname
  obtain ⟨hne, hend⟩ := ends_of_isPlainName hname hstart
  simp only [Path.ofString?, if_neg hne, hpieces, hend, List.filter_append, List.filter_cons,
    hempty, hpoint, ne_eq, not_false_eq_true, decide_true, if_true, List.filter_nil,
    List.getLast?_append, List.getLast?_singleton, Option.some_or, Option.some.injEq, if_false,
    List.map_append, List.map_cons, List.map_nil, String.ofList_toList, namesOf, decide_false]

/-- A path below a directory ends with the name that was put there. -/
theorem getLast?_names {directory name : String} (hname : IsPlainName name) {path : Path}
    (h : Path.ofString? (joinPath directory name) = some path) :
    path.names.getLast? = some name := by
  obtain ⟨start, hstart⟩ := toList_joinPath directory name
  obtain ⟨before, hpieces⟩ := pieces_joinPath directory hname.no_slash
  rw [ofString?_of_pieces hname hstart hpieces] at h
  cases h
  exact List.getLast?_concat

/-- The path of a name below a directory has the names of the directory's path and that name. -/
theorem ofString?_joinPath {base last name : String} (hlast : IsPlainName last)
    (hname : IsPlainName name) {path : Path}
    (h : Path.ofString? (joinPath base last) = some path) :
    Path.ofString? (joinPath (joinPath base last) name) =
      some ⟨path.absolute, path.names ++ [name], false⟩ := by
  obtain ⟨start, hstart⟩ := toList_joinPath base last
  obtain ⟨before, hpieces⟩ := pieces_joinPath base hlast.no_slash
  obtain ⟨hne, hend⟩ := ends_of_isPlainName hlast hstart
  rw [ofString?_of_pieces hlast hstart hpieces] at h
  cases h
  have hjoined : (joinPath (joinPath base last) name).toList =
      (joinPath base last).toList ++ ['/'] ++ name.toList := by
    rw [joinPath, if_neg hne, if_neg hend, String.toList_append, String.toList_append]
    rfl
  have hhead : (joinPath (joinPath base last) name).toList.head? =
      (joinPath base last).toList.head? := by
    rw [hjoined, List.append_assoc, List.head?_append_of_ne_nil]
    simpa using hne
  have hjoinedpieces : pieces '/' (joinPath (joinPath base last) name).toList =
      before ++ [last.toList] ++ [name.toList] := by
    rw [hjoined, List.append_assoc, List.singleton_append, pieces_append, hpieces,
      pieces_of_not_mem hname.no_slash]
  have hnames : namesOf (before ++ [last.toList]) = namesOf before ++ [last] := by
    simp [namesOf, toList_ne_of_isPlainName hlast]
  rw [ofString?_of_pieces hname hjoined hjoinedpieces, hhead, hnames]

/-! ## Walks after a file was written -/

/-- No device has the name. -/
def IsFreeName (name : String) : Prop :=
  ∀ directory : Place, standing? (directory ++ [name]) = none

variable {t : Tree} {place : Place}

/-- In the second tree every directory is still one, and everything that exists still does. -/
structure Keeps (t t' : Tree) : Prop where
  directory : ∀ {place}, t.get? place = some .directory → t'.get? place = some .directory
  isSome : ∀ {place}, (t.get? place).isSome = true → (t'.get? place).isSome = true

/-- What is put at a spot takes no directory away. -/
theorem keeps_put (spot : Spot t) (made : Made) : Keeps t (t.put spot made) where
  directory := by
    intro other hother
    have hne : other ≠ spot.place := by
      rintro rfl
      exact spot.free hother
    rw [get?_put_of_ne t spot made hne, hother]
  isSome := by
    intro other hother
    by_cases heq : other = spot.place
    · rw [heq, get?_put_self t spot made]
      rfl
    · rw [get?_put_of_ne t spot made heq, hother]

/-- What a step needs, and where it leads. -/
theorem step_cases {here next : Place} {name : String} (h : t.step here name = .ok next) :
    t.get? here = some .directory ∧
      ((name = "." ∧ next = here) ∨ (name = ".." ∧ next = here.dropLast) ∨
        (isOrdinary name = true ∧ name.utf8ByteSize ≤ longestName ∧
          (t.get? next).isSome = true ∧ next = here ++ [name])) := by
  rw [Tree.step] at h
  split at h
  case h_1 hget =>
    refine ⟨hget, ?_⟩
    split at h
    case isTrue hdot =>
      cases h
      exact Or.inl ⟨hdot, rfl⟩
    case isFalse hdot =>
      split at h
      case isTrue hdots =>
        cases h
        exact Or.inr (Or.inl ⟨hdots, rfl⟩)
      case isFalse hdots =>
        split at h
        case isTrue => cases h
        case isFalse hlength =>
          split at h
          case isTrue hsome =>
            cases h
            have hordinary : isOrdinary name = true := by simp [isOrdinary, hdot, hdots]
            exact Or.inr (Or.inr ⟨hordinary, Nat.le_of_not_lt hlength, hsome, rfl⟩)
          case isFalse => cases h
  case h_2 => cases h
  case h_3 => cases h

/-- An ordinary name leads to what is there below a directory. -/
theorem step_ordinary {here : Place} {name : String} (hget : t.get? here = some .directory)
    (hordinary : isOrdinary name = true) (hlength : name.utf8ByteSize ≤ longestName)
    (hsome : (t.get? (here ++ [name])).isSome = true) :
    t.step here name = .ok (here ++ [name]) := by
  simp only [isOrdinary, ne_eq, Bool.and_eq_true, decide_eq_true_eq] at hordinary
  rw [Tree.step, hget]
  simp only [hordinary.1, hordinary.2, if_false, Nat.not_lt.2 hlength, hsome, if_true]

/-- A step of a path leads to the same place in a tree that keeps what there was. -/
theorem step_of_keeps {t' : Tree} (h : Keeps t t') {here next : Place} {name : String}
    (hstep : t.step here name = .ok next) : t'.step here name = .ok next := by
  obtain ⟨hget, hcases⟩ := step_cases hstep
  have hget' := h.directory hget
  rcases hcases with ⟨rfl, rfl⟩ | ⟨rfl, rfl⟩ | ⟨hordinary, hlength, hsome, rfl⟩
  · rw [Tree.step, hget']
    rfl
  · rw [Tree.step, hget']
    rfl
  · exact step_ordinary hget' hordinary hlength (h.isSome hsome)

/-- A walk that goes through still does where nothing that exists was taken away. -/
theorem walk_of_keeps {t' : Tree} (h : Keeps t t') {here there : Place} {names : List String}
    (hwalk : t.walk here names = .ok there) : t'.walk here names = .ok there := by
  induction names generalizing here with
  | nil => exact hwalk
  | cons name names ih =>
    rw [Tree.walk] at hwalk ⊢
    cases hstep : t.step here name with
    | error e =>
      rw [hstep] at hwalk
      cases hwalk
    | ok next =>
      rw [hstep] at hwalk
      rw [step_of_keeps h hstep]
      exact ih hwalk

/-- A path of more names is walked on from where the first ones lead. -/
theorem walk_append {here there : Place} {before : List String}
    (hwalk : t.walk here before = .ok there) (after : List String) :
    t.walk here (before ++ after) = t.walk there after := by
  induction before generalizing here with
  | nil =>
    cases hwalk
    rfl
  | cons name before ih =>
    rw [Tree.walk] at hwalk
    rw [List.cons_append, Tree.walk]
    cases hstep : t.step here name with
    | error e =>
      rw [hstep] at hwalk
      cases hwalk
    | ok next =>
      rw [hstep] at hwalk
      exact ih hwalk

/-! ## Written files -/

/-- Names lead to a directory that is found. -/
theorem walk_of_findDirectory {here : Place} {directory : Directory t} {names : List String}
    (h : t.findDirectory here names = .ok directory) : t.walk here names = .ok directory.place := by
  rw [Tree.findDirectory] at h
  cases hwalk : t.walk here names with
  | error e =>
    rw [hwalk] at h
    cases h
  | ok there =>
    simp only [hwalk] at h
    split at h
    case h_1 hget =>
      cases h
      rfl
    case h_2 => cases h
    case h_3 => cases h

/-- A file that is looked for and found is at the spot of its name. -/
theorem spot_of_look_file {directory : Directory t} {name : String} {spot : Spot t}
    (h : directory.look name = .file spot) : spot.directory = directory ∧ spot.name = name := by
  rw [Directory.look] at h
  split at h
  case h_3 =>
    cases h
    exact ⟨rfl, rfl⟩
  all_goals cases h

/-- Where nothing is found, nothing is at the spot of the name. -/
theorem spot_of_look_nothing {directory : Directory t} {name : String} {spot : Spot t}
    (h : directory.look name = .nothing spot) :
    spot.directory = directory ∧ spot.name = name ∧ t.get? spot.place = none := by
  rw [Directory.look] at h
  split at h
  case h_4 hget =>
    cases h
    exact ⟨rfl, rfl, hget⟩
  all_goals cases h

/-- Devices stand only at the system's own places. -/
theorem standing?_of_look_device {directory : Directory t} {name : String} {d : Device}
    (h : directory.look name = .device d) :
    standing? (directory.place ++ [name]) = some (.device d) := by
  rw [Directory.look] at h
  split at h
  case h_2 hget =>
    cases h
    rw [Tree.get?, entryAt?] at hget
    cases hstanding : standing? (directory.place ++ [name]) with
    | some e =>
      rw [hstanding] at hget
      exact hget
    | none =>
      rw [hstanding, Option.none_or, Option.map_eq_some_iff] at hget
      obtain ⟨made, -, hmade⟩ := hget
      cases made with
      | directory => cases hmade
      | file bytes => cases hmade
  all_goals cases h

theorem create_cases {t' : Tree} {spot : Spot t} {made : Made} (h : t.create spot made = .ok t') :
    t' = t.put spot made := by
  rw [Tree.create] at h
  split at h
  · cases h
  · cases h
    rfl

/-- What a write needs, and what it does where no device has the name. -/
theorem write_cases {t' : Tree} {path : Path} {bytes : List UInt8} {name : String}
    (hlast : path.names.getLast? = some name) (hfree : IsFreeName name)
    (h : t.write path bytes = .ok t') :
    ∃ spot : Spot t, t.walk (t.start path) path.names.dropLast = .ok spot.directory.place ∧
      spot.name = name ∧ path.slash = false ∧ isOrdinary name = true ∧
      name.utf8ByteSize ≤ longestName ∧ t' = t.put spot (.file bytes) := by
  rw [Tree.write, hlast] at h
  cases hfind : t.findDirectory (t.start path) path.names.dropLast with
  | error e =>
    rw [hfind] at h
    cases h
  | ok directory =>
    have hwalk := walk_of_findDirectory hfind
    simp only [hfind, Bool.or_eq_true, Bool.not_eq_true'] at h
    split at h
    case isTrue => cases h
    case isFalse hplain =>
      obtain ⟨hslash, hordinary⟩ := not_or.1 hplain
      split at h
      case isTrue => cases h
      case isFalse hlong =>
        have hlength : name.utf8ByteSize ≤ longestName := by
          simp only [isTooLong, Bool.and_eq_true, decide_eq_true_eq, not_and] at hlong
          exact Nat.le_of_not_lt (hlong (by simpa using hordinary))
        have hput : ∃ spot : Spot t, spot.directory = directory ∧ spot.name = name ∧
            t' = t.put spot (.file bytes) := by
          split at h
          case h_1 => cases h
          case h_2 hdevice =>
            have hstanding := standing?_of_look_device hdevice
            rw [hfree directory.place] at hstanding
            cases hstanding
          case h_3 spot hfile =>
            obtain ⟨hdirectory, hname⟩ := spot_of_look_file hfile
            cases h
            exact ⟨spot, hdirectory, hname, rfl⟩
          case h_4 spot hnothing =>
            obtain ⟨hdirectory, hname, -⟩ := spot_of_look_nothing hnothing
            exact ⟨spot, hdirectory, hname, create_cases h⟩
        obtain ⟨spot, rfl, hname, hput⟩ := hput
        exact ⟨spot, hwalk, hname, by simpa using hslash, by simpa using hordinary, hlength, hput⟩

/-- What was written to a file is read from it, as long as no device has its name. -/
theorem read_of_write {t' : Tree} {path : Path} {bytes : List UInt8} {name : String}
    (hlast : path.names.getLast? = some name) (hfree : IsFreeName name)
    (h : t.write path bytes = .ok t') : t'.read path = .ok bytes := by
  obtain ⟨spot, hwalk, rfl, hslash, hordinary, hlength, rfl⟩ := write_cases hlast hfree h
  have hget : (t.put spot (.file bytes)).get? spot.place = some (.file bytes) :=
    get?_put_self t spot _
  have hnames : path.names = path.names.dropLast ++ [spot.name] :=
    (List.dropLast_append_getLast? spot.name hlast).symm
  have hstep : (t.put spot (.file bytes)).step spot.directory.place spot.name = .ok spot.place :=
    step_ordinary ((keeps_put spot _).directory spot.directory.isDirectory) hordinary hlength
      (by rw [← Spot.place, hget]; rfl)
  have hthere : (t.put spot (.file bytes)).walk (t.start path) path.names = .ok spot.place := by
    rw [hnames, walk_append (walk_of_keeps (keeps_put spot _) hwalk), Tree.walk, hstep]
    rfl
  have hstart : (t.put spot (.file bytes)).start path = t.start path := rfl
  rw [Tree.read, Tree.find, hstart, hthere]
  simp only [hget, hslash]
  rfl

end LinkWatch.Files
