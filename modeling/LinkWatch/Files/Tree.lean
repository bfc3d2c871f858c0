import LinkWatch.Fault
import LinkWatch.Text.Split
import LinkWatch.Text.Utf8

/-!
# A tree of files

The files and directories that exist, each at its place: the list of names that leads to it from
the root. The root is always a directory, and some places are the system's own: the same devices
stand there in every tree. Whatever exists is in a directory, and a tree carries the proof of it:
things can be put only into directories, and no directory can be replaced. Walking a path meets the
system's usual errors, and a failed request changes nothing but the directories that were made on
the way.

A path is a list of names, taken from the root or from the working directory. The name `..` leads
to the directory above; `.` stays, and is kept only at the end of a path, where it demands a
directory as a slash does.

Links and permissions are left out: no name stands for another path, and everybody may read and
write everything.
-/

namespace LinkWatch.Files

/-! ## Paths -/

/-- A path. -/
structure Path where
  absolute : Bool
  names : List String
  /-- Whether the text ends with a slash. -/
  slash : Bool
  deriving DecidableEq, Repr

/-- The path that a text names; the empty text names none. -/
def Path.ofString? (text : String) : Option Path :=
  if text = "" then none
  else
    let pieces := (Text.pieces '/' text.toList).filter (· ≠ [])
    let names := pieces.filter (· ≠ ['.'])
    let names := if pieces.getLast? = some ['.'] then names ++ [['.']] else names
    some ⟨text.toList.head? = some '/', names.map String.ofList, text.toList.getLast? = some '/'⟩

/-- The text of a path below a directory. -/
def joinPath (directory name : String) : String :=
  if directory = "" then name
  else if directory.toList.getLast? = some '/' then directory ++ name
  else directory ++ "/" ++ name

/-- Whether a name is an ordinary one. -/
def isOrdinary (name : String) : Bool :=
  name ≠ "." && name ≠ ".."

/-! ## The tree -/

/-- A list of names from the root. -/
abbrev Place := List String

/-- Something that can be read and written and keeps nothing. -/
inductive Device where
  /-- Takes everything and has nothing to be read. -/
  | null
  /-- Takes everything and has no end. -/
  | endless
  /-- Takes nothing and has no end. -/
  | full
  /-- Cannot even be opened. -/
  | absent
  deriving DecidableEq, Repr

/-- What exists at a place. -/
inductive Entry where
  | directory
  | file (bytes : List UInt8)
  | device (d : Device)
  deriving DecidableEq, Repr

/-- What can be made: devices only stand at the system's own places. -/
inductive Made where
  | directory
  | file (bytes : List UInt8)
  deriving DecidableEq, Repr

/-- What is made, as something that exists. -/
def Made.entry : Made → Entry
  | .directory => .directory
  | .file bytes => .file bytes

/-- What stands at the system's own places. -/
def standing? : Place → Option Entry
  | [] => some .directory
  | ["dev"] => some .directory
  | ["proc"] => some .directory
  | ["sys"] => some .directory
  | ["dev", "null"] => some (.device .null)
  | ["dev", "stdin"] => some (.device .null)
  | ["dev", "zero"] => some (.device .endless)
  | ["dev", "random"] => some (.device .endless)
  | ["dev", "urandom"] => some (.device .endless)
  | ["dev", "full"] => some (.device .full)
  | ["dev", "tty"] => some (.device .absent)
  | _ => none

/-- Why nothing can be added below a place, if that is so. -/
def sealed? : Place → Option OsError
  | "proc" :: _ => some .notFound
  | "sys" :: _ => some .readOnly
  | _ => none

/-- What exists at a place if some things have been made, the newest first. A newer one replaces an
older one of the same place. -/
def entryAt? (entries : List (Place × Made)) (place : Place) : Option Entry :=
  (standing? place).or ((entries.lookup place).map Made.entry)

/-- Whatever exists is in a directory. -/
def IsRooted (entries : List (Place × Made)) : Prop :=
  ∀ place name, (entryAt? entries (place ++ [name])).isSome = true →
    entryAt? entries place = some .directory

/-- All files and directories, and the directory from which relative paths start. -/
structure Tree where
  entries : List (Place × Made)
  working : Place
  rooted : IsRooted entries

/-- What exists at a place. -/
def Tree.get? (t : Tree) (place : Place) : Option Entry :=
  entryAt? t.entries place

/-- What stands in every tree is in a directory. -/
theorem isRooted_nil : IsRooted [] := by
  intro place name hsome
  generalize hbelow : place ++ [name] = below at hsome
  have hplace : place = below.dropLast := by rw [← hbelow, List.dropLast_concat]
  simp only [entryAt?, List.lookup_nil, Option.map_none, Option.or_none] at hsome ⊢
  rw [hplace]
  unfold standing? at hsome
  split at hsome
  all_goals
    first
    | rfl
    | cases hsome

/-- The tree in which nothing has been made. -/
def Tree.empty (working : Place) : Tree :=
  ⟨[], working, isRooted_nil⟩

/-! ## Making things -/

/-- A directory of a tree. -/
structure Directory (t : Tree) where
  place : Place
  isDirectory : t.get? place = some .directory

/-- A name in a directory under which something can be put: there is nothing so far or a file. -/
structure Spot (t : Tree) where
  directory : Directory t
  name : String
  standing : standing? (directory.place ++ [name]) = none
  free : t.get? (directory.place ++ [name]) ≠ some .directory

/-- Where a spot is. -/
def Spot.place {t : Tree} (spot : Spot t) : Place :=
  spot.directory.place ++ [spot.name]

theorem entryAt?_cons_of_ne (entries : List (Place × Made)) {place other : Place} (made : Made)
    (h : other ≠ place) : entryAt? ((place, made) :: entries) other = entryAt? entries other := by
  have hne : (other == place) = false := by simpa using h
  simp [entryAt?, List.lookup_cons, hne]

/-- What is put into a directory leaves everything in a directory. -/
theorem Spot.isRooted_cons {t : Tree} (spot : Spot t) (made : Made) :
    IsRooted ((spot.place, made) :: t.entries) := by
  intro place name hsome
  -- no directory was replaced, so those that were there still are
  have hkept {place : Place} (h : entryAt? t.entries place = some .directory) :
      entryAt? ((spot.place, made) :: t.entries) place = some .directory := by
    rw [entryAt?_cons_of_ne, h]
    rintro rfl
    exact spot.free h
  by_cases heq : place ++ [name] = spot.place
  · obtain ⟨rfl, -⟩ := List.append_inj' heq rfl
    exact hkept spot.directory.isDirectory
  · rw [entryAt?_cons_of_ne _ _ heq] at hsome
    exact hkept (t.rooted place name hsome)

/-- The tree with something put at a spot. -/
def Tree.put (t : Tree) (spot : Spot t) (made : Made) : Tree :=
  ⟨(spot.place, made) :: t.entries, t.working, spot.isRooted_cons made⟩

/-- The tree with something made at a spot where nothing is, unless nothing can be added there. -/
def Tree.create (t : Tree) (spot : Spot t) (made : Made) : Except OsError Tree :=
  match sealed? spot.place with
  | some e => .error e
  | none => .ok (t.put spot made)

/-- Files are nowhere among the system's own things. -/
theorem standing?_of_file {t : Tree} {place : Place} {bytes : List UInt8}
    (h : t.get? place = some (.file bytes)) : standing? place = none := by
  rw [Tree.get?, entryAt?] at h
  cases hstanding : standing? place with
  | none => rfl
  | some e =>
    rw [hstanding] at h
    cases h
    unfold standing? at hstanding
    split at hstanding
    all_goals cases hstanding

theorem standing?_of_none {t : Tree} {place : Place} (h : t.get? place = none) :
    standing? place = none :=
  (Option.or_eq_none_iff.1 h).1

/-- What a directory has under a name. -/
inductive Found (t : Tree) where
  | directory
  | device (d : Device)
  | file (spot : Spot t)
  | nothing (spot : Spot t)

/-- Looks for a name in a directory. -/
def Directory.look {t : Tree} (directory : Directory t) (name : String) : Found t :=
  match h : t.get? (directory.place ++ [name]) with
  | some .directory => .directory
  | some (.device d) => .device d
  | some (.file _) => .file ⟨directory, name, standing?_of_file h, by simp [h]⟩
  | none => .nothing ⟨directory, name, standing?_of_none h, by simp [h]⟩

/-! ## Walks -/

/-- The longest name that a file can have, in bytes. -/
def longestName : Nat := 255

/-- One step of a walk, from a place that has to be a directory. -/
def Tree.step (t : Tree) (place : Place) (name : String) : Except OsError Place :=
  match t.get? place with
  | some .directory =>
    if name = "." then .ok place
    else if name = ".." then .ok place.dropLast
    else if longestName < name.utf8ByteSize then .error .nameTooLong
    else if (t.get? (place ++ [name])).isSome then .ok (place ++ [name])
    else .error .notFound
  | some _ => .error .notDirectory
  | none => .error .notFound

/-- Walks names from a place. -/
def Tree.walk (t : Tree) (place : Place) : List String → Except OsError Place
  | [] => .ok place
  | name :: names =>
    match t.step place name with
    | .ok next => t.walk next names
    | .error e => .error e

/-- Where a path starts. -/
def Tree.start (t : Tree) (path : Path) : Place :=
  if path.absolute then [] else t.working

/-- The place and the entry that a path leads to. With a slash at its end it has to be a
directory. -/
def Tree.find (t : Tree) (path : Path) : Except OsError (Place × Entry) :=
  match t.walk (t.start path) path.names with
  | .error e => .error e
  | .ok place =>
    match t.get? place with
    | none => .error .notFound
    | some .directory => .ok (place, .directory)
    | some entry => if path.slash then .error .notDirectory else .ok (place, entry)

/-- Whether a directory exists at a path. -/
def Tree.isDirectory (t : Tree) (path : Path) : Bool :=
  match t.find path with
  | .ok (_, .directory) => true
  | _ => false

/-- All bytes that a device has. -/
def Device.read : Device → Except OsError (List UInt8)
  | .null => .ok []
  | .absent => .error .noDevice
  | _ => .error .noMemory

/-- What becomes of bytes that are written to a device. -/
def Device.write : Device → Except OsError Unit
  | .full => .error .noSpace
  | .absent => .error .noDevice
  | _ => .ok ()

/-- The bytes of a file. -/
def Tree.read (t : Tree) (path : Path) : Except OsError (List UInt8) :=
  match t.find path with
  | .ok (_, .file bytes) => .ok bytes
  | .ok (_, .device d) => d.read
  | .ok (_, .directory) => .error .isDirectory
  | .error e => .error e

/-- The directory to which names lead, which has to exist. -/
def Tree.findDirectory (t : Tree) (place : Place) (names : List String) :
    Except OsError (Directory t) :=
  match t.walk place names with
  | .error e => .error e
  | .ok there =>
    match h : t.get? there with
    | some .directory => .ok ⟨there, h⟩
    | some _ => .error .notDirectory
    | none => .error .notFound

/-- Whether a name is longer than an ordinary name can be. -/
def isTooLong (name : String) : Bool :=
  isOrdinary name && longestName < name.utf8ByteSize

/-- Writes a file, new or not. -/
def Tree.write (t : Tree) (path : Path) (bytes : List UInt8) : Except OsError Tree :=
  match path.names.getLast? with
  | none => .error .isDirectory
  | some name =>
    match t.findDirectory (t.start path) path.names.dropLast with
    | .error e => .error e
    | .ok directory =>
      if path.slash || !isOrdinary name then .error .isDirectory
      else if isTooLong name then .error .nameTooLong
      else
        match directory.look name with
        | .directory => .error .isDirectory
        | .device d => d.write.map fun _ => t
        | .file spot => .ok (t.put spot (.file bytes))
        | .nothing spot => t.create spot (.file bytes)

/-- Makes one directory, where nothing may exist yet. -/
def Tree.makeOne (t : Tree) (path : Path) : Except OsError Tree :=
  match path.names.getLast? with
  | none => .error .exists
  | some name =>
    match t.findDirectory (t.start path) path.names.dropLast with
    | .error e => .error e
    | .ok directory =>
      if isTooLong name then .error .nameTooLong
      else if !isOrdinary name then .error .exists
      else
        match directory.look name with
        | .nothing spot => t.create spot .directory
        | _ => .error .exists

/-- Makes a directory, and if something is missing on the way to it, first the directories above. A
directory that exists already is as good as a new one. What was made before something went wrong
stays. -/
def Tree.makeBelow (t : Tree) (path : Path) (makeAbove : Tree → Except OsError Unit × Tree) :
    Except OsError Unit × Tree :=
  let existing (t : Tree) (e : OsError) : Except OsError Unit × Tree :=
    (if t.isDirectory path then .ok () else .error e, t)
  match t.makeOne path with
  | .ok t => (.ok (), t)
  | .error .notFound =>
    match makeAbove t with
    | (.error e, t) => (.error e, t)
    | (.ok (), t) =>
      match t.makeOne path with
      | .ok t => (.ok (), t)
      | .error e => existing t e
  | .error e => existing t e

/-- Makes a directory and those above it, which are given by their names in reverse. -/
def Tree.makeUpward (absolute : Bool) : List String → Tree → Except OsError Unit × Tree
  | [], t => (.ok (), t)
  | name :: above, t =>
    t.makeBelow ⟨absolute, (name :: above).reverse, false⟩ (Tree.makeUpward absolute above)

/-- Makes a directory and all directories above it. A dot at the end is no directory to be made:
what it stands in counts as missing too. -/
def Tree.makeAll (t : Tree) (path : Path) : Except OsError Unit × Tree :=
  match path.names.reverse with
  | "." :: names => t.makeBelow path (Tree.makeUpward path.absolute (names.drop 1))
  | names => Tree.makeUpward path.absolute names t

/-! ## Small facts -/

@[simp] theorem get?_put_self (t : Tree) (spot : Spot t) (made : Made) :
    (t.put spot made).get? spot.place = some made.entry := by
  have hstanding : standing? spot.place = none := spot.standing
  simp [Tree.get?, Tree.put, entryAt?, hstanding]

theorem get?_put_of_ne (t : Tree) (spot : Spot t) (made : Made) {other : Place}
    (h : other ≠ spot.place) : (t.put spot made).get? other = t.get? other :=
  entryAt?_cons_of_ne t.entries made h

end LinkWatch.Files
