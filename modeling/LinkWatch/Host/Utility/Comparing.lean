import LinkWatch.Host.Utility.Date
import LinkWatch.Host.Utility.EditPath
import LinkWatch.Host.Utility.Holdings

/-!
# Differences between files

The changes that lead from one file to another are shown one by one, or with the lines around them,
or side by side. Directories are compared name by name.
-/

namespace LinkWatch.Host.Utility

open LinkWatch.Text LinkWatch.Host.Kernel LinkWatch.Decimal

/-- How changes are shown. -/
inductive DiffStyle where
  | plain
  | unified (around : Nat)
  | context (around : Nat)
  /-- As commands for an editor, the last one first. -/
  | commands
  /-- As commands with line numbers and counts. -/
  | counted
  | columns (width : Nat)
  deriving DecidableEq

/-- A line of a file, and whether it has its end. -/
structure FileLine where
  text : Bytes
  isEnded : Bool
  deriving DecidableEq

/-- What is compared and how it is shown. -/
structure DiffView where
  call : Call
  options : Options
  style : DiffStyle
  /-- The options as they are named when files of directories are compared. -/
  words : List Bytes

/-- One of two files: how it is named, its lines, and its time in nanoseconds. -/
structure DiffSide where
  label : Option Bytes
  name : Bytes
  lines : Array FileLine
  time : Int

/-- The lines of a text. -/
def fileLines (cs : Bytes) : List FileLine :=
  let (lines, isEnded) := linesOf cs
  let count := lines.length
  (lines.mapIdx fun i l => (⟨l, isEnded || i + 1 < count⟩ : FileLine)).filter fun l =>
    l.isEnded || l.text ≠ []

/-- A text with each run of blanks made one, and without blanks at its end. -/
def squeezedBlanks : Bytes → Bytes
  | [] => []
  | c :: cs =>
    let rest := squeezedBlanks cs
    if isSpaceChar c then
      match rest with
      | [] => []
      | ' ' :: _ => rest
      | _ => ' ' :: rest
    else c :: rest

/-- What counts of a line. -/
def DiffView.key (v : DiffView) (l : FileLine) : Bytes :=
  let o := v.options
  let cs := l.text
  let cs := if o.has 'i' then cs.map Char.toLower else cs
  let cs :=
    if o.has 'w' then cs.filter fun c => !isSpaceChar c
    else if o.has 'b' then squeezedBlanks cs
    else if o.has 'Z' then (cs.reverse.dropWhile isSpaceChar).reverse
    else if o.has 'R' && cs.getLast? = some '\r' then cs.dropLast
    else cs
  let ignoresEnds := o.has 'w' || o.has 'b' || o.has 'Z'
  if l.isEnded || ignoresEnds then cs else cs ++ ['\u0100']

/-- Whether a change is of no interest. -/
def DiffView.ignores (v : DiffView) (a b : DiffSide) (c : Change) : Bool :=
  let isBlank (l : FileLine) : Bool :=
    if v.options.has 'w' || v.options.has 'b' then l.text.all isSpaceChar else l.text = []
  v.options.has 'B'
    && (a.lines.extract c.first (c.first + c.removed)).all isBlank
    && (b.lines.extract c.second (c.second + c.added)).all isBlank

/-- How many lines around changes are shown. -/
def DiffStyle.around : DiffStyle → Nat
  | .unified n => n
  | .context n => n
  | _ => 0

/-- The changes from one list of lines to another. -/
def DiffView.changes (v : DiffView) (xs ys : List FileLine) : List Change :=
  let margin := v.style.around
  let common := ((xs.zip ys).takeWhile fun p => p.1 = p.2).length
  let before := common - margin
  let xs := xs.drop before
  let ys := ys.drop before
  let most := min (xs.length - (common - before)) (ys.length - (common - before))
  let shared := (((xs.reverse.zip ys.reverse).take most).takeWhile fun p => p.1 = p.2).length
  let after := shared - margin
  let xs := xs.take (xs.length - after)
  let ys := ys.take (ys.length - after)
  let c := changesBetween (xs.map v.key) (ys.map v.key)
  (c.list (xs.length + ys.length + 2) 0 0).map fun c =>
    { c with first := c.first + before, second := c.second + before }

/-! ## Showing -/

/-- A line with something before it. -/
def FileLine.shown (l : FileLine) (mark : Bytes) : Bytes :=
  line (mark ++ l.text) ++ (if l.isEnded then [] else line "\\ No newline at end of file".toList)

/-- Some lines with something before each. -/
def shownLines (mark : String) (lines : Array FileLine) (start count : Nat) : Bytes :=
  ((lines.extract start (start + count)).toList.map fun l => l.shown mark.toList).flatten

/-- The numbers of some lines. -/
def rangeText (start count : Nat) : Bytes :=
  if 1 < count then digitsOf (start + 1) ++ ',' :: digitsOf (start + count)
  else digitsOf (start + count)

/-- A change by itself. -/
def plainChange (a b : DiffSide) (c : Change) : Bytes :=
  let letter := if c.removed = 0 then 'a' else if c.added = 0 then 'd' else 'c'
  line (rangeText c.first c.removed ++ letter :: rangeText c.second c.added)
    ++ shownLines "< " a.lines c.first c.removed
    ++ (if letter = 'c' then line "---".toList else [])
    ++ shownLines "> " b.lines c.second c.added

/-- A change as a command for an editor. -/
def commandChange (b : DiffSide) (c : Change) : Bytes :=
  let letter := if c.removed = 0 then 'a' else if c.added = 0 then 'd' else 'c'
  line (rangeText c.first c.removed ++ [letter])
    ++ (if c.added = 0 then [] else shownLines "" b.lines c.second c.added ++ line ['.'])

/-- A change as commands with counts. -/
def countedChange (b : DiffSide) (c : Change) : Bytes :=
  (if c.removed = 0 then []
    else line ('d' :: digitsOf (c.first + 1) ++ ' ' :: digitsOf c.removed))
    ++ (if c.added = 0 then []
      else line ('a' :: digitsOf (c.first + c.removed) ++ ' ' :: digitsOf c.added)
        ++ ((b.lines.extract c.second (c.second + c.added)).toList.map fun l =>
          lineAs l.text l.isEnded).flatten)

/-- Changes that are near each other, in groups. -/
def nearChanges (around : Nat) : List Change → List (List Change)
  | [] => []
  | c :: cs =>
    match nearChanges around cs with
    | (d :: ds) :: groups =>
      if d.first - (c.first + c.removed) ≤ 2 * around then (c :: d :: ds) :: groups
      else [c] :: (d :: ds) :: groups
    | groups => [c] :: groups

/-- Some lines around a group of changes: where they start in both files, and how many there are. -/
structure Hunk where
  changes : List Change
  first : Nat
  firstCount : Nat
  second : Nat
  secondCount : Nat

/-- The lines around a group of changes. -/
def hunkOf (around : Nat) (a b : DiffSide) (changes : List Change) : Hunk :=
  let head := changes.headD ⟨0, 0, 0, 0⟩
  let last := changes.getLast?.getD head
  let first := head.first - around
  let second := head.second - around
  let firstStop := min (last.first + last.removed + around) a.lines.size
  let secondStop := min (last.second + last.added + around) b.lines.size
  ⟨changes, first, firstStop - first, second, secondStop - second⟩

/-- The numbers of lines in a hunk that shows both files together. -/
def unifiedRange (start count : Nat) : Bytes :=
  if count = 0 then digitsOf start ++ [',', '0']
  else if count = 1 then digitsOf (start + 1)
  else digitsOf (start + 1) ++ ',' :: digitsOf count

/-- A hunk that shows both files together. -/
def Hunk.unified (h : Hunk) (a b : DiffSide) : Bytes :=
  let rec body : List Change → Nat → Bytes
    | [], i => shownLines " " a.lines i (h.first + h.firstCount - i)
    | c :: cs, i =>
      shownLines " " a.lines i (c.first - i) ++ shownLines "-" a.lines c.first c.removed
        ++ shownLines "+" b.lines c.second c.added ++ body cs (c.first + c.removed)
  line ("@@ -".toList ++ unifiedRange h.first h.firstCount ++ " +".toList
    ++ unifiedRange h.second h.secondCount ++ " @@".toList) ++ body h.changes h.first

/-- One side of a hunk that shows the files one after the other. -/
def sideLines (lines : Array FileLine) (only : String) : List (Nat × Nat × Bool) → Nat → Nat → Bytes
  | [], i, stop => shownLines "  " lines i (stop - i)
  | (start, count, isBoth) :: cs, i, stop =>
    shownLines "  " lines i (start - i)
      ++ shownLines (if isBoth then "! " else only) lines start count
      ++ sideLines lines only cs (start + count) stop

/-- A hunk that shows the files one after the other. -/
def Hunk.context (h : Hunk) (a b : DiffSide) : Bytes :=
  let isBoth (c : Change) : Bool := 0 < c.removed && 0 < c.added
  let removed := h.changes.any fun c => 0 < c.removed
  let added := h.changes.any fun c => 0 < c.added
  line "***************".toList
    ++ line ("*** ".toList ++ rangeText h.first h.firstCount ++ " ****".toList)
    ++ (if removed then sideLines a.lines
      "- " (h.changes.map fun c => (c.first, c.removed, isBoth c)) h.first
        (h.first + h.firstCount) else [])
    ++ line ("--- ".toList ++ rangeText h.second h.secondCount ++ " ----".toList)
    ++ (if added then sideLines b.lines "+ " (h.changes.map fun c => (c.second, c.added, isBoth c))
      h.second
        (h.second + h.secondCount) else [])

/-- The line that names a file. -/
def DiffSide.heading (s : DiffSide) (mark format : String) (zone : Zone) : Bytes :=
  let shown := match s.label with
    | some label => label
    | none =>
      let moment := zone.moment (s.time / 1000000000) (s.time % 1000000000).toNat
      s.name ++ '\t' :: moment.inFormat format.toList
  line (mark.toList ++ ' ' :: shown)

/-! ## Side by side -/

/-- Tabs and blanks from a column to another one. -/
def gapTo (column target : Nat) : Bytes :=
  let stop := target / 8 * 8
  if column < stop then
    List.replicate (stop / 8 - column / 8) '\t' ++ List.replicate (target - stop) ' '
  else List.replicate (target - column) ' '

/-- Two lines side by side with a sign between them. -/
def columnsLine (width : Nat) (left right : Option FileLine) (sign : Char) : Bytes :=
  let middle := width / 2 + 5 + width % 2
  let offset := middle - middle % 8
  let half := min (offset - 3) (width - offset)
  let leftText := (left.elim [] FileLine.text).take half
  let place := (half + offset - 1) / 2
  let (head, column) : Bytes × Nat :=
    if sign = ' ' then (leftText, leftText.length)
    else
      let sign := match left, right with
        | some l, some r =>
          if sign = '|' && l.isEnded != r.isEnded then if l.isEnded then '/' else '\\' else sign
        | _, _ => sign
      (leftText ++ gapTo leftText.length place ++ [sign], place + 1)
  let tail := match right with
    | some r => if r.text = [] then [] else gapTo column offset ++ r.text.take half
    | none => []
  let isEnded := left.any FileLine.isEnded || right.any FileLine.isEnded
  head ++ tail ++ (if isEnded then ['\n'] else [])

/-- Some lines of one side or of both, with a sign between them. -/
def columnsLines (width : Nat) (a b : DiffSide) (sign : Char) (i j count : Nat) : Bytes :=
  ((List.range count).map fun n =>
    columnsLine width (if sign = '>' then none else a.lines[i + n]?) (if sign = '<' then none
      else b.lines[j + n]?)
      sign).flatten

/-- Both files side by side. -/
def columnsText (width : Nat) (hidesCommon leftOnly : Bool) (a b : DiffSide) :
    List Change → Nat → Nat → Bytes
  | changes, i, j =>
    let common (i j count : Nat) : Bytes :=
      if hidesCommon then []
      else if leftOnly then
        ((List.range count).map fun n => columnsLine width a.lines[i + n]? none '(').flatten
      else columnsLines width a b ' ' i j count
    match changes with
    | [] => common i j (a.lines.size - i)
    | c :: cs =>
      let both := min c.removed c.added
      common i j (c.first - i) ++ columnsLines width a b '|' c.first c.second both
        ++ columnsLines width a b '<' (c.first + both) 0 (c.removed - both)
        ++ columnsLines width a b '>' 0 (c.second + both) (c.added - both)
        ++ columnsText width hidesCommon leftOnly a b cs (c.first + c.removed) (c.second + c.added)

/-! ## Files -/

/-- The text that shows changes. -/
def DiffView.text (v : DiffView) (a b : DiffSide) (changes : List Change) : Bytes :=
  let zone := v.call.environment.zone
  match v.style with
  | .plain => changes.flatMap (plainChange a b)
  | .commands => changes.reverse.flatMap (commandChange b)
  | .counted => changes.flatMap (countedChange b)
  | .columns width => columnsText width (v.options.has 'S') (v.options.has 'l') a b changes 0 0
  | .unified n =>
    let hunks := (nearChanges n changes).map (hunkOf n a b)
    a.heading "---" "%Y-%m-%d %H:%M:%S.%N %z" zone ++ b.heading "+++" "%Y-%m-%d %H:%M:%S.%N %z" zone
      ++ hunks.flatMap fun h => h.unified a b
  | .context n =>
    let hunks := (nearChanges n changes).map (hunkOf n a b)
    a.heading "***" "%a %b %e %T %Y" zone ++ b.heading "---" "%a %b %e %T %Y" zone
      ++ hunks.flatMap fun h => h.context a b

/-- Compares two texts; `heading` is written before their changes. The answer is 0 if they are the
same. -/
def DiffView.texts (v : DiffView) (heading nameA nameB textA textB : Bytes) (timeA timeB : Int) :
    Program Nat := do
  let o := v.options
  let differ (words : String) : Program Nat := do
    let _ ← writeTo 1 (line (words.toList ++ nameA ++ " and ".toList ++ nameB ++ " differ".toList))
    return 1
  let same : Program Nat := do
    if o.has 's' then
      let _ ← writeTo 1
        (line ("Files ".toList ++ nameA ++ " and ".toList ++ nameB ++ " are identical".toList))
    return 0
  let isBinary (text : Bytes) : Bool := !o.has 'a' && (text.take 32768).contains '\x00'
  let isColumns : Bool := match v.style with
    | .columns _ => true
    | _ => false
  if textA = textB && !isColumns then same
  else if isBinary textA || isBinary textB then
    if textA = textB then same else differ (if o.has 'q' then "Files " else "Binary files ")
  else
    let xs := fileLines textA
    let ys := fileLines textB
    let labels := o.values 'L'
    let a : DiffSide := ⟨labels[0]?, nameA, xs.toArray, timeA⟩
    let b : DiffSide := ⟨labels[1]?, nameB, ys.toArray, timeB⟩
    let all := v.changes xs ys
    let groups := nearChanges v.style.around all
    let kept := (groups.filter fun g => !g.all (v.ignores a b)).flatten
    if kept = [] && !isColumns then same
    else if o.has 'q' then differ "Files "
    else
      let _ ← writeTo 1 (heading ++ v.text a b kept)
      return if kept = [] then 0 else 1

/-- The time and the text of a file; a dash stands for the input. -/
def timedText (path : Bytes) : Program (Except OsError (Int × Bytes)) := do
  match ← readFile path with
  | .error e => return .error e
  | .ok text =>
    let time ← inquire fun d =>
      if path = ['-'] then (d.now : Int)
      else
        match d.find path with
        | .ok f => (f.node.time : Int)
        | .error _ => 0
    return .ok (time, text)

/-- Compares two files. One that is missing counts as empty if that is asked for. -/
def DiffView.files (v : DiffView) (heading pathA pathB : Bytes) : Program Nat := do
  let load (path : Bytes) : Program (Option (Int × Bytes)) := do
    match ← timedText path with
    | .ok p => return some p
    | .error e =>
      if e = .notFound && v.options.has 'N' then return some (0, [])
      else
        v.call.complain (path ++ ':' :: ' ' :: wordsOf e)
        return none
  let a ← load pathA
  let b ← load pathB
  match a, b with
  | some (timeA, textA), some (timeB, textB) => v.texts heading pathA pathB textA textB timeA timeB
  | _, _ => return 2

/-- What is at a path: nothing, a directory, or something else. -/
def natureOf (path : Bytes) : Program (Option Bool) :=
  inquire fun d =>
    match d.find path with
    | .ok f => some (f.node.kind = .directory)
    | .error _ => none

/-- Compares two directories name by name. -/
def DiffView.directories (v : DiffView) : Nat → Bytes → Bytes → Program Nat
  | 0, _, _ => return 0
  | fuel + 1, a, b => do
    let names (path : Bytes) : Program (List Bytes) := inquire fun d =>
      match d.find path with
      | .ok f => d.names f.location
      | .error _ => []
    let mine ← names a
    let others ← names b
    let all := (mine ++ others.filter fun n => !mine.contains n).mergeSort fun x y => !isBefore y x
    let below (path name : Bytes) : Bytes := withoutSlashes path ++ '/' :: name
    let rec go : List Bytes → Nat → Program Nat
      | [], status => return status
      | name :: rest, status => do
        let x := below a name
        let y := below b name
        let only (path : Bytes) : Program Nat := do
          let _ ← writeTo 1 (line ("Only in ".toList ++ path ++ ':' :: ' ' :: name))
          return 1
        let one ← match mine.contains name, others.contains name with
          | true, false =>
            if v.options.has 'N' then
              if (← natureOf x) = some true then
                if v.options.has 'r' then v.directories fuel x y else only a
              else v.files (line (joinWords ("diff".toList :: v.words ++ [x, y]))) x y
            else only a
          | false, true =>
            if v.options.has 'N' then
              if (← natureOf y) = some true then
                if v.options.has 'r' then v.directories fuel x y else only b
              else v.files (line (joinWords ("diff".toList :: v.words ++ [x, y]))) x y
            else only b
          | _, _ => do
            match ← natureOf x, ← natureOf y with
            | some true, some true =>
              if v.options.has 'r' then v.directories fuel x y
              else
                let _ ← writeTo 1
                  (line ("Common subdirectories: ".toList ++ x ++ " and ".toList ++ y))
                pure 0
            | some p, some q =>
              if p = q then v.files (line (joinWords ("diff".toList :: v.words ++ [x, y]))) x y
              else
                let kind (isDirectory : Bool) : Bytes :=
                  (if isDirectory then "directory" else "regular file").toList
                let _ ← writeTo 1
                  (line ("File ".toList ++ x ++ " is a ".toList ++ kind p ++ " while file ".toList
                  ++ y ++ " is a ".toList ++ kind q))
                pure 1
            | _, _ => pure 0
        go rest (max status one)
    go all 0

/-- The options for comparing files. -/
def diffTable : OptionTable where
  plain := "abBcdeEfHilnNpqrsStTuwyZR".toList
  valued := "UCLWDFIx".toList
  long := [("text", 'a'), ("ignore-space-change", 'b'), ("ignore-blank-lines", 'B'), ("brief", 'q'),
    ("ed", 'e'), ("rcs", 'n'), ("ignore-case", 'i'), ("minimal", 'd'), ("new-file", 'N'),
    ("recursive", 'r'), ("report-identical-files", 's'), ("ignore-all-space", 'w'),
    ("ignore-trailing-space", 'Z'), ("ignore-tab-expansion", 'E'), ("side-by-side", 'y'),
    ("label", 'L'), ("width", 'W'), ("suppress-common-lines", 'S'), ("left-column", 'l'),
    ("strip-trailing-cr", 'R'), ("normal", 'f'), ("speed-large-files", 'H'), ("expand-tabs", 't'),
    ("initial-tab", 'T'), ("show-c-function", 'p'), ("unified", 'u'), ("context", 'c'),
    ("exclude", 'x'), ("ignore-matching-lines", 'I')]

/-- The arguments that are options, as they were given. -/
def givenOptions (arguments : List Bytes) : List Bytes :=
  arguments.filter fun a => a.head? = some '-' && 1 < a.length && a ≠ ['-', '-']

/-- Compares files or directories, perhaps side by side. -/
def showDifferences (isColumns : Bool) (c : Call) : Program Nat :=
  let misuse (words : Bytes) : Program Nat := do
    c.complain words
    c.complain ("Try '".toList ++ c.name ++ " --help' for more information.".toList)
    return 2
  let arguments := c.arguments.map fun a =>
    match stripPrefix? "--unified=".toList a, stripPrefix? "--context=".toList a with
    | some n, _ => '-' :: 'U' :: n
    | _, some n => '-' :: 'C' :: n
    | _, _ => a
  let t := if isColumns then
      { diffTable with plain := diffTable.plain.filter (· ≠ 'w'),
                       valued := 'o' :: 'w' :: diffTable.valued }
    else diffTable
  match t.read (arguments.length + 1) arguments with
  | .error words => misuse words
  | .ok o =>
    if o.has helpFlag then c.deliver (usageLine c.name) 0
    else if o.has versionFlag then c.deliver (versionLine c.name) 0
    else
      let o := if isColumns then
          { o with flags := o.flags.map fun f => if f.1 = 's' then ('S', f.2) else f }
        else o
      let number (flag : Char) (usual : Nat) : Nat := ((o.value? flag).bind natural?).getD usual
      let style : DiffStyle :=
        if o.has 'u' || o.has 'U' then .unified (number 'U' 3)
        else if o.has 'c' || o.has 'C' then .context (number 'C' 3)
        else if o.has 'e' then .commands
        else if o.has 'n' then .counted
        else if isColumns then .columns (number 'w' 130)
        else if o.has 'y' then .columns (number 'W' 130)
        else .plain
      let wrong := ['U', 'C'].find? fun f => (o.value? f).any fun v => (natural? v).isNone
      let v : DiffView :=
        { call := c, options := o, style := style, words := givenOptions c.arguments }
      match wrong, o.operands with
      | some f, _ => misuse ("invalid context length '".toList ++ (o.value? f).getD [] ++ ['\''])
      | none, [a, b] => do
        let directoryA ← if a = ['-'] then pure (some false) else natureOf a
        let directoryB ← if b = ['-'] then pure (some false) else natureOf b
        match directoryA, directoryB with
        | some true, some true =>
          if a = b then return 0 else v.directories 100 a b
        | some true, some false => v.files [] (withoutSlashes a ++ '/' :: lastName b) b
        | some false, some true => v.files [] a (withoutSlashes b ++ '/' :: lastName a)
        | _, _ => v.files [] a b
      | none, [] => misuse ("missing operand after '".toList ++ c.name ++ ['\''])
      | none, [a] => misuse ("missing operand after '".toList ++ a ++ ['\''])
      | none, _ :: _ :: extra :: _ => misuse ("extra operand '".toList ++ extra ++ ['\''])

end LinkWatch.Host.Utility
