import LinkWatch.Host.Utility.Condition
import LinkWatch.Host.Utility.Inspection
import LinkWatch.Host.Utility.Transfer
import LinkWatch.Host.Utility.Version

/-!
# Lists of files

A program that lists files and what directories hold, each on a line of its own or in columns, with
as much about each of them as wanted.
-/

namespace LinkWatch.Host.Utility

open LinkWatch.Text LinkWatch.Host.Kernel LinkWatch.Decimal

/-- Something that is listed. -/
structure Listed where
  name : Bytes
  path : Bytes
  location : Location
  number : Nat
  node : Node
  links : Nat
  /-- The node that a link leads to. -/
  goal : Option Node

/-- Looks at a path under a name. -/
def lookAt (d : Disk) (follows : Bool) (name path : Bytes) : Except OsError Listed :=
  let found : Except OsError Found := match d.look (!follows) path, d.look true path with
    | .ok f, _ => .ok f
    | .error _, .ok f => .ok f
    | .error e, .error _ => .error e
  found.map fun f =>
    ⟨name, path, f.location, f.number, f.node, d.linkCount f, (d.find path).toOption.map Found.node⟩

/-- What a directory holds, with its own path. -/
def lookInside (d : Disk) (follows : Bool) (l : Listed) (dots : Bool) : List Listed :=
  let start := if l.path.getLast? = some '/' then l.path else l.path ++ ['/']
  let path := locationText l.location
  let inner (name : Bytes) : Option Listed :=
    let absolute := (if path = ['/'] then [] else path) ++ '/' :: name
    (lookAt d follows name absolute).toOption.map fun x => { x with path := start ++ name }
  let names := (if dots then [['.'], ['.', '.']] else []) ++ d.names l.location
  names.filterMap inner

/-- How lists are sorted. -/
inductive ListOrder where
  | name
  | size
  | time
  | suffix
  | version
  | none
  deriving DecidableEq

/-- Whether something comes before something else in a list. -/
def ListOrder.before (order : ListOrder) (a b : Listed) : Bool :=
  let byName := isBefore a.name b.name
  let suffix (x : Bytes) : Bytes :=
    if x.contains '.' then '.' :: (afterLast? '.' x).getD [] else []
  match order with
  | .name => byName
  | .none => false
  | .size =>
    let m := sizeOfNode a.node
    let n := sizeOfNode b.node
    n < m || (m = n && byName)
  | .time => b.node.time < a.node.time || (a.node.time = b.node.time && byName)
  | .suffix =>
    isBefore (suffix a.name) (suffix b.name) || (suffix a.name = suffix b.name && byName)
  | .version =>
    match compareVersions a.name b.name with
    | .lt => true
    | .gt => false
    | .eq => byName

/-- The mark after the name of something. -/
def markOf (all : Bool) (node : Node) : Bytes :=
  match node.kind with
  | .directory => ['/']
  | .link _ => if all then ['@'] else []
  | .queue => if all then ['|'] else []
  | .file _ => if all && node.isExecutable then ['*'] else []
  | .device _ => []

/-- The name of the owner of everything. -/
def ownerName : Bytes := "root".toList

/-- What is asked of a list. -/
structure ListStyle where
  options : Options
  zone : Zone
  present : Int
  width : Nat := 80

/-- Whether an option is given. -/
def ListStyle.has (s : ListStyle) (flag : Char) : Bool :=
  s.options.has flag

/-- Whether lines tell all about files. -/
def ListStyle.isLong (s : ListStyle) : Bool :=
  let shapes := s.options.flags.filter fun f => f.1 ∈ ['l', 'C', 'x', 'm', '1', 'n', 'g', 'o']
  match shapes.reverse.find? fun f => f.1 ≠ '1' with
  | some f => f.1 ∈ ['l', 'n', 'g', 'o']
  | none => false

/-- Whether lines hold several names, and how. -/
def ListStyle.shape (s : ListStyle) : Char :=
  let shapes := s.options.flags.filter fun f => f.1 ∈ ['l', 'C', 'x', 'm', '1', 'n', 'g', 'o']
  match shapes.getLast? with
  | some f => if f.1 ∈ ['C', 'x', 'm'] then f.1 else '1'
  | none => '1'

/-- A name as it is shown. -/
def ListStyle.name (s : ListStyle) (cs : Bytes) : Bytes :=
  let isPlain (c : Char) : Bool := 32 ≤ c.toNat && c.toNat < 127
  let escaped (c : Char) : Bytes :=
    match c with
    | '\n' => ['\\', 'n']
    | '\t' => ['\\', 't']
    | '\r' => ['\\', 'r']
    | '\x07' => ['\\', 'a']
    | '\x08' => ['\\', 'b']
    | '\x0b' => ['\\', 'v']
    | '\x0c' => ['\\', 'f']
    | '\\' => ['\\', '\\']
    | '"' => if s.has 'Q' then ['\\', '"'] else ['"']
    | ' ' => if s.has 'b' && !s.has 'Q' then ['\\', ' '] else [' ']
    | c => if isPlain c then [c] else '\\' :: padLeft 3 '0' (octalDigits c.toNat)
  if s.has 'Q' then '"' :: cs.flatMap escaped ++ ['"']
  else if s.has 'b' then cs.flatMap escaped
  else if s.has 'q' && !s.has '\x05' then cs.map fun c => if isPlain c then c else '?'
  else cs

/-- The mark of something, if marks are wanted. -/
def ListStyle.mark (s : ListStyle) (node : Node) : Bytes :=
  if s.has 'F' then markOf true node
  else if s.has '\x04' then
    match node.kind with
    | .file _ => []
    | _ => markOf true node
  else if s.has 'p' then markOf false node else []

/-- The time of something. -/
def ListStyle.time (s : ListStyle) (node : Node) : Bytes :=
  let seconds : Int := node.time / 1000000000
  let m := s.zone.moment seconds (node.time % 1000000000)
  let isRecent := s.present - 15778476 < seconds && seconds ≤ s.present
  let format : String :=
    match s.options.value? '\x06' with
    | some style =>
      match String.ofList style with
      | "full-iso" => "%Y-%m-%d %H:%M:%S.%N %z"
      | "long-iso" => "%Y-%m-%d %H:%M"
      | "iso" => if isRecent then "%m-%d %H:%M" else "%Y-%m-%d "
      | other => if other.startsWith "+" then String.ofList (style.drop 1)
        else if isRecent then "%b %e %H:%M" else "%b %e  %Y"
    | none => if isRecent then "%b %e %H:%M" else "%b %e  %Y"
  m.inFormat format.toList

/-- The size of something as it is shown. -/
def ListStyle.size (s : ListStyle) (n : Nat) : Bytes :=
  if s.has 'h' then humanSize 1024 n else if s.has '\x07' then humanSize 1000 n else digitsOf n

/-- The blocks of something as they are shown. -/
def ListStyle.blocks (s : ListStyle) (n : Nat) : Bytes :=
  if s.has 'h' then humanSize 1024 (n * 512)
  else if s.has '\x07' then humanSize 1000 (n * 512) else digitsOf (n / 2)

/-- What comes before the name on a line, in columns of their own. -/
def ListStyle.columns (s : ListStyle) (l : Listed) : List Bytes :=
  let isShort := !s.isLong
  let number := if s.has 'i' then [digitsOf l.number] else []
  let blocks := if s.has 's' then [s.blocks (blocksOfNode l.node)] else []
  if isShort then number ++ blocks
  else
    let owner := if s.has 'n' then ['0'] else ownerName
    number ++ blocks ++ [kindLetter l.node.kind :: modeLetters l.node.mode, digitsOf l.links]
      ++ (if s.has 'g' then [] else [owner]) ++ (if s.has 'o' || s.has 'G' then [] else [owner])
      ++ [match l.node.kind with
        | .device .null => "1, 3".toList
        | .device .endless => "1, 5".toList
        | .device .full => "1, 7".toList
        | .device .absent => "5, 0".toList
        | _ => s.size (sizeOfNode l.node)] ++ [s.time l.node]

/-- The columns that are filled on their right sides. -/
def isLeftColumn (cs : Bytes) : Bool :=
  cs.head?.any fun c => c.isAlpha || c = '-'

/-- A line for something, given the widths of the columns. -/
def ListStyle.line (s : ListStyle) (widths : List Nat) (l : Listed) : Bytes :=
  let cells := (s.columns l).zip widths
  let text := cells.flatMap fun (cell, w) =>
    (if isLeftColumn cell then padRight w ' ' cell else padLeft w ' ' cell) ++ [' ']
  let target : Bytes := match l.node.kind, s.isLong with
    | .link t, true => " -> ".toList ++ s.name t ++ (l.goal.elim [] s.mark)
    | _, _ => []
  let mark := if target ≠ [] then [] else s.mark l.node
  text ++ s.name l.name ++ mark ++ target

/-- The widths of columns. -/
def columnWidths (rows : List (List Bytes)) : List Nat :=
  rows.foldl (fun ws row =>
    let row := row.map List.length
    if ws = [] then row else (ws.zip row).map fun (a, b) => max a b) []

/-- Blanks from one place of a line to another, as few as possible if there are tabs. -/
def blanksTo : Nat → Nat → Nat → Bytes
  | 0, _, _ => []
  | fuel + 1, start, stop =>
    if stop ≤ start then []
    else if (start + 1) / 8 < stop / 8 then '\t' :: blanksTo fuel (start / 8 * 8 + 8) stop
    else ' ' :: blanksTo fuel (start + 1) stop

/-- Cells in columns, filled downwards or across. -/
def inColumns (width : Nat) (across : Bool) (cells : List Bytes) : Bytes :=
  let count := cells.length
  let most := max 1 (min count (width / 3))
  let cellAt (columns rows r k : Nat) : Option Bytes :=
    if across then (if k < columns then cells[r * columns + k]? else none) else cells[k * rows + r]?
  let widthsFor (columns : Nat) : List Nat :=
    let rows := (count + columns - 1) / columns
    (List.range columns).map fun k =>
      let inside := (List.range rows).filterMap fun r => cellAt columns rows r k
      (inside.map fun c => c.length + (if k + 1 = columns then 0 else 2)).foldl max 3
  let fits (columns : Nat) : Bool :=
    ((widthsFor columns).foldl (· + ·) 0) < width
  let columns := ((List.range most).reverse.map (· + 1)).find? fun k => k = 1 || fits k
  let columns := columns.getD 1
  let rows := (count + columns - 1) / columns
  let widths := widthsFor columns
  (List.range rows).flatMap fun r =>
    let row := (List.range columns).filterMap fun k => (cellAt columns rows r k).map (k, ·)
    let (text, _) := row.foldl (fun (text, place) (k, cell) =>
      let start := (widths.take k).foldl (· + ·) 0
      (text ++ blanksTo 400 place start ++ cell, start + cell.length)) (([] : Bytes), 0)
    line text

/-- Cells with commas between them, on lines as long as allowed. -/
def withCommas (width : Nat) (cells : List Bytes) : Bytes :=
  let rec go : Nat → List Bytes → Bytes
    | _, [] => []
    | place, cell :: rest =>
      let isLast := rest = []
      let size := cell.length + 2
      let (start, place) : Bytes × Nat :=
        if place = 0 then ([], 0)
        else if place + size < width || (isLast && place + cell.length < width) then
          ([' '], place + 1)
        else (['\n'], 0)
      start ++ cell ++ (if isLast then [] else [',']) ++ go (place + cell.length + 1) rest
  if cells = [] then [] else line (go 0 cells)

/-- The text for things that are listed together. -/
def ListStyle.text (s : ListStyle) (ls : List Listed) : Bytes :=
  let widths := columnWidths (ls.map s.columns)
  let cells := ls.map (s.line widths)
  let ending := if s.has '\x08' then ['\x00'] else ['\n']
  if s.isLong then cells.flatMap (· ++ ending)
  else
    match s.shape with
    | 'C' => inColumns s.width false cells
    | 'x' => inColumns s.width true cells
    | 'm' => withCommas s.width cells
    | _ => cells.flatMap (· ++ ending)

/-- Things in the order of a list. -/
def ListStyle.sorted (s : ListStyle) (ls : List Listed) : List Listed :=
  let flags := s.options.flags.filter fun f => f.1 ∈ ['S', 't', 'X', 'U', 'f', 'v', '\x0e']
  let order : ListOrder := match flags.getLast? with
    | some ('S', _) => .size
    | some ('t', _) => .time
    | some ('X', _) => .suffix
    | some ('v', _) => .version
    | some ('\x0e', value) =>
      match String.ofList value with
      | "size" => .size
      | "time" => .time
      | "extension" => .suffix
      | "version" => .version
      | "none" => .none
      | _ => .name
    | some _ => .none
    | none => .name
  let ls := ls.mergeSort fun a b => !order.before b a
  let ls := if s.has 'r' then ls.reverse else ls
  if s.has '\x0f' then
    let isDirectory (l : Listed) : Bool := l.node.kind = .directory
    ls.filter isDirectory ++ ls.filter (!isDirectory ·)
  else ls

/-- Whether a name is shown. -/
def ListStyle.shows (s : ListStyle) (name : Bytes) : Bool :=
  let isHidden := name.head? = some '.'
  let isBackup := s.has 'B' && name.getLast? = some '~'
  (s.has 'a' || s.has 'A' || s.has 'f' || !isHidden) && !isBackup

/-- The texts for directories, with those below them if that is wanted. -/
def ListStyle.directories (s : ListStyle) (d : Disk) (heads : Bool) : Nat → List Listed → List Bytes
  | 0, _ => []
  | fuel + 1, ls =>
    ls.flatMap fun l =>
      let dots := (s.has 'a' || s.has 'f') && !s.has 'A'
      let inside := (lookInside d (s.has 'L') l dots).filter fun x => s.shows x.name
      let sorted := s.sorted inside
      let total := (inside.map fun x => blocksOfNode x.node).foldl (· + ·) 0
      let text := (if heads then s.name l.path ++ [':', '\n'] else [])
        ++ (if s.isLong || s.has 's' then "total ".toList ++ s.blocks total ++ ['\n'] else [])
        ++ s.text sorted
      let below := if s.has 'R' then
          sorted.filter fun x => x.node.kind = .directory && x.name ≠ ['.'] && x.name ≠ ['.', '.']
        else []
      text :: s.directories d heads fuel below

/-- Lists files and directories. -/
def listFiles (shape : List Char) (c : Call) : Program Nat :=
  let t : OptionTable :=
    { plain := "1aAdCFlpRrtSsiUxmnogGhHLQbqNvXfBkcuDZ".toList, valued := ['w', 'T', 'I']
      long := [("all", 'a'), ("almost-all", 'A'), ("directory", 'd'), ("classify", 'F'),
        ("recursive", 'R'), ("reverse", 'r'), ("size", 's'), ("inode", 'i'), ("no-group", 'G'),
        ("numeric-uid-gid", 'n'), ("human-readable", 'h'), ("dereference", 'L'),
        ("quote-name", 'Q'), ("escape", 'b'), ("hide-control-chars", 'q'), ("literal", 'N'),
        ("ignore-backups", 'B'), ("width", 'w'), ("tabsize", 'T'), ("ignore", 'I'),
        ("file-type", '\x04'), ("show-control-chars", '\x05'), ("time-style", '\x06'),
        ("si", '\x07'), ("zero", '\x08'), ("sort", '\x0e'), ("group-directories-first", '\x0f'),
        ("color", '\x10'), ("full-time", '\x11'), ("kibibytes", 'k'), ("format", '\x12'),
        ("author", '\x13')] }
  let t := { t with
    plain := t.plain ++ ['\x04', '\x05', '\x07', '\x08', '\x0f', '\x10', '\x11', '\x13']
    valued := t.valued ++ ['\x06', '\x0e', '\x12'] }
  let arguments := c.arguments.map fun a =>
    if "--color".toList.isPrefixOf a then "--color".toList
    else if "--classify".toList.isPrefixOf a then ['-', 'F'] else a
  Call.withOptions { c with arguments := arguments } t 2 fun o => do
    let formats : List (Char × Bytes) := o.flags.flatMap fun f =>
      if f.1 = '\x11' then [('l', []), ('\x06', "full-iso".toList)]
      else if f.1 = '\x12' then
        match String.ofList f.2 with
        | "long" => [('l', [])]
        | "verbose" => [('l', [])]
        | "single-column" => [('1', [])]
        | "commas" => [('m', [])]
        | "across" => [('x', [])]
        | "horizontal" => [('x', [])]
        | "vertical" => [('C', [])]
        | _ => []
      else [f]
    let o := { o with flags := shape.map (·, []) ++ formats }
    let present ← presentTime
    let width := match o.value? 'w' with
      | some w => let n := (readBased 10 w).1; if n = 0 then 100000 else n
      | none => ((c.environment.lookup "COLUMNS".toList).bind natural?).getD 80
    let style : ListStyle := ⟨o, c.environment.zone, present.1, width⟩
    let operands := if o.operands = [] then [['.']] else o.operands
    let disk ← inquire id
    let follows := o.has 'L' || o.has 'H' || !(style.isLong || o.has 'F' || o.has 'd')
    let found := operands.map fun a => (a, lookAt disk follows a a)
    let errors := found.filterMap fun (a, r) => match r with
      | .error e => some (aboutOperand "cannot access " a e)
      | .ok _ => none
    errors.forM c.complain
    let listed := style.sorted (found.filterMap fun (_, r) => r.toOption)
    let isOpen (l : Listed) : Bool := l.node.kind = .directory && !o.has 'd'
    let files := listed.filter (!isOpen ·)
    let directories := listed.filter isOpen
    let heads := 1 < operands.length || o.has 'R'
    let parts := (if files = [] then [] else [style.text files])
      ++ style.directories disk heads deepestDirectory directories
    c.deliver (joinWith ['\n'] parts) (if errors = [] then 0 else 2)

end LinkWatch.Host.Utility
