import LinkWatch.Host.Utility.Date
import LinkWatch.Host.Utility.Stream
import LinkWatch.Host.Utility.Tabs

/-!
# Texts on pages

A text is laid out on pages with a heading each, perhaps in columns. Files may stand beside each
other, each in a column of its own.
-/

namespace LinkWatch.Host.Utility

open LinkWatch.Text LinkWatch.Host.Kernel LinkWatch.Decimal

/-- How pages are laid out. -/
structure PageStyle where
  /-- The lines of a page, all together. -/
  length : Nat := 66
  width : Nat := 72
  columns : Nat := 1
  /-- Whether columns are filled line by line. -/
  isAcross : Bool := false
  hasHeadings : Bool := true
  isDouble : Bool := false
  usesFeeds : Bool := false
  margin : Nat := 0
  /-- What stands between columns that are not aligned. -/
  separator : Option Bytes := none
  /-- Whether whole lines are shown in columns. -/
  isWhole : Bool := false
  /-- What follows a number, and its width. -/
  numbers : Option (Char × Nat) := none
  firstNumber : Int := 1
  firstPage : Nat := 1
  lastPage : Option Nat := none
  expandsTabs : Bool := false

/-- How many lines of text a page has. -/
def PageStyle.bodyLines (y : PageStyle) : Nat :=
  let all := if y.hasHeadings then y.length - (if y.usesFeeds then 5 else 10) else y.length
  max 1 (if y.isDouble then all / 2 else all)

/-- How wide a column is. -/
def PageStyle.columnWidth (y : PageStyle) : Nat :=
  (y.width - (y.columns - 1)) / y.columns

/-- Blanks up to a column, in which tabs are used. -/
def tabbedBlanks (column target : Nat) : Bytes :=
  let rec go : Nat → Nat → Bytes
    | 0, _ => []
    | fuel + 1, h =>
      let next := h + (8 - h % 8)
      if 1 < target - h && next ≤ target then '\t' :: go fuel next
      else List.replicate (target - h) ' '
  go (target + 1) column

/-- A line with its number, if lines are numbered. -/
def PageStyle.numbered (y : PageStyle) (number : Int) (text : Bytes) : Bytes :=
  match y.numbers with
  | none => text
  | some (mark, width) =>
    let digits := numeralOf number
    let shown := padLeft width ' ' (digits.drop (digits.length - width))
    let gap : Bytes :=
      if mark = '\t' && (1 < y.columns) && y.separator.isNone then
        List.replicate (8 - shown.length % 8) ' '
      else [mark]
    shown ++ gap ++ text

/-- Texts side by side, each in its column. -/
def PageStyle.row (y : PageStyle) (cells : List Bytes) : Bytes :=
  match y.separator with
  | some separator => joinWith separator cells
  | none =>
    if y.columns = 1 then (cells.headD [])
    else
      let width := y.columnWidth
      let kept := (cells.reverse.dropWhile (· = [])).reverse
      let p := (kept.mapIdx fun i cell => (i, cell)).foldl
        (fun (acc : Bytes × Nat) (c : Nat × Bytes) =>
        let cell := if y.isWhole then c.2 else c.2.take width
        let target := c.1 * (width + 1)
        if cell = [] then acc
        else (acc.1 ++ tabbedBlanks acc.2 target ++ cell, max acc.2 target + cell.length)) ([], 0)
      p.1

/-- The rows of a page. -/
def PageStyle.rows (y : PageStyle) (lines : List Bytes) : List Bytes :=
  if y.columns = 1 then lines.map fun l => y.row [l]
  else if y.isAcross then
    let rec across : Nat → List Bytes → List Bytes
      | 0, _ => []
      | fuel + 1, ls =>
        if ls = [] then [] else y.row (ls.take y.columns) :: across fuel (ls.drop y.columns)
    across (lines.length + 1) lines
  else
    let count := lines.length
    let sizes := (List.range y.columns).map fun i =>
      count / y.columns + (if i < count % y.columns then 1 else 0)
    let starts := (sizes.foldl (fun (p : List Nat × Nat) n => (p.1 ++ [p.2], p.2 + n)) ([], 0)).1
    let columns := starts.zip sizes
    let all := lines.toArray
    (List.range (sizes.headD 0)).map fun i =>
      let present := columns.filter fun c => i < c.2
      y.row (present.map fun c => all.getD (c.1 + i) [])

/-- A row on its page. -/
def PageStyle.placed (y : PageStyle) (row : Bytes) : Bytes :=
  (if row = [] then [] else List.replicate y.margin ' ' ++ row)
    ++ (if y.isDouble then ['\n', '\n'] else ['\n'])

/-- The heading of a page. -/
def PageStyle.heading (y : PageStyle) (date title : Bytes) (number : Nat) : Bytes :=
  let page := "Page ".toList ++ digitsOf number
  let free := y.width - (date.length + title.length) - page.length
  let left := free / 2
  (if y.usesFeeds then [] else ['\n', '\n']) ++ List.replicate y.margin ' ' ++ date
    ++ padLeft left ' ' [' '] ++ title ++ padLeft (free - left) ' ' [' '] ++ page ++ "\n\n\n".toList

/-- Lines on pages, from a page on. -/
def PageStyle.pages (y : PageStyle) (date title : Bytes) : Nat → Nat → List (List Bytes) → Bytes
  | 0, _, _ => []
  | _, _, [] => []
  | fuel + 1, number, rows =>
    let size := y.bodyLines
    let page := rows.take size
    let rest := rows.drop size
    let text :=
      if number < y.firstPage || y.lastPage.any (· < number) then []
      else if y.hasHeadings then
        let left := (size - page.length) * (if y.isDouble then 2 else 1)
        y.heading date title number ++ (page.flatMap fun r => y.placed (r.headD []))
          ++ (if y.usesFeeds then ['\x0c'] else List.replicate (left + 5) '\n')
      else page.flatMap fun r => y.placed (r.headD [])
    text ++ y.pages date title fuel (number + 1) rest

/-- The rows of lines that are divided into pages. -/
def PageStyle.allRows (y : PageStyle) (lines : List Bytes) : List (List Bytes) :=
  let perPage := y.bodyLines * y.columns
  let rec go : Nat → List Bytes → List (List Bytes)
    | 0, _ => []
    | fuel + 1, ls =>
      if ls = [] then [] else (y.rows (ls.take perPage)).map ([·]) ++ go fuel (ls.drop perPage)
  go (lines.length + 1) lines

/-- The lines of a text, with its tabs expanded if that is needed. -/
def PageStyle.linesOf (y : PageStyle) (text : Bytes) : List Bytes :=
  (recordsOf '\n' text).map fun l =>
    if y.expandsTabs || (1 < y.columns && y.separator.isNone) then
      expandTabs { every := some 8 } false true 0 l
    else l

/-- Lines of several files beside each other, from a number on. -/
def PageStyle.merged (y : PageStyle) : Nat → Int → List (List Bytes) → List (List Bytes)
  | 0, _, _ => []
  | fuel + 1, number, files =>
    if files.all List.isEmpty then []
    else
      let cells := files.map fun f => f.headD []
      let row := y.row cells
      let shown := match y.numbers with
        | none => row
        | some _ => ({ y with columns := 1 } : PageStyle).numbered number row
      [shown] :: y.merged fuel (number + 1) (files.map (·.drop 1))

/-- Arguments with columns and first pages made options. -/
def withPageOptions (arguments : List Bytes) : List Bytes :=
  arguments.map fun a => match a with
    | '-' :: d :: rest => if d.isDigit then "--columns=".toList ++ d :: rest else a
    | '+' :: d :: rest => if d.isDigit then "--pages=".toList ++ d :: rest else a
    | a => a

/-- Lays texts out on pages. -/
def layOutPages (c : Call) : Program Nat :=
  let t : OptionTable :=
    { plain := "acdfFJmrtTv".toList, valued := "DhlNowWPC".toList, optional := "einsS".toList
      long := [("across", 'a'), ("show-control-chars", 'c'), ("double-space", 'd'),
        ("date-format", 'D'), ("expand-tabs", 'e'), ("form-feed", 'F'), ("header", 'h'),
        ("output-tabs", 'i'), ("join-lines", 'J'), ("length", 'l'), ("merge", 'm'),
        ("number-lines", 'n'), ("first-line-number", 'N'), ("indent", 'o'),
        ("no-file-warnings", 'r'), ("separator", 's'), ("sep-string", 'S'), ("omit-header", 't'),
        ("omit-pagination", 'T'), ("show-nonprinting", 'v'), ("width", 'w'), ("page-width", 'W'),
        ("pages", 'P'), ("columns", 'C')] }
  ({ c with arguments := withPageOptions c.arguments } : Call).withOptions t 1 fun o => do
    let number (flag : Char) (usual : Nat) : Nat := ((o.value? flag).bind natural?).getD usual
    let wrong := [('l', "'-l PAGE_LENGTH' invalid number of lines: "),
      ('w', "'-w PAGE_WIDTH' invalid number of characters: "),
      ('W', "'-W PAGE_WIDTH' invalid number of characters: "),
      ('o', "'-o MARGIN' invalid line offset: "), ('C', "invalid number of columns: ")].findSome?
      fun (p : Char × String) => (o.value? p.1).bind fun v =>
        if (natural? v).any (0 < ·) || (p.1 = 'o' && (natural? v).isSome) then none
        else some (p.2.toList ++ inQuotes v)
    match wrong with
    | some words => c.refuse 1 words
    | none =>
      let files := if o.operands = [] then [['-']] else o.operands
      let merges := o.has 'm'
      let columns := if merges then files.length else number 'C' 1
      let separator := match o.value? 'S', o.value? 's' with
        | some s, _ => some s
        | none, some [] => some ['\t']
        | none, some s => some s
        | none, none => none
      let numbers : Option (Char × Nat) := (o.value? 'n').map fun v =>
        match v with
        | [] => ('\t', 5)
        | d :: rest =>
          if d.isDigit then ('\t', (natural? v).getD 5) else (d, (natural? rest).getD 5)
      let length := number 'l' 66
      let (first, last) : Nat × Option Nat := match o.value? 'P' with
        | none => (1, none)
        | some v =>
          match cutAt? ':' v with
          | some (a, b) => ((natural? a).getD 1, natural? b)
          | none => ((natural? v).getD 1, none)
      let y : PageStyle :=
        { length := length, width := number 'W' (number 'w' 72), columns := columns,
          isAcross := o.has 'a'
          hasHeadings := !(o.has 't' || o.has 'T') && 10 < length, isDouble := o.has 'd'
          usesFeeds := o.has 'f' || o.has 'F', margin := number 'o' 0, separator := separator
          isWhole := o.has 'J' || (separator.isSome && !o.has 'w'), numbers := numbers
          firstNumber := ((o.value? 'N').bind integer?).getD 1, firstPage := first, lastPage := last
          expandsTabs := o.has 'e' }
      let loaded ← files.mapM fun file => do
        match ← readFile file with
        | .ok text =>
          let time ← inquireTime file
          return some (file, text, time)
        | .error e =>
          if !o.has 'r' then c.complain (Wording.usual.opening file e)
          return none
      let present := loaded.filterMap id
      let zone := c.environment.zone
      let dateOf (time : Nat) : Bytes :=
        (zone.moment ((time / 1000000000 : Nat) : Int) (time % 1000000000)).inFormat
          ((o.value? 'D').getD "%Y-%m-%d %H:%M".toList)
      let titleOf (file : Bytes) : Bytes :=
        (o.value? 'h').getD (if file = ['-'] || merges then [] else file)
      let shown :=
        if merges then
          let lines := present.map fun p => y.linesOf p.2.1
          let most := (lines.map List.length).foldl max 0
          let rows := y.merged (most + 1) y.firstNumber lines
          y.pages (dateOf ((present.head?.map fun p => p.2.2).getD 0)) (titleOf [])
            (rows.length + 1) 1 rows
        else
          present.flatMap fun p =>
            let lines := (y.linesOf p.2.1).mapIdx fun i l => y.numbered (y.firstNumber + i) l
            let rows := y.allRows lines
            y.pages (dateOf p.2.2) (titleOf p.1) (rows.length + 1) 1 rows
      c.deliver shown (if loaded.all Option.isSome then 0 else 1)
where
  /-- The time of a file, or the present for the input. -/
  inquireTime (file : Bytes) : Program Nat :=
    request (.files fun d =>
      (if file = ['-'] then d.now
      else
        match d.find file with
        | .ok f => f.node.time
        | .error _ => d.now, d))

end LinkWatch.Host.Utility
