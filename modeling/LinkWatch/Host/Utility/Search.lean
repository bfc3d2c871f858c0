import LinkWatch.Host.Shell.Pattern
import LinkWatch.Host.Utility.Holdings
import LinkWatch.Host.Utility.Trial

/-!
# Searching lines

The lines in which an expression matches, or those in which it does not.
-/

namespace LinkWatch.Host.Utility

open LinkWatch.Text LinkWatch.Host.Kernel

/-- The expression for a text that stands for itself. -/
def literalRegex (n : RegexStyle) (cs : Bytes) : Regex :=
  cs.foldr (fun c r => .both (n.character c) r) .empty

/-- The expression that matches where one of some texts does. -/
def anyOf (read : Bytes → Except String Regex) : List Bytes → Except String Regex
  | [] => .error "no pattern"
  | [p] => read p
  | p :: ps => (read p).bind fun a => (anyOf read ps).map fun b => .either a b

/-! ## Matches -/

/-- The first match in a text from some position on: where it starts and where it ends. -/
abbrev Matcher := Bytes → Nat → Option (Nat × Nat)

/-- The matches of an expression. -/
def Regex.matcher (r : Regex) : Matcher := fun text position =>
  let s := Spot.start text
  let s := if position = 0 then s else s.advance position
  (r.search s).map fun f => (f.stop.position - f.text.length, f.stop.position)

/-- The matches of an expression whose alternatives are tried in order. -/
def Trial.matcher (t : Trial) : Matcher := fun text position =>
  (t.search text position).map fun (start, s) => (start, s.position)

/-- All matches in a text that are not empty. -/
def allMatches (find : Matcher) (text : Bytes) : Nat → Nat → List (Nat × Nat)
  | 0, _ => []
  | fuel + 1, position =>
    match find text position with
    | none => []
    | some (start, stop) =>
      if stop ≤ start then
        if text.length ≤ stop then [] else allMatches find text fuel (max stop position + 1)
      else (start, stop) :: allMatches find text fuel stop

/-! ## What is shown -/

/-- What is shown of lines. -/
structure SearchState where
  number : Nat := 0
  /-- How many bytes stand before the line. -/
  offset : Nat := 0
  found : Nat := 0
  /-- Lines before the present one with their numbers and offsets, the last one first. -/
  recent : List (Nat × Nat × Bytes) := []
  /-- How many lines after a match are still to be shown. -/
  owed : Nat := 0
  lastShown : Nat := 0
  /-- Whether the input is no text. -/
  isBinary : Bool := false
  /-- Whether nothing more is shown since something has been found in what is no text. -/
  isHidden : Bool := false

/-- How lines are searched and shown. -/
structure SearchView where
  options : Options
  find : Matcher
  /-- How many lines are found at most. -/
  most : Option Nat
  before : Nat
  after : Nat
  /-- The name of the input, if it is shown. -/
  label : Option Bytes
  ending : Char
  isColored : Bool

/-- A text in a color. -/
def SearchView.colored (v : SearchView) (color : String) (text : Bytes) : Bytes :=
  if v.isColored then
    "\x1b[".toList ++ color.toList ++ "m\x1b[K".toList ++ text ++ "\x1b[m\x1b[K".toList
  else text

/-- Whether only the status or a summary is shown. -/
def SearchView.isSilent (v : SearchView) : Bool :=
  ['q', 'c', 'l', 'L'].any v.options.has

/-- What stands before a line. -/
def SearchView.head (v : SearchView) (separator : Char) (number offset : Nat) : Bytes :=
  let sign := v.colored "36" [separator]
  let name := match v.label with
    | some label => v.colored "35" label ++ (if v.options.has 'Z' then ['\x00'] else sign)
    | none => []
  let numbers := (if v.options.has 'n' then [number] else [])
    ++ (if v.options.has 'b' then [offset] else [])
  let text := name ++ numbers.flatMap fun n => v.colored "32" (digitsOf n) ++ sign
  if text ≠ [] && v.options.has 'T' then text ++ ['\t'] else text

/-- A line as it is shown, with its matches in color if that is wanted. -/
def SearchView.shownLine (v : SearchView) (separator : Char) (number offset : Nat) (text : Bytes) :
    Bytes :=
  let shown :=
    if v.isColored && (separator = ':') != v.options.has 'v' then
      let found := allMatches v.find text (text.length + 1) 0
      let (parts, last) := found.foldl (fun (p : Bytes × Nat) (start, stop) =>
        (p.1 ++ (text.take start).drop p.2 ++ v.colored "01;31" ((text.take stop).drop start),
          stop))
        ([], 0)
      parts ++ text.drop last
    else text
  v.head separator number offset ++ shown ++ [v.ending]

/-- What is done with each line of a search. -/
def SearchView.step (v : SearchView) : LineStep SearchState := fun s text isEnded =>
  let number := s.number + 1
  let offset := s.offset
  let next := offset + text.length + (if isEnded then 1 else 0)
  let isFound := (v.find text 0).isSome != v.options.has 'v'
  let hasContext := v.before > 0 || v.after > 0
  if isFound && v.most.all (s.found < ·) then
    if s.isBinary && !v.isSilent then ({ s with found := s.found + 1, isHidden := true }, [], false)
    else
      let before := ((s.recent.take v.before).filter fun l => s.lastShown < l.1).reverse
      let first := (before.head?.map (·.1)).getD number
      let gap :=
        if hasContext && s.found > 0 && s.lastShown + 1 < first then
          match v.options.value? '\x06' with
          | some separator => separator ++ ['\n']
          | none => if v.options.has '\x07' then [] else v.colored "36" ['-', '-'] ++ ['\n']
        else []
      let shown :=
        if v.isSilent then []
        else if v.options.has 'o' then
          if v.options.has 'v' then []
          else gap ++ (allMatches v.find text (text.length + 1) 0).flatMap fun (start, stop) =>
            v.head ':' number (offset + start) ++ v.colored "01;31" ((text.take stop).drop start)
              ++ [v.ending]
        else
          gap ++ (before.flatMap fun (n, offset, text) => v.shownLine '-' n offset text)
            ++ v.shownLine ':' number offset text
      let s : SearchState := { s with
        number := number, offset := next, found := s.found + 1
        recent := (number, offset, text) :: s.recent, owed := v.after, lastShown := number }
      let goes := !v.options.has 'q' && !v.options.has 'l' && !v.options.has 'L'
        && (v.most.all (s.found < ·) || (v.after > 0 && !v.isSilent))
      (s, shown, goes)
  else
    let shows := s.owed > 0 && !v.isSilent
    let shown := if shows && !v.options.has 'o' then v.shownLine '-' number offset text else []
    let recent := ((number, offset, text) :: s.recent).take v.before
    let s := { s with
      number := number, offset := next, recent := recent, owed := s.owed - 1
      lastShown := if shows then number else s.lastShown }
    (s, shown, v.most.all (s.found < ·) || s.owed > 0)

/-- A worker that searches lines, and notices whether its input is text. -/
def SearchView.worker (v : SearchView) : Worker (LineState SearchState) :=
  let w := recordWorker v.ending v.step
  let keepsText := v.options.has 'a' || v.ending = '\x00'
  { w with take := fun s piece =>
      let isBinary := !keepsText && piece.contains '\x00'
      w.take (if isBinary then { s with state := { s.state with isBinary := true } } else s) piece }

/-! ## Files -/

/-- Searches an opened file. The values are whether something was found, and whether something went
wrong. -/
def SearchView.search (v : SearchView) (c : Call) (file name : Bytes) (descriptor : Nat) :
    Program (Bool × Bool) := do
  let o := v.options
  let (p, trouble) ← v.worker.pump descriptor streamFuel { state := { state := {} } }
  let (s, shown) := p.state.finish v.step
  let shown := if s.isHidden then [] else shown
  let labelled := v.label.elim [] fun l =>
    v.colored "35" l ++ (if o.has 'Z' then ['\x00'] else v.colored "36" [':'])
  let named := v.colored "35" name ++ (if o.has 'Z' then ['\x00'] else ['\n'])
  let summary :=
    if o.has 'q' then []
    else if o.has 'l' then (if s.found > 0 then named else [])
    else if o.has 'L' then (if s.found = 0 then named else [])
    else if o.has 'c' then labelled ++ line (digitsOf s.found)
    else []
  let written ← (({ p with state := () } : Pending Unit).add (shown ++ summary)).flush
  if s.isHidden && !o.has 'I' then c.complain (name ++ ": binary file matches".toList)
  match trouble, written with
  | some (.reading e), _ =>
    if !o.has 's' then c.complain (Wording.bare.reading file e)
    return (s.found > 0, true)
  | some (.writing e), _ =>
    c.complain ("write error: ".toList ++ wordsOf e)
    return (false, true)
  | none, .error e =>
    c.complain ("write error: ".toList ++ wordsOf e)
    return (false, true)
  | none, .ok _ => return (s.found > 0, false)

/-- Searches files one after the other. The values are whether something was found, and whether
something went wrong. -/
def searchFiles (c : Call) (v : SearchView) (labels : Bool) :
    List Bytes → Program (Bool × Bool)
  | [] => return (false, false)
  | file :: files => do
    let isInput := file = ['-']
    let name := if isInput then (v.options.value? '\x05').getD "(standard input)".toList else file
    let v := { v with label := if labels then some name else none }
    let opened ←
      if isInput then pure (.ok ()) else request (.open fileDescriptor file .read false)
    let (isFound, isBad) ← match opened with
      | .error e =>
        if !v.options.has 's' then c.complain (Wording.bare.opening file e)
        pure (false, true)
      | .ok _ => do
        let result ← v.search c file name (if isInput then 0 else fileDescriptor)
        if !isInput then request (.close fileDescriptor)
        pure result
    if isFound && v.options.has 'q' then return (true, false)
    else
      let (others, othersBad) ← searchFiles c v labels files
      return (isFound || others, isBad || othersBad)

/-- The files below operands, where directories stand for what they hold. -/
def filesBelow (d : Disk) (o : Options) (operands : List Bytes) : List Bytes :=
  let isMeant (patterns : List Bytes) (path : Bytes) : Bool :=
    patterns.any fun p => Shell.matchesPattern (Shell.glyphsOf p) (lastName path)
  let isWanted (path : Bytes) : Bool :=
    (o.values '\x08' = [] || isMeant (o.values '\x08') path) && !isMeant (o.values '\x0e') path
  let rec go : Nat → Bytes → List Bytes
    | 0, _ => []
    | fuel + 1, path =>
      match d.look true path with
      | .error _ => []
      | .ok f =>
        match f.node.kind with
        | .directory =>
          if isMeant (o.values '\x0f') path then []
          else
            let start := if path = ['.'] && operands = [] then []
              else if path.getLast? = some '/' then path else path ++ ['/']
            (d.names f.location).flatMap fun name => go fuel (start ++ name)
        | .file _ => if isWanted path then [path] else []
        | _ => []
  if operands = [] then go deepestDirectory ['.']
  else
    operands.flatMap fun path =>
      if path ≠ ['-'] && d.isDirectory path then go deepestDirectory path else [path]

/-- The options of a search. -/
def searchTable : OptionTable where
  plain := "EFGPivcnoqswxlLhHazybrRIUuTZV".toList ++ ['\x07', '\x10', '\x11']
  valued := ['e', 'f', 'm', 'A', 'B', 'C', 'd', 'D', '\x05', '\x06', '\x08', '\x0e', '\x0f', '\x12',
    '\x13', '\x14']
  long := [("extended-regexp", 'E'), ("fixed-strings", 'F'), ("basic-regexp", 'G'),
    ("perl-regexp", 'P'), ("ignore-case", 'i'), ("no-ignore-case", '\x11'), ("invert-match", 'v'),
    ("count", 'c'), ("line-number", 'n'), ("only-matching", 'o'), ("quiet", 'q'), ("silent", 'q'),
    ("no-messages", 's'), ("word-regexp", 'w'), ("line-regexp", 'x'), ("files-with-matches", 'l'),
    ("files-without-match", 'L'), ("no-filename", 'h'), ("with-filename", 'H'), ("regexp", 'e'),
    ("file", 'f'), ("max-count", 'm'), ("after-context", 'A'), ("before-context", 'B'),
    ("context", 'C'), ("text", 'a'), ("byte-offset", 'b'), ("null", 'Z'), ("null-data", 'z'),
    ("initial-tab", 'T'), ("binary", 'U'), ("recursive", 'r'), ("dereference-recursive", 'R'),
    ("label", '\x05'), ("group-separator", '\x06'), ("no-group-separator", '\x07'),
    ("include", '\x08'), ("exclude", '\x0e'), ("exclude-dir", '\x0f'), ("line-buffered", '\x10'),
    ("binary-files", '\x12'), ("color-as", '\x13'), ("directories", 'd'), ("devices", 'D'),
    ("exclude-from", '\x14')]

/-- The matches of some expressions, which are written as a letter says. -/
def readMatcher (letter : Char) (o : Options) (patterns : List Bytes) : Except String Matcher :=
  let cases := (o.flags.filter fun f => f.1 ∈ ['i', 'y', '\x11']).getLast?
  let ignoresCase := cases.any fun f => f.1 ≠ '\x11'
  if letter = 'P' then
    match patterns with
    | [] => .ok fun _ _ => none
    | _ =>
      let style : TrialStyle := { ignoresCase := ignoresCase, isByLine := o.has 'z' }
      let all := joinWith ['|'] patterns
      let shown := if o.has 'x' then "^(?:".toList ++ all ++ ")$".toList
        else if o.has 'w' then "(?<!\\w)(?:".toList ++ all ++ ")(?!\\w)".toList
        else all
      if 1 < patterns.length then .error "the -P option only supports a single pattern"
      else (style.read shown).map fun p => p.1.matcher
  else
    let style : RegexStyle := { extended := letter = 'E', ignoresCase := ignoresCase }
    let read (p : Bytes) : Except String Regex :=
      if letter = 'F' then .ok (literalRegex style p) else (style.read p).map (·.1)
    let regex := if patterns = [] then .ok (.both (.one false []) .empty) else anyOf read patterns
    regex.map fun r =>
      let r := if o.has 'x' then Regex.both (.edge .start) (.both r (.edge .stop))
        else if o.has 'w' then Regex.both (.edge .clearBefore) (.both r (.edge .clearAfter))
        else r
      r.matcher

/-- Searches the lines of files; the letter tells how expressions are written. -/
def search (usualLetter : Char) (recurses : Bool) (c : Call) : Program Nat :=
  let arguments := c.arguments.map fun (a : Bytes) => match a with
    | '-' :: d :: rest =>
      if d.isDigit && (d :: rest).all Char.isDigit then '-' :: 'C' :: d :: rest
      else if a = "--color".toList || a = "--colour".toList then "--color-as=auto".toList
      else
        match stripPrefix? "--color=".toList a, stripPrefix? "--colour=".toList a with
        | some how, _ => "--color-as=".toList ++ how
        | _, some how => "--color-as=".toList ++ how
        | none, none => a
    | _ => a
  Call.withOptions { c with arguments := arguments } searchTable 2 fun o => do
    let given := o.values 'e'
    let fromFile : Except Bytes (List Bytes) ← match o.value? 'f' with
      | none => pure (.ok [])
      | some file => do
        match ← readFile file with
        | .ok text => pure (.ok (linesOf text).1)
        | .error e => pure (.error (Wording.bare.opening file e))
    let numbers := ['m', 'A', 'B', 'C'].filterMap o.value?
    match fromFile with
    | .error words => c.refuse 2 words
    | .ok listed =>
      let isGiven := given ≠ [] || (o.value? 'f').isSome
      if o.has 'V' then c.deliver (versionLine c.name) 0
      else if !isGiven && o.operands = [] then
        let _ ← request (.write 2 (line
          ("Usage: ".toList ++ c.name ++ " [OPTION]... PATTERNS [FILE]...".toList)))
        c.adviseHelp 2
      else if numbers.any fun n => (natural? n).isNone && n.head? ≠ some '-' then
        c.refuse 2 "invalid context length argument".toList
      else
        let letters := (o.flags.map (·.1)).filter (· ∈ ['E', 'F', 'G', 'P'])
        let letter := letters.getLast?.getD usualLetter
        let split (p : Bytes) : List Bytes := if letter = 'P' then [p] else pieces '\n' p
        let patterns := if isGiven then given.flatMap split ++ listed
          else split (o.operands.headD [])
        let operands := if isGiven then o.operands else o.operands.drop 1
        let recurses := recurses || o.has 'r' || o.has 'R' || o.value? 'd' = some "recurse".toList
        let files ← if recurses then inquire fun d => filesBelow d o operands
          else pure (if operands = [] then [['-']] else operands)
        match readMatcher letter o patterns with
        | .error words => c.refuse 2 words.toList
        | .ok find =>
          let names := (o.flags.filter fun f => f.1 = 'H' || f.1 = 'h').getLast?
          let labels := match names with
            | some (letter, _) => letter = 'H'
            | none => operands.length > 1 || recurses
          let context (flag : Char) : Nat :=
            ((o.value? flag).bind natural?).getD (((o.value? 'C').bind natural?).getD 0)
          let binary := (o.value? '\x12').map String.ofList
          let o := { o with flags := o.flags
            ++ (if binary = some "text" then [('a', [])] else [])
            ++ (if binary = some "without-match" then [('I', [])] else []) }
          let view : SearchView :=
            { options := o, find := find, most := (o.value? 'm').bind natural?,
              before := context 'B'
              after := context 'A', label := none, ending := if o.has 'z' then '\x00' else '\n'
              isColored := o.value? '\x13' = some "always".toList }
          if view.most = some 0 then return 1
          else
            let skips := o.value? 'd' = some "skip".toList
            let files ← if !skips then pure files
              else inquire fun d => files.filter fun f => f = ['-'] || !d.isDirectory f
            let (isFound, isBad) ← searchFiles c view labels files
            return if isFound && (!isBad || o.has 'q') then 0 else if isBad then 2 else 1

end LinkWatch.Host.Utility
