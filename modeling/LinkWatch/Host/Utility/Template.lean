import LinkWatch.Host.Utility.Escape
import LinkWatch.Host.Utility.Real

/-!
# Templates

Text with escapes and slots for arguments. A template is used again as long as it takes up
arguments; a slot without an argument gets the empty text or zero. One escape ends the output.
-/

namespace LinkWatch.Host.Utility

open LinkWatch.Text LinkWatch.Decimal

/-- What filling a template has come to. -/
structure Filling where
  /-- The text so far, the last piece first. -/
  pieces : List Bytes := []
  /-- What is reported, the last first. -/
  complaints : List Bytes := []
  status : Nat := 0
  arguments : List Bytes
  /-- Whether the output ends here. -/
  isOver : Bool := false
  /-- How an argument is written so that a shell reads it back. -/
  quoting : Bytes → Bytes := id
  /-- How a date is written in a format: that of a number of seconds, or the present one. -/
  dating : Bytes → Option Int → Bytes := fun _ _ => []
  /-- The length of the text at the start of this round through the template. -/
  start : Nat := 0
  /-- The lengths that variables are to be given, the last first. -/
  lengths : List (Bytes × Nat) := []

/-- Adds text. -/
def Filling.add (f : Filling) (text : Bytes) : Filling :=
  { f with pieces := text :: f.pieces }

/-- Reports something that makes the status worse. -/
def Filling.report (f : Filling) (status : Nat) (text : Bytes) : Filling :=
  { f with complaints := text :: f.complaints, status := max f.status status }

/-- Gives up. -/
def Filling.abandon (f : Filling) (status : Nat) (text : Bytes) : Filling :=
  { f.report status text with isOver := true }

/-- The text so far. -/
def Filling.text (f : Filling) : Bytes :=
  f.pieces.reverse.flatten

/-- Takes the next argument, if there is one. -/
def Filling.next (f : Filling) : Option Bytes × Filling :=
  (f.arguments.head?, { f with arguments := f.arguments.drop 1 })

/-! ## Arguments as numbers -/

/-- A text between quotes. -/
def quoteText (cs : Bytes) : Bytes :=
  '\'' :: cs ++ ['\'']

/-- Reports an argument of which a part only is a number, or nothing. -/
def Filling.checkRest (f : Filling) (dialect : Dialect) (argument rest : Bytes) (isNone : Bool) :
    Filling :=
  if argument = [] || (rest = [] && !isNone) then f
  else
    let shown := if dialect = .system then quoteText argument else argument
    let words := match dialect, isNone with
      | .own, true => ": expected numeric value"
      | .system, true => ": expected a numeric value"
      | .own, false => ": not completely converted"
      | .system, false => ": value not completely converted"
      | .rich, _ =>
        match argument with
        | '0' :: c :: _ =>
          if c.isDigit then ": invalid octal number"
          else if c = 'x' then ": invalid hex number" else ": invalid number"
        | _ => ": invalid number"
    f.report 1 (shown ++ words.toList)

/-- Reports a number that is too large. -/
def Filling.reportRange (f : Filling) (dialect : Dialect) (argument : Bytes) : Filling :=
  let words := ": Numerical result out of range".toList
  match dialect with
  | .own => f.report 1 (argument ++ words)
  | .system => f.report 1 (quoteText argument ++ words)
  | .rich => f.report 0 ("warning: ".toList ++ argument ++ words)

/-- The character after a quote at the start of an argument. -/
def quotedCharacter? (dialect : Dialect) (argument : Bytes) : Option (Char × Bytes) :=
  match argument with
  | q :: c :: rest => if q = '\'' || q = '"' then some (c, rest) else none
  | [q] => if dialect ≠ .system && (q = '\'' || q = '"') then some ('\x00', []) else none
  | [] => none

/-- Reports what follows a quoted character. -/
def Filling.checkQuoted (f : Filling) (dialect : Dialect) (rest : Bytes) : Filling :=
  if dialect ≠ .system || rest = [] then f
  else f.report 0 ("warning: ".toList ++ rest
    ++ ": character(s) following character constant have been ignored".toList)

/-- The whole number that an argument stands for, with or without a sign. -/
def Filling.wholeNumber (f : Filling) (dialect : Dialect) (signed : Bool) (argument : Bytes) :
    Int × Filling :=
  match quotedCharacter? dialect argument with
  | some (c, rest) => (c.toNat, f.checkQuoted dialect rest)
  | none =>
    let start := skipSpaces argument
    let digits := match start with
      | '-' :: rest => rest
      | '+' :: rest => rest
      | rest => rest
    let isNone := !digits.head?.any Char.isDigit
    let (n, rest) := readNumber argument
    let f := f.checkRest dialect argument rest isNone
    let fits := if signed then leastNumber ≤ n && n ≤ greatestNumber else n.natAbs < UInt64.size
    let f := if rest = [] && !fits then f.reportRange dialect argument else f
    if isNone then (0, f)
    else if signed then (saturated n, f)
    else if !fits then (UInt64.size - 1, f)
    else (n % UInt64.size, f)

/-- The number that an argument stands for. -/
def Filling.real (f : Filling) (dialect : Dialect) (argument : Bytes) : Real × Filling :=
  match quotedCharacter? dialect argument with
  | some (c, rest) => (.ofInt c.toNat, f.checkQuoted dialect rest)
  | none =>
    let (x, rest) := readReal argument
    let isNone := rest.length = argument.length
    let f := f.checkRest dialect argument rest isNone
    let x := x.rounded (if dialect = .own then 53 else 64)
    match dialect, x.magnitude with
    | .own, .fraction num den =>
      if den * twoTo 1024 ≤ num then
        (⟨x.negative, .infinite⟩, f.reportRange dialect argument)
      else (x, f)
    | _, _ => (x, f)

/-! ## Slots -/

/-- How an argument is set into its slot. -/
structure Slot where
  flags : List Char
  width : Nat
  /-- Whether a negative width was given. -/
  turned : Bool := false
  precision : Option Nat
  letter : Char

/-- Whether a text stands at the left of its slot. -/
def Slot.isLeft (p : Slot) : Bool :=
  p.turned || '-' ∈ p.flags

/-- Text set into the width of a slot. -/
def Slot.set (p : Slot) (text : Bytes) : Bytes :=
  if p.isLeft then padRight p.width ' ' text else padLeft p.width ' ' text

/-- Text cut to the precision of a slot and set into it. -/
def Slot.setText (p : Slot) (text : Bytes) : Bytes :=
  p.set (p.precision.elim text text.take)

/-- The sign of a number as a slot shows it. -/
def Slot.sign (p : Slot) (negative : Bool) : Bytes :=
  if negative then ['-']
  else if '+' ∈ p.flags then ['+']
  else if ' ' ∈ p.flags then [' ']
  else []

/-- Digits set into a slot, perhaps with zeros between what stands before them and them. -/
def Slot.setDigits (p : Slot) (mayPad : Bool) (before digits : Bytes) : Bytes :=
  if mayPad && '0' ∈ p.flags && !p.isLeft then
    before ++ padLeft (p.width - before.length) '0' digits
  else p.set (before ++ digits)

/-- A whole number set into a slot. -/
def Slot.setWhole (p : Slot) (n : Int) : Bytes :=
  let base := match p.letter with
    | 'o' => 8
    | 'x' => 16
    | 'X' => 16
    | _ => 10
  let shown := if n = 0 && p.precision = some 0 then [] else Nat.toDigits base n.natAbs
  let digits := padLeft (p.precision.getD 1) '0' shown
  let isOther := '#' ∈ p.flags
  let digits := if isOther && p.letter = 'o' && digits.head? ≠ some '0' then '0' :: digits
    else digits
  let before :=
    if p.letter = 'd' || p.letter = 'i' then p.sign (n < 0)
    else if isOther && base = 16 && n ≠ 0 then ['0', 'x']
    else []
  let text := p.setDigits p.precision.isNone before digits
  if p.letter = 'X' then text.map Char.toUpper else text

/-- A number set into a slot. The first digit of a hexadecimal one takes up so many binary ones. -/
def Slot.setReal (p : Slot) (leading : Nat) (x : Real) : Bytes :=
  let style := match p.letter.toLower with
    | 'f' => RealStyle.fixed
    | 'e' => RealStyle.exponent
    | _ => RealStyle.shorter
  let keepsPoint := '#' ∈ p.flags
  let sign := p.sign x.negative
  let text := match p.letter.toLower, x.magnitude with
    | 'a', .fraction num den =>
      p.setDigits true (sign ++ ['0', 'x']) (hexadecimalText leading keepsPoint p.precision num den)
    | _, .fraction _ _ =>
      p.setDigits true sign (x.magnitude.text style keepsPoint (p.precision.getD 6))
    | _, m => p.setDigits false sign (m.text style keepsPoint 0)
  if p.letter.isUpper then text.map Char.toUpper else text

/-- Fills a slot with the next argument. -/
def Filling.fill (f : Filling) (dialect : Dialect) (p : Slot) : Filling :=
  let (argument, f) := f.next
  let text := argument.getD []
  match p.letter with
  | 's' => f.add (p.setText text)
  | 'c' => f.add (p.set [text.headD '\x00'])
  | 'b' =>
    if dialect = .rich then
      let (text, isOver, reports) := resolveRich .argument (text.length + 1) text
      { reports.foldl (Filling.report · 0) (f.add (p.setText text)) with isOver := isOver }
    else
      let e := escaped dialect text
      { f.add (p.setText e.1) with isOver := e.2 }
  | letter =>
    if letter ∈ ['d', 'i', 'o', 'u', 'x', 'X'] then
      let (n, f) := f.wholeNumber dialect (letter = 'd' || letter = 'i') text
      f.add (p.setWhole n)
    else
      let (x, f) := f.real dialect text
      f.add (p.setReal (if dialect = .own then 1 else 4) x)

/-! ## Reading a template -/

/-- A width or a precision that is taken from the arguments. -/
def Filling.measure (f : Filling) (dialect : Dialect) : Int × Filling :=
  match f.next with
  | (none, f) => (0, f)
  | (some argument, f) => f.wholeNumber dialect true argument

/-- Reads the width of a slot: its value, whether it was negative, and the rest. -/
def Filling.width (f : Filling) (dialect : Dialect) (cs : Bytes) : Filling × Nat × Bool × Bytes :=
  match cs with
  | '*' :: rest =>
    let (n, f) := f.measure dialect
    (f, n.natAbs, n < 0, rest)
  | _ => let p := readBased 10 cs; (f, p.1, false, p.2)

/-- Reads the precision of a slot. -/
def Filling.precision (f : Filling) (dialect : Dialect) (cs : Bytes) :
    Filling × Option Nat × Bytes :=
  match cs with
  | '.' :: '*' :: rest =>
    let (n, f) := f.measure dialect
    (f, if n < 0 then none else some n.toNat, rest)
  | '.' :: rest => let p := readBased 10 rest; (f, some p.1, p.2)
  | _ => (f, none, cs)

/-- The letters of slots. -/
def slotLetters (dialect : Dialect) : List Char :=
  ['d', 'i', 'o', 'u', 'x', 'X', 's', 'c', 'e', 'E', 'f', 'F', 'g', 'G', 'a', 'A']
    ++ (if dialect = .own then ['b'] else [])

/-- Whether the system's program takes a letter with flags. -/
def admitsFlags (letter : Char) (flags : List Char) (hasPrecision : Bool) : Bool :=
  !('#' ∈ flags && letter ∈ ['c', 'd', 'i', 's', 'u'])
    && !('0' ∈ flags && letter ∈ ['c', 's'])
    && !('\'' ∈ flags && letter ∈ ['a', 'A', 'c', 'e', 'E', 'o', 's', 'x', 'X'])
    && !(hasPrecision && letter = 'c')

/-- A text between quotes, in which control characters are escaped. The flag tells whether an escape
stands before what is left. -/
def quotedFrom : Bool → Bytes → Bytes
  | _, [] => ['\'']
  | isEscape, c :: cs =>
    let escape (letters : Bytes) : Bytes :=
      (if isEscape then [] else ['\'', '$', '\'']) ++ '\\' :: letters ++ quotedFrom true cs
    match c with
    | '\'' => ['\'', '\\', '\'', '\''] ++ quotedFrom false cs
    | '\x07' => escape ['a']
    | '\x08' => escape ['b']
    | '\t' => escape ['t']
    | '\n' => escape ['n']
    | '\x0b' => escape ['v']
    | '\x0c' => escape ['f']
    | '\r' => escape ['r']
    | c =>
      if c.toNat < 32 || 126 < c.toNat then escape (padLeft 3 '0' (Nat.toDigits 8 c.toNat))
      else (if isEscape then ['\'', '\''] else []) ++ c :: quotedFrom false cs

/-- Whether a character means the same within double quotes. -/
def isPlainInQuotes (c : Char) : Bool :=
  c.isAlphanum || c ∈ ['%', '+', ',', '-', '.', '/', ':', ']', '_', ' ', '\'']

/-- A text in quotes. -/
def shellQuotedAlways (cs : Bytes) : Bytes :=
  if cs.contains '\'' && cs.all isPlainInQuotes then '"' :: cs ++ ['"']
  else '\'' :: quotedFrom false cs

/-- A text in quotes that are only set where they are needed. -/
def shellQuoted (cs : Bytes) : Bytes :=
  let needsQuotes (c : Char) : Bool :=
    c.toNat < 32 || 126 < c.toNat
      || c ∈ [' ', '!', '"', '$', '&', '(', ')', '*', ';', '<', '=', '>', '[', '^', '\x60', '|',
        '\'', '\\', '?']
  let isPlain := cs ≠ [] && !cs.any needsQuotes && !cs.head?.any ['#', '~'].contains
    && cs ≠ ['\x7b'] && cs ≠ ['\x7d']
  if isPlain then cs else shellQuotedAlways cs

/-- Fills the slot that follows a percent sign. -/
def Filling.slot (f : Filling) (dialect : Dialect) (cs : Bytes) : Filling × Bytes :=
  let marks := if dialect = .own then ['#', '-', '+', ' ', '0']
    else ['#', '-', '+', ' ', '0', '\'', 'I']
  let flags := cs.takeWhile (· ∈ marks)
  let (f, width, turned, rest) := f.width dialect (cs.drop flags.length)
  let (f, precision, rest) := f.precision dialect rest
  let rest := if dialect = .own then rest
    else rest.dropWhile (· ∈ ['l', 'h', 'L', 'j', 't', 'z'])
  let shown := '%' :: cs.take (cs.length - rest.length + 1)
  match rest with
  | [] =>
    if dialect = .own then (f.abandon 2 "missing format character".toList, [])
    else (f.abandon 1 (shown ++ ": invalid conversion specification".toList), [])
  | letter :: rest =>
    if !(letter ∈ slotLetters dialect) then
      if dialect = .own then (f.abandon 2 (shown ++ ": invalid directive".toList), [])
      else (f.abandon 1 (shown ++ ": invalid conversion specification".toList), [])
    else if dialect = .system && !admitsFlags letter flags (precision.isSome || '.' ∈ shown) then
      (f.abandon 1 (shown ++ ": invalid conversion specification".toList), [])
    else (f.fill dialect ⟨flags, width, turned, precision, letter⟩, rest)

/-- The format of a date up to the parenthesis that closes it, and what follows that. -/
def cutDateFormat : Nat → Bytes → Option (Bytes × Bytes)
  | _, [] => none
  | depth, c :: rest =>
    if c = ')' && depth = 0 then some ([], rest)
    else
      let depth := if c = '(' then depth + 1 else if c = ')' then depth - 1 else depth
      (cutDateFormat depth rest).map fun p => (c :: p.1, p.2)

/-- Fills the slot of the rich language that follows a percent sign. -/
def Filling.richSlot (f : Filling) (cs : Bytes) : Filling × Bytes :=
  let flags := cs.takeWhile (['#', '\'', '-', '+', ' ', '0'].contains ·)
  let (f, width, turned, rest) := f.width .rich (cs.drop flags.length)
  let (f, precision, rest) := f.precision .rich rest
  let rest := rest.dropWhile (['h', 'j', 'l', 'L', 't', 'z'].contains ·)
  let slot (letter : Char) : Slot := ⟨flags, width, turned, precision, letter⟩
  match rest with
  | [] => (f.abandon 1 ('\x60' :: '%' :: cs ++ "': missing format character".toList), [])
  | 'q' :: rest =>
    let (argument, f) := f.next
    (f.add ((slot 'q').setText (f.quoting (argument.getD []))), rest)
  | 'Q' :: rest =>
    let (argument, f) := f.next
    let text := argument.getD []
    (f.add ((slot 'Q').set (f.quoting (precision.elim text text.take))), rest)
  | 'n' :: rest =>
    let (argument, f) := f.next
    ({ f with lengths := (argument.getD [], f.text.length - f.start) :: f.lengths }, rest)
  | '(' :: inside =>
    match cutDateFormat 0 inside with
    | some (format, 'T' :: rest) =>
      let format := if format = [] then ['%', 'X'] else format
      let (seconds, f) := match f.next with
        | (none, f) => ((-1 : Int), f)
        | (some argument, f) => f.wholeNumber .rich true argument
      let present := seconds = -1 || seconds = -2
      (f.add ((slot 's').setText (f.dating format (if present then none else some seconds))), rest)
    | other =>
      let next : Bytes := (other.map fun p => p.2.take 1).getD []
      let words := "warning: \x60".toList ++ next ++ "': invalid time format specification".toList
      ((f.report 0 words).add ['%'], cs)
  | letter :: rest =>
    if letter = 'b' || (slotLetters .rich).contains letter then (f.fill .rich (slot letter), rest)
    else (f.abandon 1 ('\x60' :: letter :: "': invalid format character".toList), [])

/-- Goes through a template once. -/
def Filling.once (dialect : Dialect) : Nat → Bytes → Filling → Filling
  | 0, _, f => f
  | fuel + 1, cs, f =>
    if f.isOver then f
    else
      match cs with
      | [] => f
      | '%' :: '%' :: rest => once dialect fuel rest (f.add ['%'])
      | '%' :: rest =>
        match dialect, rest with
        | .system, 'b' :: rest =>
          let (argument, f) := f.next
          let e := escaped .system (argument.getD [])
          once dialect fuel rest { f.add e.1 with isOver := e.2 }
        | .system, 'q' :: rest =>
          let (argument, f) := f.next
          once dialect fuel rest (f.add (argument.elim [] shellQuoted))
        | .rich, rest =>
          let (f, rest) := f.richSlot rest
          once dialect fuel rest f
        | _, _ =>
          let (f, rest) := f.slot dialect rest
          once dialect fuel rest f
      | '\\' :: rest =>
        match dialect, rest with
        | .system, 'c' :: _ => { f with isOver := true }
        | .system, 'x' :: rest =>
          match readHexadecimal? rest with
          | some p => once dialect fuel p.2 (f.add [p.1])
          | none => f.abandon 1 "missing hexadecimal number in escape".toList
        | .rich, rest =>
          let (text, rest, report) := readRichEscape .template rest
          once dialect fuel rest (report.elim (f.add text) ((f.add text).report 0))
        | _, _ =>
          let p := readEscape dialect rest
          once dialect fuel p.2 (f.add p.1)
      | c :: rest =>
        let run := c :: rest.takeWhile fun c => c ≠ '%' && c ≠ '\\'
        once dialect fuel (cs.drop run.length) (f.add run)

/-- Goes through a template again and again until the arguments are used up. -/
def Filling.all (dialect : Dialect) (template : Bytes) : Nat → Filling → Filling
  | 0, f => f
  | fuel + 1, f =>
    let g := f.once dialect (template.length + 1) template
    if g.isOver || g.arguments = [] then g
    else if g.arguments.length = f.arguments.length then
      if dialect ≠ .system then g
      else
        let shown := quoteText (g.arguments.headD [])
        g.report 0 ("warning: ignoring excess arguments, starting with ".toList ++ shown)
    else all dialect template fuel { g with start := g.text.length }

/-- Fills a template of the rich language with arguments, which are quoted and taken for dates in
certain ways where that is asked for. -/
def fillRich (quoting : Bytes → Bytes) (dating : Bytes → Option Int → Bytes) (template : Bytes)
    (arguments : List Bytes) : Filling :=
  Filling.all .rich template (arguments.length + 1)
    { arguments := arguments, quoting := quoting, dating := dating }

/-- Fills a template with arguments. -/
def fillTemplate (dialect : Dialect) (template : Bytes) (arguments : List Bytes) : Filling :=
  Filling.all dialect template (arguments.length + 1) { arguments := arguments }

end LinkWatch.Host.Utility
