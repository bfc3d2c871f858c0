import LinkWatch.Decimal.Fixed
import LinkWatch.Host.Utility.Stream

/-!
# Lines laid out

Programs that put their inputs one after the other, number or turn lines, or break them.
-/

namespace LinkWatch.Host.Utility

open LinkWatch.Text LinkWatch.Host.Kernel LinkWatch.Decimal

/-! ## One after the other -/

/-- A character that cannot be shown, made visible. -/
def visible (c : Char) : Bytes :=
  let plain (n : Nat) : Bytes :=
    if n = 127 then ['^', '?'] else if n < 32 then ['^', Char.ofNat (n + 64)] else [Char.ofNat n]
  if c.toNat < 128 then plain c.toNat else 'M' :: '-' :: plain (c.toNat - 128)

/-- The state of a program that shows lines: how many it has numbered, whether a line has begun, and
whether the line before was empty. -/
structure Shown where
  number : Nat := 0
  isInside : Bool := false
  emptyLines : Nat := 0

/-- Shows a piece of input with numbers or visible characters. -/
def showPiece (o : Options) (s : Shown) (piece : Bytes) : Shown × Bytes :=
  let showsAll := o.has 'A' || o.has 'e' || o.has 't' || o.has 'v'
  let showsEnds := o.has 'A' || o.has 'e' || o.has 'E'
  let showsTabs := o.has 'A' || o.has 't' || o.has 'T'
  let p := piece.foldl (fun (acc : Shown × List Bytes) c =>
    let (s, out) := acc
    let isEmpty := c = '\n' && !s.isInside
    let emptyLines := if isEmpty then s.emptyLines + 1 else 0
    if o.has 's' && isEmpty && emptyLines > 1 then ({ s with emptyLines := emptyLines }, out)
    else
      let numbers := !s.isInside && (if o.has 'b' then !isEmpty else o.has 'n')
      let number := if numbers then s.number + 1 else s.number
      let mark := if numbers then padLeft 6 ' ' (digitsOf number) ++ ['\t'] else []
      let text :=
        if c = '\n' then (if showsEnds then ['$', '\n'] else ['\n'])
        else if c = '\t' then (if showsTabs then ['^', 'I'] else ['\t'])
        else if showsAll then visible c
        else [c]
      (⟨number, c ≠ '\n', emptyLines⟩, text :: mark :: out)) (s, [])
  (p.1, p.2.reverse.flatten)

/-- All inputs one after the other. -/
def cat (c : Call) : Program Nat :=
  let t : OptionTable :=
    { plain := "AbeEnstTuv".toList
      long := [("show-all", 'A'), ("number-nonblank", 'b'), ("show-ends", 'E'), ("number", 'n'),
        ("squeeze-blank", 's'), ("show-tabs", 'T'), ("show-nonprinting", 'v')] }
  c.withOptions t 1 fun o =>
    let w : Worker Shown :=
      if o.flags.all fun f => f.1 = 'u' then { take := fun s piece => (s, piece), isPrompt := true }
      else { take := showPiece o, isPrompt := true }
    w.run c .usual o.operands {} (fun _ => ([], 0)) 1

/-- Copies the input to the output and to files. -/
def tee (c : Call) : Program Nat :=
  let t : OptionTable := { plain := ['a', 'i', 'p'], long := [("append", 'a')] }
  c.withOptions t 1 fun o => do
    let how := if o.has 'a' then Opening.append else Opening.write
    let opened ← o.operands.mapIdx (fun i file => (i, file)) |>.mapM fun (i, file) => do
      match ← request (.open (fileDescriptor + i) file how false) with
      | .ok _ => return some (fileDescriptor + i, file)
      | .error e =>
        c.complain (Wording.usual.opening file e)
        return none
    let targets := opened.filterMap id
    let rec copy : Nat → Bool → Program Bool
      | 0, isFine => return isFine
      | fuel + 1, isFine => do
        match ← request (.read 0 pieceSize) with
        | .error _ => return false
        | .ok [] => return isFine
        | .ok piece =>
          let first ← writeTo 1 piece
          let results ← targets.mapM fun (d, file) => do
            match ← writeTo d piece with
            | .ok _ => return true
            | .error e =>
              c.complain (Wording.usual.opening file e)
              return false
          match first with
          | .ok _ => copy fuel (isFine && results.all id)
          | .error e =>
            c.complain ("'standard output': ".toList ++ wordsOf e)
            if targets = [] then return false else copy fuel false
    let isFine ← copy streamFuel (opened.all Option.isSome)
    return if isFine then 0 else 1

/-- A line again and again. -/
def yes (c : Call) : Program Nat :=
  let words := if c.arguments.head? = some ['-', '-'] then c.arguments.drop 1 else c.arguments
  let text := line (if words = [] then ['y'] else joinWords words)
  let block := (List.replicate (8192 / text.length + 1) text).flatten
  let rec write : Nat → Program Nat
    | 0 => return 0
    | fuel + 1 => do
      match ← request (.write 1 block) with
      | .ok _ =>
        let _ ← request (.pause 20000)
        write fuel
      | .error e => c.refuse 1 ("standard output: ".toList ++ wordsOf e)
  write streamFuel

/-! ## Order -/

/-- The parts of a text that end with a mark, or that begin with it, from the last to the first. -/
def reversedParts (mark : Bytes) (isBefore_ : Bool) (text : Bytes) : Bytes :=
  let rec split : Nat → Bytes → List Bytes
    | 0, cs => [cs]
    | fuel + 1, cs =>
      match cut? mark cs with
      | some (part, rest) => part :: split fuel rest
      | none => [cs]
  let parts := split (text.length + 1) text
  if isBefore_ then
    match parts with
    | first :: rest => (rest.map (mark ++ ·)).reverse.flatten ++ first
    | [] => []
  else ((parts.dropLast.map (· ++ mark)) ++ [parts.getLast?.getD []]).reverse.flatten

/-- The lines of each input from the last to the first. -/
def reverseLines (c : Call) : Program Nat :=
  let t : OptionTable :=
    { plain := ['b', 'r'], valued := ['s'],
      long := [("before", 'b'), ("regex", 'r'), ("separator", 's')] }
  c.withOptions t 1 fun o => do
    let mark := match o.value? 's' with
      | some [] => ['\x00']
      | some m => m
      | none => ['\n']
    let files := if o.operands = [] then [['-']] else o.operands
    let results ← files.mapM fun file => do
      match ← readFile file with
      | .ok text => return (reversedParts mark (o.has 'b') text, true)
      | .error e =>
        c.complain ((if e = .isDirectory then file ++ ": read error".toList
          else "failed to open ".toList ++ inQuotes file ++ " for reading".toList)
            ++ ':' :: ' ' :: wordsOf e)
        return ([], false)
    c.deliver (results.flatMap (·.1)) (if results.all (·.2) then 0 else 1)

/-- Each line from its last character to its first. -/
def turnLines (c : Call) : Program Nat :=
  let step : LineStep Unit := fun _ text isEnded => ((), lineAs text.reverse isEnded, true)
  let wording : Wording :=
    { Wording.usual with
      opening := fun file e => "cannot open ".toList ++ file ++ ':' :: ' ' :: wordsOf e }
  overLines c wording c.arguments () step (fun _ => ([], 0)) 1

/-! ## Width -/

/-- The column after a character. -/
def columnAfter (byBytes : Bool) (column : Nat) (c : Char) : Nat :=
  if byBytes then column + 1
  else if c = '\x08' then column - 1
  else if c = '\r' then 0
  else if c = '\t' then column + 8 - column % 8
  else column + 1

/-- Cuts a line where it becomes too wide, after the last blank if that is asked for. `done` is what
has been taken since the last cut, in reverse. -/
def foldLine (width : Nat) (byBytes atBlanks : Bool) : Nat → Nat → Bytes → Bytes → Bytes
  | 0, _, done, cs => done.reverse ++ cs
  | _, _, done, [] => done.reverse
  | fuel + 1, column, done, c :: cs =>
    let next := columnAfter byBytes column c
    if next ≤ width then foldLine width byBytes atBlanks fuel next (c :: done) cs
    else
      let tail := done.takeWhile fun d => !isBlankChar d
      if atBlanks && tail.length < done.length then
        let column := tail.reverse.foldl (columnAfter byBytes) 0
        (done.drop tail.length).reverse
          ++ '\n' :: foldLine width byBytes atBlanks fuel column tail (c :: cs)
      else if done = [] then foldLine width byBytes atBlanks fuel next [c] cs
      else done.reverse ++ '\n' :: foldLine width byBytes atBlanks fuel 0 [] (c :: cs)

/-- Breaks long lines. -/
def fold (c : Call) : Program Nat :=
  let t : OptionTable :=
    { plain := ['b', 's'], valued := ['w'],
      long := [("width", 'w'), ("spaces", 's'), ("bytes", 'b')] }
  let arguments := c.arguments.map fun a => match a with
    | '-' :: d :: rest => if d.isDigit then '-' :: 'w' :: d :: rest else a
    | a => a
  Call.withOptions { c with arguments := arguments } t 1 fun o =>
    match natural? ((o.value? 'w').getD "80".toList) with
    | none => c.refuse 1 ("invalid number of columns: ".toList ++ inQuotes ((o.value? 'w').getD []))
    | some 0 =>
      c.refuse 1 ("invalid number of columns: ".toList ++ inQuotes ['0']
        ++ ": Numerical result out of range".toList)
    | some width =>
      let step : LineStep Unit := fun _ text isEnded =>
        ((), lineAs (foldLine width (o.has 'b') (o.has 's') (3 * text.length + 3) 0 [] text)
          isEnded, true)
      overLines c .usual o.operands () step (fun _ => ([], 0)) 1

end LinkWatch.Host.Utility
