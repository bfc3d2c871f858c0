import LinkWatch.Decimal.Nearest
import LinkWatch.Host.Utility.Stream

/-!
# The start and the end of an input

So many bytes or lines at the start of an input or at its end, or all but so many.
-/

namespace LinkWatch.Host.Utility

open LinkWatch.Text LinkWatch.Host.Kernel

/-- The factor that a suffix of a number stands for. -/
def suffixFactor? (cs : Bytes) : Option Nat :=
  let letters := "KMGTPE".toList
  match cs with
  | [] => some 1
  | ['b'] => some 512
  | c :: rest =>
    match letters.findIdx? (· = c.toUpper) with
    | none => none
    | some i =>
      if rest = [] || rest = ['i', 'B'] then some (Nat.pow 1024 (i + 1))
      else if rest = ['B'] then some (Nat.pow 1000 (i + 1))
      else none

/-- A number with an optional suffix. -/
def sizeOf? (cs : Bytes) : Option Nat :=
  let (n, rest) := readBased 10 cs
  if !cs.head?.any Char.isDigit then none else (suffixFactor? rest).map (n * ·)

/-- Which part of an input is wanted. -/
structure Excerpt where
  /-- Whether bytes are counted, and not lines. -/
  bytes : Bool := false
  count : Nat := 10
  /-- Whether the count is given from the other end. -/
  isTurned : Bool := false

/-- The first lines of a text. -/
def firstLines (count : Nat) (cs : Bytes) : Bytes :=
  let (lines, isEnded) := linesOf cs
  if count < lines.length then (lines.take count).flatMap line
  else if isEnded then cs
  else cs

/-- The last lines of a text. -/
def lastLines (count : Nat) (cs : Bytes) : Bytes :=
  let (lines, isEnded) := linesOf cs
  let kept := lines.drop (lines.length - count)
  let text := joinWith ['\n'] kept
  if isEnded && kept ≠ [] then line text else text

/-- Writes the first bytes of a descriptor. -/
def writeFirstBytes (descriptor : Nat) : Nat → Nat → Program (Option Trouble)
  | 0, _ => return none
  | fuel + 1, count => do
    if count = 0 then return none
    match ← request (.read descriptor (min count 8192)) with
    | .error e => return some (.reading e)
    | .ok [] => return none
    | .ok piece =>
      match ← writeTo 1 piece with
      | .error e => return some (.writing e)
      | .ok _ => writeFirstBytes descriptor fuel (count - piece.length)

/-- Writes the first lines of a descriptor. -/
def writeFirstLines (descriptor : Nat) : Nat → Nat → Program (Option Trouble)
  | 0, _ => return none
  | fuel + 1, count => do
    if count = 0 then return none
    match ← request (.read descriptor 8192) with
    | .error e => return some (.reading e)
    | .ok [] => return none
    | .ok piece =>
      let ends := piece.count '\n'
      let text := if ends < count then piece else firstLines count piece
      match ← writeTo 1 text with
      | .error e => return some (.writing e)
      | .ok _ => writeFirstLines descriptor fuel (count - ends)

/-- Writes the start of a descriptor. -/
def Excerpt.writeStart (x : Excerpt) (descriptor : Nat) : Program (Option Trouble) := do
  if !x.isTurned then
    if x.bytes then writeFirstBytes descriptor streamFuel x.count
    else writeFirstLines descriptor streamFuel x.count
  else
    match ← readAll descriptor with
    | .error e => return some (.reading e)
    | .ok text =>
      let kept :=
        if x.bytes then text.take (text.length - x.count)
        else text.take (text.length - (lastLines x.count text).length)
      match ← writeTo 1 kept with
      | .error e => return some (.writing e)
      | .ok _ => return none

/-- A worker that leaves out so many bytes. -/
def skipBytes : Worker Nat where
  take n piece := (n - piece.length, piece.drop n)

/-- A worker that leaves out so many lines. -/
def skipLines : Worker Nat where
  take n piece :=
    if n = 0 then (0, piece)
    else
      let ends := piece.count '\n'
      if ends < n then (n - ends, [])
      else (0, piece.drop (firstLines n piece).length)

/-- Writes the end of a descriptor. -/
def Excerpt.writeEnd (x : Excerpt) (descriptor : Nat) : Program (Option Trouble) := do
  if x.isTurned then
    let w := if x.bytes then skipBytes else skipLines
    let (p, trouble) ← w.pump descriptor streamFuel { state := x.count - 1 }
    match trouble with
    | some trouble => return some trouble
    | none =>
      match ← p.flush with
      | .ok _ => return none
      | .error e => return some (.writing e)
  else
    match ← readAll descriptor with
    | .error e => return some (.reading e)
    | .ok text =>
      let kept := if x.bytes then text.drop (text.length - x.count) else lastLines x.count text
      match ← writeTo 1 kept with
      | .error e => return some (.writing e)
      | .ok _ => return none

/-- Goes through files one after the other, with a heading for each if there are several. -/
def overEach (c : Call) (shows : Bool) (write : Nat → Program (Option Trouble)) :
    Bool → List Bytes → Program Nat
  | _, [] => return 0
  | isFirst, file :: files => do
    let isInput := file = ['-']
    let opened ←
      if isInput then pure (.ok ()) else request (.open fileDescriptor file .read false)
    match opened with
    | .error e =>
      c.complain (Wording.quoting.opening file e)
      let _ ← overEach c shows write isFirst files
      return 1
    | .ok _ =>
      let name := if isInput then "standard input".toList else file
      let heading :=
        if shows then
          (if isFirst then [] else ['\n']) ++ line ("==> ".toList ++ name ++ " <==".toList)
        else []
      let headed ← writeTo 1 heading
      let trouble ← match headed with
        | .ok _ => write (if isInput then 0 else fileDescriptor)
        | .error e => pure (some (.writing e))
      if !isInput then request (.close fileDescriptor)
      match trouble with
      | none => overEach c shows write false files
      | some (.writing e) => c.refuse 1 ("write error: ".toList ++ wordsOf e)
      | some (.reading e) =>
        c.complain (Wording.quoting.reading file e)
        let _ ← overEach c shows write false files
        return 1

/-- The options of programs for excerpts. -/
def excerptTable (follows : Bool) : OptionTable where
  plain := ['q', 'v', 'z'] ++ (if follows then ['f', 'F', 'r'] else [])
  valued := ['n', 'c'] ++ (if follows then ['s'] else [])
  long := [("lines", 'n'), ("bytes", 'c'), ("quiet", 'q'), ("silent", 'q'), ("verbose", 'v'),
    ("follow", 'f'), ("retry", 'r'), ("sleep-interval", 's')]

/-- A number of lines as the first argument, in the old way. -/
def oldCount? (sign : Char) (arguments : List Bytes) : Option (Nat × Bool × List Bytes) :=
  match arguments with
  | (s :: d :: rest) :: others =>
    if s = sign && d.isDigit then
      let (n, suffix) := readBased 10 (d :: rest)
      if suffix = [] then some (n, false, others)
      else if suffix = ['c'] then some (n, true, others)
      else none
    else none
  | _ => none

/-- The start of each input. -/
def head (c : Call) : Program Nat := do
  let (old, arguments) := match oldCount? '-' c.arguments with
    | some (n, bytes, rest) => (some (n, bytes), rest)
    | none => (none, c.arguments)
  Call.withOptions { c with arguments := arguments } (excerptTable false) 1 fun o => do
    let given := o.flags.reverse.find? fun f => f.1 = 'n' || f.1 = 'c'
    let excerpt : Except Bytes Excerpt := match given, old with
      | some (flag, value), _ =>
        let (turned, digits) := match value with
          | '-' :: rest => (true, rest)
          | '+' :: rest => (false, rest)
          | rest => (false, rest)
        match sizeOf? digits with
        | some n => .ok ⟨flag = 'c', n, turned⟩
        | none =>
          let what := if flag = 'c' then "bytes" else "lines"
          .error ("invalid number of ".toList ++ what.toList ++ ": '".toList ++ value ++ ['\''])
      | none, some (n, bytes) => .ok ⟨bytes, n, false⟩
      | none, none => .ok {}
    match excerpt with
    | .error words => c.refuse 1 words
    | .ok x =>
      let files := if o.operands = [] then [['-']] else o.operands
      let shows := o.has 'v' || (files.length > 1 && !o.has 'q')
      overEach c shows x.writeStart true files

/-- Waits without an end. -/
def waitForever : Program Nat := do
  let _ ← request (.pause (Decimal.tenTo 30))
  return 0

/-- The end of each input. -/
def tail (c : Call) : Program Nat := do
  let (old, arguments) := match oldCount? '-' c.arguments, oldCount? '+' c.arguments with
    | some (n, bytes, rest), _ => (some (Excerpt.mk bytes n false), rest)
    | none, some (n, bytes, rest) => (some (Excerpt.mk bytes n true), rest)
    | none, none => (none, c.arguments)
  Call.withOptions { c with arguments := arguments } (excerptTable true) 1 fun o => do
    let given := o.flags.reverse.find? fun f => f.1 = 'n' || f.1 = 'c'
    let excerpt : Except Bytes Excerpt := match given, old with
      | some (flag, value), _ =>
        let (turned, digits) := match value with
          | '-' :: rest => (false, rest)
          | '+' :: rest => (true, rest)
          | rest => (false, rest)
        match sizeOf? digits with
        | some n => .ok ⟨flag = 'c', n, turned⟩
        | none =>
          let what := if flag = 'c' then "bytes" else "lines"
          .error ("invalid number of ".toList ++ what.toList ++ ": '".toList ++ value ++ ['\''])
      | none, some x => .ok x
      | none, none => .ok {}
    match excerpt with
    | .error words => c.refuse 1 words
    | .ok x =>
      let files := if o.operands = [] then [['-']] else o.operands
      let shows := o.has 'v' || (files.length > 1 && !o.has 'q')
      let status ← overEach c shows x.writeEnd true files
      let nature ← request (.inspect 0)
      let follows := (o.has 'f' || o.has 'F')
        && !(o.operands = [] && nature = some Nature.pipe) && (status = 0 || o.has 'F')
      if follows then waitForever else return status

end LinkWatch.Host.Utility
