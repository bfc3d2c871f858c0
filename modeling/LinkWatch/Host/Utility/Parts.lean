import LinkWatch.Host.Utility.Excerpt
import LinkWatch.Host.Utility.Launching
import LinkWatch.Host.Utility.Holdings
import LinkWatch.Host.Utility.Regex
import LinkWatch.Host.Utility.Template

/-!
# Files cut into parts

A file is cut into parts of a size, into a number of parts, or where some lines are. The parts
become files with names that are counted on.
-/

namespace LinkWatch.Host.Utility

open LinkWatch.Text LinkWatch.Host.Kernel LinkWatch.Child LinkWatch.Decimal

/-! ## Names -/

/-- How the names of parts are counted. -/
structure PartNames where
  start : Bytes
  ending : Bytes
  alphabet : Bytes
  size : Nat
  first : Nat := 0
  /-- Whether names get longer when the short ones are used up. -/
  widens : Bool

/-- A number in the digits of an alphabet. -/
def inAlphabet (alphabet : Bytes) (size n : Nat) : Bytes :=
  let digits := (List.range size).map fun i =>
    alphabet.getD (n / Nat.pow alphabet.length i % alphabet.length) 'a'
  digits.reverse

/-- The name of a part by its number, if there are enough names. -/
def PartNames.name? (p : PartNames) : Nat → Nat → Bytes → Nat → Option Bytes
  | 0, _, _, _ => none
  | fuel + 1, size, start, n =>
    let base := p.alphabet.length
    let narrow := (base - 1) * Nat.pow base (size - 1)
    if p.widens && narrow ≤ n then
      p.name? fuel (size + 1) (start ++ [p.alphabet.getLast?.getD 'z']) (n - narrow)
    else if Nat.pow base size ≤ n then none
    else some (start ++ inAlphabet p.alphabet size n ++ p.ending)

/-- The name of a part by its number, if there are enough names. -/
def PartNames.nth? (p : PartNames) (i : Nat) : Option Bytes :=
  p.name? 40 p.size p.start (p.first + i)

/-! ## Parts -/

/-- How a file is cut. -/
inductive Partition where
  | lines (n : Nat)
  | bytes (n : Nat)
  /-- Lines that are not longer together. -/
  | lineBytes (n : Nat)
  /-- So many parts of one size; perhaps only one of them is wanted. -/
  | chunks (n : Nat) (wanted : Option Nat)
  | lineChunks (n : Nat) (wanted : Option Nat)
  /-- Lines dealt out in turn. -/
  | rounds (n : Nat) (wanted : Option Nat)

/-- Parts of one size. -/
def partsOfSize {α : Type} (size : Nat) : Nat → List α → List (List α)
  | 0, _ => []
  | fuel + 1, xs => if xs.isEmpty then [] else xs.take size :: partsOfSize size fuel (xs.drop size)

/-- The lines of a text with their ends. -/
def linesWithEnds (ending : Char) (text : Bytes) : List Bytes :=
  let parts := pieces ending text
  let last := parts.getLast?.getD []
  parts.dropLast.map (· ++ [ending]) ++ if last = [] then [] else [last]

/-- Lines put together as long as they are not too long. -/
def packLines (most : Nat) : Nat → Bytes → List Bytes → List Bytes
  | 0, part, _ => [part]
  | _ + 1, part, [] => if part = [] then [] else [part]
  | fuel + 1, part, l :: ls =>
    if part.length + l.length ≤ most then packLines most fuel (part ++ l) ls
    else if part ≠ [] then part :: packLines most fuel [] (l :: ls)
    else l.take most :: packLines most fuel [] (l.drop most :: ls)

/-- The ends of so many parts of one size; the last one takes what is left. -/
def chunkEnd (size count number : Nat) : Nat :=
  if number = count then size else number * (size / count)

/-- So many parts that end where lines end. -/
def evenLineParts (size count : Nat) (ending : Char) : Nat → Nat → Nat → Bytes → List Bytes
  | 0, _, _, _ => []
  | fuel + 1, number, position, rest =>
    if count < number then []
    else
      let stop := chunkEnd size count number
      if stop ≤ position then [] :: evenLineParts size count ending fuel (number + 1) position rest
      else
        let sure := stop - 1 - position
        let after := rest.drop sure
        let more := after.takeWhile (· ≠ ending)
        let part := rest.take (sure + more.length + 1)
        part :: evenLineParts size count ending fuel (number + 1) (position + part.length)
          (rest.drop part.length)

/-- The parts of a text. -/
def Partition.parts (k : Partition) (ending : Char) (text : Bytes) : List Bytes :=
  match k with
  | .lines n => (partsOfSize n (text.length + 1) (linesWithEnds ending text)).map List.flatten
  | .bytes n => partsOfSize n (text.length + 1) text
  | .lineBytes n => packLines n (2 * text.length + 2) [] (linesWithEnds ending text)
  | .chunks n _ =>
    let size := max text.length n
    (List.range n).map fun i =>
      (text.take (chunkEnd size n (i + 1))).drop (chunkEnd size n i)
  | .lineChunks n _ => evenLineParts (max text.length n) n ending (n + 1) 1 0 text
  | .rounds n _ =>
    let ls := (linesWithEnds ending text).mapIdx fun i l => (i % n, l)
    (List.range n).map fun i => ((ls.filter fun l => l.1 = i).map Prod.snd).flatten

/-- The number of the only part that is wanted, and how many parts there are. -/
def Partition.wanted? : Partition → Option Nat
  | .chunks _ wanted => wanted
  | .lineChunks _ wanted => wanted
  | .rounds _ wanted => wanted
  | _ => none

/-- How many parts there are, if that is given. -/
def Partition.count? : Partition → Option Nat
  | .chunks n _ => some n
  | .lineChunks n _ => some n
  | .rounds n _ => some n
  | _ => none

/-! ## Reading options -/

/-- What is wrong with options, and whether help is pointed to. -/
abbrev PartFault := Bytes × Bool

/-- Reads a number of parts. -/
def readChunks (text : Bytes) : Except PartFault Partition :=
  let number (cs : Bytes) : Except PartFault Nat :=
    match natural? cs with
    | some n =>
      if n = 0 then .error ("invalid number of chunks: ".toList ++ inQuotes cs, false) else .ok n
    | none => .error ("invalid number of chunks: ".toList ++ inQuotes cs, false)
  let counted (make : Nat → Option Nat → Partition) (cs : Bytes) : Except PartFault Partition :=
    match cutAt? '/' cs with
    | none => (number cs).map fun n => make n none
    | some (first, rest) =>
      match natural? first with
      | none => .error ("invalid number of chunks: ".toList ++ inQuotes cs, false)
      | some wanted =>
        (number rest).bind fun n =>
          if wanted = 0 || n < wanted then
            .error ("invalid chunk number: ".toList ++ inQuotes first, false)
          else .ok (make n (some wanted))
  match text with
  | 'l' :: '/' :: rest => counted .lineChunks rest
  | 'r' :: '/' :: rest => counted .rounds rest
  | text => counted .chunks text

/-- How a file is cut as options say. -/
def readPartition (o : Options) : Except PartFault Partition :=
  let number (words : String) (cs : Bytes) (make : Nat → Partition) : Except PartFault Partition :=
    match sizeOf? cs with
    | some n =>
      if n = 0 then .error (words.toList ++ inQuotes cs, false) else .ok (make n)
    | none => .error (words.toList ++ inQuotes cs, false)
  let ways := o.flags.filter fun f => ['l', 'b', 'C', 'n'].contains f.1
  match ways with
  | [] => .ok (.lines 1000)
  | [(letter, value)] =>
    match letter with
    | 'l' => number "invalid number of lines: " value .lines
    | 'b' => number "invalid number of bytes: " value .bytes
    | 'C' => number "invalid number of lines: " value .lineBytes
    | _ => readChunks value
  | _ => .error ("cannot split in more than one way".toList, true)

/-- The names of parts as options say. -/
def readNames (o : Options) (k : Partition) (start : Bytes) : Except PartFault PartNames :=
  let isNumeric := o.has 'd' || o.has 'D'
  let isHex := o.has 'x' || o.has 'X'
  let alphabet : Bytes := if isHex then "0123456789abcdef".toList
    else if isNumeric then "0123456789".toList else "abcdefghijklmnopqrstuvwxyz".toList
  let from' := ((o.value? 'D').or (o.value? 'X')).filter (· ≠ [])
  let ending := (o.value? 'S').getD []
  let given : Except PartFault Nat := match o.value? 'a' with
    | none => .ok 0
    | some cs => match natural? cs with
      | some n => .ok n
      | none => .error ("invalid suffix length: ".toList ++ inQuotes cs, false)
  if ending.contains '/' then
    .error ("invalid suffix ".toList ++ inQuotes ending ++ ", contains directory separator".toList,
      true)
  else
    given.bind fun given =>
      let first : Option Nat := match from' with
        | none => some 0
        | some cs =>
          if cs.all fun c => digitValue c < alphabet.length then
            some (readBased alphabet.length cs).1 else none
      match first with
      | none =>
        .error (inQuotes (from'.getD [])
          ++ (if isHex then ": invalid start value for hexadecimal suffix"
          else ": invalid start value for numerical suffix").toList, true)
      | some first =>
        let needed := match k.count? with
          | none => 0
          | some n =>
            let last := n - 1 + (if first < n then first else 0)
            if alphabet.length ≤ 1 then 1
            else ((List.range 40).find? fun i => last < Nat.pow alphabet.length (i + 1)).getD 40 + 1
        if given ≠ 0 && given < needed then
          .error ("the suffix length needs to be at least ".toList ++ digitsOf needed, false)
        else
          let size := if given ≠ 0 then given else max 2 needed
          if size < (from'.getD []).length then
            .error ("numerical suffix start value is too large for the suffix length".toList, true)
          else
            .ok ⟨start, ending, alphabet, size, first, given = 0 && k.count?.isNone && from'.isNone⟩

/-- The character that ends lines as options say. -/
def readEnding (o : Options) : Except PartFault Char :=
  match o.values 't' with
  | [] => .ok '\n'
  | value :: rest =>
    if value = [] then .error ("empty record separator".toList, false)
    else if rest.any (· ≠ value) then
      .error ("multiple separator characters specified".toList, false)
    else if value = ['\\', '0'] then .ok '\x00'
    else match value with
      | [c] => .ok c
      | value => .error ("multi-character separator ".toList ++ inQuotes value, false)

/-! ## Writing parts -/

/-- Gives a part to a command; whether it has ended well. -/
def passPart (perform : Performer) (c : Call) (command name part : Bytes) : Program Bool := do
  let shell := (c.environment.lookup "SHELL".toList).getD "/bin/sh".toList
  let environment := ("FILE".toList, name) :: c.environment.filter fun v => v.1 ≠ "FILE".toList
  let (source, sink) ← request .pipe
  let child ← request (.fork (do
    request (.close sink)
    let _ ← request (.copy source 0)
    request (.close source)
    becomeProgram perform c id
      (callOf environment [shell, "-c".toList, command]) : Program Nat).action)
  request (.close source)
  let _ ← writeTo sink part
  request (.close sink)
  let failed (words : Bytes) : Program Bool := do
    c.complain ("with FILE=".toList ++ name ++ ", ".toList ++ words ++ " from command: ".toList
      ++ command)
    return false
  match ← request (.wait (some [child]) none false) with
  | .ended _ (.code 0) => return true
  | .ended _ (.code status) => failed ("exit ".toList ++ digitsOf status)
  | .ended _ (.signal n _) => failed ("signal ".toList ++ (signalLabel n).toList)
  | _ => return true

/-- Writes parts to files, or to a command. -/
def writeParts (perform : Performer) (c : Call) (o : Options) (names : PartNames) :
    Nat → List Bytes → Program Nat
  | _, [] => return 0
  | i, part :: parts => do
    if part = [] && o.has 'e' then writeParts perform c o names i parts
    else
      match names.nth? i with
      | none => c.refuse 1 "output file suffixes exhausted".toList
      | some name =>
        match o.value? 'f' with
        | some command =>
          if ← passPart perform c command name part then writeParts perform c o names (i + 1) parts
          else return 1
        | none =>
          if o.has 'v' then
            let _ ← writeTo 1 (line ("creating file ".toList ++ inQuotes name))
          match ← changeDisk fun d => d.write name part with
          | .ok _ => writeParts perform c o names (i + 1) parts
          | .error e => c.refuse 1 (shellQuoted name ++ ':' :: ' ' :: wordsOf e)

/-- The options of cutting. -/
def partitionTable : OptionTable where
  plain := ['d', 'x', 'e', 'u', 'v']
  valued := ['a', 'b', 'C', 'l', 'n', 't', 'S', 'f']
  optional := ['D', 'X']
  long := [("suffix-length", 'a'), ("additional-suffix", 'S'), ("bytes", 'b'), ("line-bytes", 'C'),
    ("numeric-suffixes", 'D'), ("hex-suffixes", 'X'), ("elide-empty-files", 'e'), ("filter", 'f'),
    ("lines", 'l'), ("number", 'n'), ("separator", 't'), ("unbuffered", 'u'), ("verbose", 'v')]

/-- Arguments in which numbers of lines in the old way are options. -/
def withOldCounts (arguments : List Bytes) : List Bytes :=
  let isOld : Bytes → Bool
    | '-' :: digits => digits ≠ [] && digits.all Char.isDigit
    | _ => false
  let old := arguments.filter isOld
  match old.getLast? with
  | some count => ("-l".toList ++ count.drop 1) :: arguments.filter fun a => !isOld a
  | none => arguments

/-- Cuts a file into parts of a size, or into a number of parts. -/
def cutFile (perform : Performer) (c : Call) : Program Nat :=
  { c with arguments := withOldCounts c.arguments }.withOptions partitionTable 1 fun o => do
    let file := o.operands.headD ['-']
    let start := (o.operands.drop 1).headD ['x']
    let plan : Except PartFault (Partition × PartNames × Char) :=
      (readPartition o).bind fun k => (readEnding o).bind fun ending =>
        match o.operands.drop 2 with
        | extra :: _ => .error ("extra operand ".toList ++ inQuotes extra, true)
        | [] => (readNames o k start).map fun names => (k, names, ending)
    match plan with
    | .error (words, advises) => if advises then c.misuse 1 words else c.refuse 1 words
    | .ok (k, names, ending) =>
      if (o.value? 'f').isSome && k.wanted?.isSome then
        c.misuse 1 "--filter does not process a chunk extracted to stdout".toList
      else
        let opened : Except OsError Unit ←
          if file = ['-'] then pure (.ok ()) else request (.open fileDescriptor file .read false)
        match opened with
        | .error e =>
          c.refuse 1 ("cannot open ".toList ++ inQuotes file ++ " for reading: ".toList
            ++ wordsOf e)
        | .ok _ =>
          match ← readAll (if file = ['-'] then 0 else fileDescriptor) with
          | .error e => c.refuse 1 (shellQuoted file ++ ':' :: ' ' :: wordsOf e)
          | .ok text =>
            let parts := k.parts ending text
            match k.wanted? with
            | some n => c.deliver (parts.getD (n - 1) []) 0
            | none => writeParts perform c o names 0 parts

/-! ## Parts that end at some lines -/

/-- Where a part ends. -/
inductive PartEnd where
  | atLine (n : Nat)
  /-- At a line that fits, or some lines before or after it; what is before may be left out. -/
  | atMatch (r : Regex) (offset : Int) (isSkipped : Bool)

/-- Where parts end, as it was written, and how often; without a number as often as possible. -/
structure PartRule where
  ending : PartEnd
  word : Bytes
  repeats : Option Nat

/-- What has been cut so far. -/
structure Parted where
  lines : Array Bytes
  /-- How many lines have gone into parts. -/
  removed : Nat := 0
  /-- The number of the line that has been looked at last. -/
  current : Nat := 0
  /-- The part that is being filled, its last line first. -/
  part : Option (List Bytes) := none
  /-- The parts that are done, the last one first. -/
  done : List Bytes := []
  /-- The sizes of the parts that are told, the last one first. -/
  sizes : List Nat := []

/-- Why cutting is over. -/
inductive PartStop where
  | success
  | fault (words : Bytes)

/-- A step of cutting. -/
abbrev PartStep := ExceptT PartStop (StateM Parted)

/-- Takes the next line; whether there is one. -/
def takeLine (isKept : Bool) : PartStep Bool := do
  let s ← get
  match s.lines[s.removed]? with
  | none => return false
  | some l =>
    set { s with
      removed := s.removed + 1
      current := max s.current (s.removed + 1)
      part := if isKept then s.part.map (l :: ·) else s.part }
    return true

/-- Takes so many lines; whether there are so many. -/
def takeLines (isKept : Bool) : Nat → PartStep Bool
  | 0 => return true
  | n + 1 => do
    if ← takeLine isKept then takeLines isKept n else return false

/-- Begins a part. -/
def beginPart : PartStep Unit :=
  modify fun s => { s with part := some [] }

/-- Ends a part. Empty ones may be left out. -/
def endPart (elides : Bool) : PartStep Unit :=
  modify fun s =>
    match s.part with
    | none => s
    | some ls =>
      let text := ls.reverse.flatten
      if elides && text = [] then { s with part := none }
      else { s with part := none, done := text :: s.done, sizes := text.length :: s.sizes }

/-- Stops, after the part that is being filled. -/
def stopParts {α : Type} (elides : Bool) (words : Bytes) : PartStep α := do
  endPart elides
  throw (.fault words)

/-- The words for a rule that has been used again. -/
def onRepetition (n : Nat) : Bytes :=
  if n = 0 then [] else " on repetition ".toList ++ digitsOf n

/-- Puts all that is left into the part. -/
def takeRest : PartStep Unit := do
  let s ← get
  let _ ← takeLines true (s.lines.size - s.removed)

/-- Looks for the next line that fits. -/
def lookFor (r : Regex) : Nat → Nat → Array Bytes → Option Nat
  | 0, _, _ => none
  | fuel + 1, number, ls =>
    match ls[number - 1]? with
    | none => none
    | some l =>
      let text := if l.getLast? = some '\n' then l.dropLast else l
      if (r.search (.start text)).isSome then some number else lookFor r fuel (number + 1) ls

/-- Cuts off one part. -/
def PartRule.cut (rule : PartRule) (elides leavesOut : Bool) (repetition : Nat) :
    PartStep Unit := do
  match rule.ending with
  | .atLine n =>
    let failed : PartStep Unit :=
      stopParts elides
        (inQuotes (digitsOf n) ++ ": line number out of range".toList ++ onRepetition repetition)
    beginPart
    let s ← get
    if leavesOut && s.lines.size ≤ s.removed then failed
    let last := n * (repetition + 1)
    if !(← takeLines true (last - 1 - s.removed)) then failed
    endPart elides
    if leavesOut then
      let _ ← takeLine false
    let s ← get
    if !leavesOut && s.lines.size ≤ s.removed then failed
  | .atMatch r offset isSkipped =>
    if !isSkipped then beginPart
    let s ← get
    match lookFor r (s.lines.size + 1) (s.current + 1) s.lines with
    | none =>
      if rule.repeats.isNone then
        if !isSkipped then
          takeRest
          endPart elides
        throw .success
      else
        if !isSkipped then takeRest
        stopParts elides
          (inQuotes rule.word ++ ": match not found".toList ++ onRepetition repetition)
    | some number =>
      set { s with current := number }
      let stop : Int := number + offset
      if 0 ≤ offset then
        let _ ← takeLines (!isSkipped) (number - 1 - s.removed)
      let s ← get
      let failed : PartStep Unit :=
        stopParts elides (inQuotes rule.word ++ ": line number out of range".toList)
      if stop < s.removed + 1 then failed
      if !(← takeLines (!isSkipped) (stop.toNat - 1 - s.removed)) then failed
      if !isSkipped then endPart elides
      if 0 < offset then modify fun s => { s with current := stop.toNat }
      if leavesOut then
        let _ ← takeLine false

/-- Cuts off parts by a rule, as often as it says. -/
def PartRule.cutAll (rule : PartRule) (elides leavesOut : Bool) : Nat → Nat → PartStep Unit
  | 0, _ => return ()
  | fuel + 1, repetition => do
    if rule.repeats.all (repetition ≤ ·) then
      rule.cut elides leavesOut repetition
      rule.cutAll elides leavesOut fuel (repetition + 1)

/-- Cuts a file by rules; what is left is a part as well. -/
def cutByRules (elides leavesOut : Bool) (fuel : Nat) (rules : List PartRule) : PartStep Unit := do
  for rule in rules do rule.cutAll elides leavesOut fuel 0
  beginPart
  takeRest
  endPart elides

/-- Reads an expression for lines with its offset. -/
def readPartMatch (word : Bytes) (mark : Char) (rest : Bytes) : Except Bytes PartEnd :=
  let rec inside : Bytes → Bytes → Option (Bytes × Bytes)
    | out, '\\' :: c :: more => inside (c :: '\\' :: out) more
    | out, c :: more => if c = mark then some (out.reverse, more) else inside (c :: out) more
    | _, [] => none
  match inside [] rest with
  | none => .error (word ++ ": closing delimiter '".toList ++ mark :: "' missing".toList)
  | some (text, after) =>
    let digits := match after with
      | '+' :: ds => ds
      | '-' :: ds => ds
      | ds => ds
    let offset : Option Int :=
      if after = [] then some 0
      else (natural? digits).map fun n => if after.head? = some '-' then -(n : Int) else n
    match offset with
    | none => .error (inQuotes word ++ ": integer expected after delimiter".toList)
    | some offset =>
      match ({ extended := false } : RegexStyle).read text with
      | .ok (r, _) => .ok (.atMatch r offset (mark = '%'))
      | .error _ =>
        .error (inQuotes word ++ ": invalid regular expression: Invalid regular expression".toList)

/-- Reads how often a rule is used, between braces. -/
def readRepeats (word : Bytes) : Except Bytes (Option Nat) :=
  let inside := (word.drop 1)
  if inside.getLast? ≠ some '\x7d' then
    .error (inQuotes word ++ ": '\x7d' is required in repeat count".toList)
  else
    let text := inside.dropLast
    if text = ['*'] then .ok none
    else match natural? text with
      | some n => .ok (some n)
      | none =>
        .error (inQuotes word.dropLast ++ "\x7d: integer required between '\x7b' and '\x7d'".toList)

/-- Reads rules; the second part of the answer is warnings. -/
def readRules : Nat → Nat → List Bytes → Except Bytes (List PartRule × List Bytes)
  | 0, _, _ => .ok ([], [])
  | _, _, [] => .ok ([], [])
  | fuel + 1, before, word :: words =>
    let (repeats, rest) : Except Bytes (Option Nat) × List Bytes := match words with
      | ('\x7b' :: more) :: rest => (readRepeats ('\x7b' :: more), rest)
      | rest => (.ok (some 0), rest)
    let rule (e : PartEnd) (before : Nat) (warnings : List Bytes) :
        Except Bytes (List PartRule × List Bytes) :=
      repeats.bind fun n =>
        (readRules fuel before rest).map fun p => (⟨e, word, n⟩ :: p.1, warnings ++ p.2)
    match word with
    | '/' :: text => (readPartMatch word '/' text).bind fun e => rule e before []
    | '%' :: text => (readPartMatch word '%' text).bind fun e => rule e before []
    | word =>
      match natural? word with
      | none => .error (inQuotes word ++ ": invalid pattern".toList)
      | some n =>
        if n = 0 then .error (word ++ ": line number must be greater than zero".toList)
        else if n < before then
          .error ("line number ".toList ++ inQuotes word
            ++ " is smaller than preceding line number, ".toList
            ++ digitsOf before)
        else
          rule (.atLine n) n (if n = before then
            ["warning: line number ".toList ++ inQuotes word
              ++ " is the same as preceding line number".toList]
            else [])

/-- What is wrong with the format of a number in names, if something is. -/
def suffixFault? (form : Bytes) : Option Bytes :=
  let rec go : Nat → Nat → Bytes → Option Bytes
    | 0, _, _ => none
    | _, found, [] =>
      if found = 0 then some "missing % conversion specification in suffix".toList
      else if 1 < found then some "too many % conversion specifications in suffix".toList
      else none
    | fuel + 1, found, '%' :: '%' :: rest => go fuel found rest
    | fuel + 1, found, '%' :: rest =>
      let rest := rest.dropWhile fun c => ['-', '+', ' ', '#', '0', '\''].contains c
      let rest := rest.dropWhile fun c => c.isDigit || c = '.'
      match rest with
      | [] => some "missing conversion specifier in suffix".toList
      | c :: rest =>
        if "diouxX".toList.contains c then go fuel (found + 1) rest
        else some ("invalid conversion specifier in suffix: ".toList ++ [c])
    | fuel + 1, found, _ :: rest => go fuel found rest
  go (form.length + 1) 0 form

/-- Cuts a file where some lines are. -/
def cutAtLines (c : Call) : Program Nat :=
  let t : OptionTable :=
    { plain := ['k', 's', 'q', 'z', 'm'], valued := ['b', 'f', 'n']
      long := [("suffix-format", 'b'), ("prefix", 'f'), ("keep-files", 'k'),
        ("suppress-matched", 'm'), ("digits", 'n'), ("quiet", 's'), ("silent", 's'),
        ("elide-empty-files", 'z')] }
  c.withOptions t 1 fun o => do
    let digits := (o.value? 'n').getD ['2']
    let form := o.value? 'b'
    match natural? digits, o.operands, form.bind suffixFault? with
    | none, _, _ => c.refuse 1 ("invalid number: ".toList ++ inQuotes digits)
    | _, _, some words => c.refuse 1 words
    | _, [], _ => c.misuse 1 "missing operand".toList
    | _, [file], _ => c.misuse 1 ("missing operand after ".toList ++ inQuotes file)
    | some digits, file :: words, none =>
      let opened : Except OsError Unit ←
        if file = ['-'] then pure (.ok ()) else request (.open fileDescriptor file .read false)
      match opened with
      | .error e =>
        c.refuse 1 ("cannot open ".toList ++ inQuotes file ++ " for reading: ".toList ++ wordsOf e)
      | .ok _ =>
        match readRules (words.length + 1) 0 words with
        | .error e => c.refuse 1 e
        | .ok (rules, warnings) =>
          for w in warnings do c.complain w
          match ← readAll (if file = ['-'] then 0 else fileDescriptor) with
          | .error e => c.refuse 1 ("read error: ".toList ++ wordsOf e)
          | .ok text =>
            let start : Parted := { lines := (linesWithEnds '\n' text).toArray }
            let (result, s) :=
              (cutByRules (o.has 'z') (o.has 'm') (text.length + 2) rules).run start
            let named := s.done.reverse.mapIdx fun i part =>
              let number : Bytes := match form with
                | some form => (fillTemplate .system form [digitsOf i]).text
                | none => padLeft digits '0' (digitsOf i)
              ((o.value? 'f').getD ['x', 'x'] ++ number, part)
            let words : Option Bytes := match result with
              | .error (.fault words) => some words
              | _ => none
            let keeps := words.isNone || o.has 'k'
            let written ← if keeps then
                named.foldlM (fun (e : Option Bytes) (p : Bytes × Bytes) => do
                  if e.isSome then return e
                  else match ← changeDisk fun d => d.write p.1 p.2 with
                    | .ok _ => return none
                    | .error e => return some (shellQuoted p.1 ++ ':' :: ' ' :: wordsOf e)) none
              else pure none
            match words.or written with
            | some words => c.complain words
            | none => pure ()
            let sizes := if o.has 's' || o.has 'q' then []
              else s.sizes.reverse.flatMap fun n => line (digitsOf n)
            c.deliver sizes (if words.isSome || written.isSome then 1 else 0)

end LinkWatch.Host.Utility
