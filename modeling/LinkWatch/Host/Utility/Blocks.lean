import LinkWatch.Host.Utility.Date
import LinkWatch.Host.Utility.Double
import LinkWatch.Host.Utility.Holdings

/-!
# Copying in blocks

The input is read in blocks of one size and written in blocks of another one, and may be changed on
the way. In the end it is told how many blocks have been copied, and how fast.
-/

namespace LinkWatch.Host.Utility

open LinkWatch.Text LinkWatch.Host.Kernel LinkWatch.Decimal

/-- How much is copied, from where to where, and what is changed on the way. -/
structure BlockPlan where
  input : Option Bytes := none
  output : Option Bytes := none
  /-- The size of all blocks. -/
  whole : Option Nat := none
  inputSize : Nat := 512
  outputSize : Nat := 512
  /-- The size of the records that lines become. -/
  recordSize : Nat := 0
  /-- How many blocks are copied, or bytes. -/
  count : Option (Nat × Bool) := none
  /-- How many blocks of the input are passed over, or bytes. -/
  skip : Nat × Bool := (0, false)
  /-- How many blocks of the output are passed over, or bytes. -/
  seek : Nat × Bool := (0, false)
  conversions : List Bytes := []
  inputFlags : List Bytes := []
  outputFlags : List Bytes := []
  status : Bytes := []

/-- What is wrong with the words of a plan, and whether help is pointed to. -/
structure BlockFault where
  words : Bytes
  advises : Bool

/-- Whether the input is changed in some way. -/
def BlockPlan.converts (p : BlockPlan) (name : String) : Bool :=
  p.conversions.contains name.toList

/-! ## Reading plans -/

/-- The largest number of bytes. -/
def mostBytes : Nat := 9223372036854775807

/-- A number with a letter for its size, or several of them multiplied, and whether it counts bytes.
-/
def blockNumber? (cs : Bytes) : Option (Nat × Bool) :=
  let parts := pieces 'x' cs
  let factor (part : Bytes) : Option (Nat × Bool) :=
    let digits := part.takeWhile Char.isDigit
    let unit := part.drop digits.length
    if digits = [] then none
    else if unit = ['B'] then some ((readBased 10 digits).1, true)
    else (sizeUnit? unit).map fun f => ((readBased 10 digits).1 * f, false)
  (parts.mapM factor).map fun ns =>
    ((ns.map Prod.fst).foldl (· * ·) 1, ns.any Prod.snd)
where
  /-- The number that a letter after a number stands for. -/
  sizeUnit? (unit : Bytes) : Option Nat :=
    match unit with
    | [] => some 1
    | ['c'] => some 1
    | ['w'] => some 2
    | ['b'] => some 512
    | u :: rest =>
      let letters : Bytes := "KMGTPEZY".toList
      let u := if u = 'k' then 'K' else u
      (letters.idxOf? u).bind fun i =>
        if rest = [] || rest = ['i', 'B'] then some (Nat.pow 1024 (i + 1))
        else if rest = ['B'] then some (Nat.pow 1000 (i + 1)) else none

/-- The words for the ways of changing the input. -/
def conversionNames : List String :=
  ["ascii", "ebcdic", "ibm", "block", "unblock", "lcase", "ucase", "sparse", "swab", "noerror",
    "nocreat", "excl", "notrunc", "sync", "fdatasync", "fsync"]

/-- The words for the ways of reading and writing. -/
def blockFlagNames : List String :=
  ["append", "binary", "cio", "direct", "directory", "dsync", "noatime", "nocache", "noctty",
    "nofollow", "nolinks", "nonblock", "sync", "text", "fullblock", "count_bytes", "skip_bytes",
    "seek_bytes"]

/-- Reads one word of a plan. -/
def BlockPlan.read (p : BlockPlan) (word : Bytes) : Except BlockFault BlockPlan :=
  let among (kind : String) (names : List String) (value : Bytes) :
      Except BlockFault (List Bytes) :=
    let given := pieces ',' value
    match given.find? fun n => !names.any fun m => m.toList = n with
    | some n => .error ⟨"invalid ".toList ++ kind.toList ++ ": ".toList ++ inQuotes n, true⟩
    | none => .ok given
  match cutAt? '=' word with
  | none => .error ⟨"unrecognized operand ".toList ++ inQuotes word, true⟩
  | some (name, value) =>
    let number (isSize : Bool) : Except BlockFault (Nat × Bool) :=
      match blockNumber? value with
      | none => .error ⟨"invalid number: ".toList ++ inQuotes value, false⟩
      | some (n, isBytes) =>
        if mostBytes < n then
          .error ⟨"invalid number: ".toList ++ inQuotes value
            ++ ": Value too large for defined data type".toList, false⟩
        else if isSize && n = 0 then .error ⟨"invalid number: ".toList ++ inQuotes value, false⟩
        else .ok (n, isBytes)
    match String.ofList name with
    | "if" => .ok { p with input := some value }
    | "of" => .ok { p with output := some value }
    | "conv" => (among "conversion" conversionNames value).map fun ns =>
      { p with conversions := p.conversions ++ ns }
    | "iflag" => (among "input flag" blockFlagNames value).map fun ns =>
      { p with inputFlags := p.inputFlags ++ ns }
    | "oflag" => (among "output flag" blockFlagNames value).map fun ns =>
      { p with outputFlags := p.outputFlags ++ ns }
    | "status" => (among "status level" ["none", "noxfer", "progress"] value).map fun _ =>
      { p with status := value }
    | "bs" => (number true).map fun n => { p with whole := some n.1 }
    | "ibs" => (number true).map fun n => { p with inputSize := n.1 }
    | "obs" => (number true).map fun n => { p with outputSize := n.1 }
    | "cbs" => (number true).map fun n => { p with recordSize := n.1 }
    | "count" => (number false).map fun n => { p with count := some n }
    | "skip" => (number false).map fun n => { p with skip := n }
    | "iseek" => (number false).map fun n => { p with skip := n }
    | "seek" => (number false).map fun n => { p with seek := n }
    | "oseek" => (number false).map fun n => { p with seek := n }
    | _ => .error ⟨"unrecognized operand ".toList ++ inQuotes word, true⟩

/-- Reads the words of a plan. -/
def BlockPlan.readAll (words : List Bytes) : Except BlockFault BlockPlan :=
  let both (p : BlockPlan) (a b : String) : Bool := p.converts a && p.converts b
  match words.foldlM BlockPlan.read {} with
  | .error e => .error e
  | .ok p =>
    if both p "ascii" "ebcdic" || both p "ascii" "ibm" || both p "ebcdic" "ibm" then
      .error ⟨"cannot combine any two of \x7bascii,ebcdic,ibm\x7d".toList, false⟩
    else if both p "block" "unblock" then .error ⟨"cannot combine block and unblock".toList, false⟩
    else if both p "lcase" "ucase" then .error ⟨"cannot combine lcase and ucase".toList, false⟩
    else if both p "excl" "nocreat" then .error ⟨"cannot combine excl and nocreat".toList, false⟩
    else .ok p

/-! ## Changing bytes -/

/-- What has been copied so far. -/
structure Copied where
  fullIn : Nat := 0
  partIn : Nat := 0
  fullOut : Nat := 0
  partOut : Nat := 0
  truncated : Nat := 0
  bytes : Nat := 0
  /-- What has not been written yet. -/
  waiting : Bytes := []
  /-- How far the present record has been filled, and the blanks at its end that have not been
  passed on. -/
  column : Nat := 0
  blanks : Nat := 0
  /-- A byte whose partner has not come yet. -/
  single : Option Char := none
  hasFailed : Bool := false

/-- Bytes in pairs the other way round. -/
def swapped : Option Char → Bytes → Bytes × Option Char
  | some a, b :: cs => let p := swapped none cs; (b :: a :: p.1, p.2)
  | none, a :: b :: cs => let p := swapped none cs; (b :: a :: p.1, p.2)
  | none, [a] => ([], some a)
  | single, [] => ([], single)

/-- Lines made records of one size. -/
def Copied.blocked (size : Nat) : Bytes → Copied → Bytes → Copied × Bytes
  | [], s, out => (s, out.reverse)
  | c :: cs, s, out =>
    if c = '\n' then
      Copied.blocked size cs { s with column := 0 } (List.replicate (size - s.column) ' ' ++ out)
    else
      let s := { s with
        column := s.column + 1, truncated := if s.column = size then s.truncated + 1
          else s.truncated }
      Copied.blocked size cs s (if s.column ≤ size then c :: out else out)

/-- Records of one size made lines. -/
def Copied.unblocked (size : Nat) : Bytes → Copied → Bytes → Copied × Bytes
  | [], s, out => (s, out.reverse)
  | c :: cs, s, out =>
    let isFull := s.column = size
    let out := if isFull then '\n' :: out else out
    let s := if isFull then { s with column := 0, blanks := 0 } else s
    let s := { s with column := s.column + 1 }
    if c = ' ' then Copied.unblocked size cs { s with blanks := s.blanks + 1 } out
    else Copied.unblocked size cs { s with blanks := 0 } (c :: (List.replicate s.blanks ' ' ++ out))

/-- What becomes of a block of the input. -/
def BlockPlan.changed (p : BlockPlan) (s : Copied) (cs : Bytes) : Copied × Bytes :=
  let cs := if p.converts "lcase" then cs.map Char.toLower
    else if p.converts "ucase" then cs.map Char.toUpper else cs
  let (cs, single) := if p.converts "swab" then swapped s.single cs else (cs, none)
  let s := { s with single := single }
  if p.recordSize = 0 then (s, cs)
  else if p.converts "block" || p.converts "ebcdic" || p.converts "ibm" then
    Copied.blocked p.recordSize cs s []
  else if p.converts "unblock" || p.converts "ascii" then Copied.unblocked p.recordSize cs s []
  else (s, cs)

/-- What comes after the last block of the input. -/
def BlockPlan.ending (p : BlockPlan) (s : Copied) : Bytes :=
  let rest := s.single.toList
  if p.recordSize = 0 || s.column = 0 then rest
  else if p.converts "block" || p.converts "ebcdic" || p.converts "ibm" then
    rest ++ List.replicate (p.recordSize - s.column) ' '
  else if p.converts "unblock" || p.converts "ascii" then rest ++ ['\n']
  else rest

/-- Whether blocks are put together anew before they are written. -/
def BlockPlan.rebuilds (p : BlockPlan) : Bool :=
  p.whole.isNone || ["lcase", "ucase", "swab", "block", "unblock", "ascii", "ebcdic",
    "ibm"].any p.converts

/-! ## Copying -/

/-- The descriptor of the output of a copy. -/
def copyDescriptor : Nat := 62

/-- Where a copy reads and writes, and how these are named. -/
structure CopyEnds where
  source : Nat
  sink : Nat
  sourceName : Bytes
  sinkName : Bytes

/-- Writes a block. -/
def Copied.write (c : Call) (e : CopyEnds) (size : Nat) (s : Copied) (block : Bytes) :
    Program Copied := do
  match ← writeTo e.sink block with
  | .ok _ =>
    let s := { s with bytes := s.bytes + block.length }
    return if block.length = size then { s with fullOut := s.fullOut + 1 }
      else { s with partOut := s.partOut + 1 }
  | .error error =>
    c.complain ("error writing ".toList ++ inQuotes e.sinkName ++ ':' :: ' ' :: wordsOf error)
    return { s with hasFailed := true }

/-- Writes all blocks that are full. -/
def Copied.writeFull (c : Call) (e : CopyEnds) (size : Nat) : Nat → Copied → Program Copied
  | 0, s => return s
  | fuel + 1, s => do
    if s.hasFailed || s.waiting.length < size then return s
    else
      let s' ← s.write c e size (s.waiting.take size)
      Copied.writeFull c e size fuel { s' with waiting := s.waiting.drop size }

/-- Reads a block; a block that has to be full is read in several steps. -/
def readBlock (source : Nat) (isFull : Bool) : Nat → Nat → Bytes → Program (Except OsError Bytes)
  | 0, _, got => return .ok got
  | fuel + 1, size, got => do
    match ← request (.read source size) with
    | .error e => return .error e
    | .ok [] => return .ok got
    | .ok piece =>
      if isFull && piece.length < size then
        readBlock source isFull fuel (size - piece.length) (got ++ piece)
      else return .ok (got ++ piece)

/-- Copies the blocks of the input. -/
def BlockPlan.copy (p : BlockPlan) (c : Call) (e : CopyEnds) : Nat → Option (Nat × Bool) → Copied →
    Program Copied
  | 0, _, s => return s
  | fuel + 1, left, s => do
    let size := p.whole.getD p.inputSize
    let outputSize := p.whole.getD p.outputSize
    let wanted := match left with
      | some (n, true) => min n size
      | some (0, false) => 0
      | _ => size
    if wanted = 0 || s.hasFailed then return s
    else
      let isFull := p.inputFlags.contains "fullblock".toList
      match ← readBlock e.source isFull streamFuel wanted [] with
      | .error error =>
        c.complain ("error reading ".toList ++ inQuotes e.sourceName ++ ':' :: ' ' :: wordsOf error)
        return { s with hasFailed := true }
      | .ok [] => return s
      | .ok block =>
        let left := left.map fun n => (n.1 - (if n.2 then block.length else 1), n.2)
        let s := if block.length = size then { s with fullIn := s.fullIn + 1 }
          else { s with partIn := s.partIn + 1 }
        let filler := if p.converts "block" || p.converts "unblock" then ' ' else '\x00'
        let block := if p.converts "sync" then block ++ List.replicate (size - block.length) filler
          else block
        if p.rebuilds then
          let (s, new) := p.changed s block
          let s ← Copied.writeFull c e outputSize streamFuel { s with waiting := s.waiting ++ new }
          p.copy c e fuel left s
        else
          let s ← s.write c e outputSize block
          p.copy c e fuel left s

/-! ## Telling what has been done -/

/-- A rate of bytes in words. -/
def rateText (bytes nanoseconds : Nat) : Bytes :=
  if nanoseconds = 0 then "Infinity B/s".toList
  else
    let units : List String := ["kB", "MB", "GB", "TB", "PB", "EB"]
    let rec go : Nat → List String → Bytes
      | _, [] => []
      | scale, u :: rest =>
        let num := bytes * 1000000000
        let den := nanoseconds * scale
        if num < den * 1000 || rest = [] then
          let tenths := (num * 10 + den / 2) / den
          if tenths < 1000 then
            digitsOf (tenths / 10) ++ '.' :: digitsOf (tenths % 10) ++ ' ' :: u.toList
          else digitsOf ((num + den / 2) / den) ++ ' ' :: u.toList
        else go (scale * 1000) rest
    go 1000 units ++ "/s".toList

/-- A number of bytes with a letter for its size; there is none for a few bytes. -/
def roundSize? (base : Nat) (units : List String) (n : Nat) : Option Bytes :=
  if n < base then none
  else
    let rec go : Nat → List String → Bytes
      | _, [] => []
      | scale, u :: rest =>
        if n < scale * base || rest = [] then
          let tenths := (n * 10 + scale / 2) / scale
          if tenths < 100 then
            digitsOf (tenths / 10) ++ '.' :: digitsOf (tenths % 10) ++ ' ' :: u.toList
          else digitsOf ((n + scale / 2) / scale) ++ ' ' :: u.toList
        else go (scale * base) rest
    some (go base units)

/-- What is told in the end. -/
def BlockPlan.report (p : BlockPlan) (s : Copied) (nanoseconds : Nat) : Bytes :=
  if p.status = "none".toList then []
  else
    let records (full part : Nat) (word : String) : Bytes :=
      line (digitsOf full ++ '+' :: digitsOf part ++ " records ".toList ++ word.toList)
    let truncated := if s.truncated = 0 then []
      else line (digitsOf s.truncated ++ (if s.truncated = 1 then " truncated record"
        else " truncated records").toList)
    let sizes : List Bytes :=
      (roundSize? 1000 ["kB", "MB", "GB", "TB", "PB", "EB"] s.bytes).toList
        ++ (roundSize? 1024 ["KiB", "MiB", "GiB", "TiB", "PiB", "EiB"] s.bytes).toList
    let shown := if sizes = [] then [] else " (".toList ++ joinWith [',', ' '] sizes ++ [')']
    let seconds := roundedText "%g".toList ⟨false, .fraction nanoseconds 1000000000⟩
    let transfer := if p.status = "noxfer".toList then []
      else line (digitsOf s.bytes ++ (if s.bytes = 1 then " byte" else " bytes").toList ++ shown
        ++ " copied, ".toList ++ seconds ++ " s, ".toList ++ rateText s.bytes nanoseconds)
    records s.fullIn s.partIn "in" ++ records s.fullOut s.partOut "out" ++ truncated ++ transfer

/-! ## The program -/

/-- Opens the output; what is passed over of it stays, and the rest goes unless it is to be kept. -/
def BlockPlan.openOutput (p : BlockPlan) (path : Bytes) (offset : Nat) :
    Program (Except OsError Unit) := do
  let isAppended := p.outputFlags.contains "append".toList
  let keeps := p.converts "notrunc" || offset ≠ 0
  let isThere ← inquire fun d => (d.find path).toOption.isSome
  if p.converts "nocreat" && !isThere then return .error .notFound
  else
    let how : Opening := if isAppended then .append else if keeps then .both else .write
    match ← request (.open copyDescriptor path how (p.converts "excl")) with
    | .error e => return .error e
    | .ok _ =>
      if !p.converts "notrunc" && (offset ≠ 0 || isAppended) then
        let _ ← changeDisk fun d =>
          match d.find path with
          | .ok f =>
            let old := (d.contents f.number).take offset
            match f.node.kind with
            | .file _ => .ok (d.fill f.number (old ++ List.replicate (offset - old.length) '\x00'))
            | _ => .ok d
          | .error e => .error e
      return .ok ()

/-- Passes over the start of the input; whether there is so much of it. -/
def skipInput (source : Nat) (offset : Nat) : Program Bool := do
  let size ← match ← request (.inspect source) with
    | some (.node number) => inquire fun d => (d.nodes.lookup number).map sizeOfNode
    | _ => pure none
  match size with
  | some n =>
    let _ ← request (.seek source offset)
    return offset ≤ n
  | none =>
    match ← readBlock source true streamFuel offset [] with
    | .ok got => return got.length = offset
    | .error _ => return false

/-- Copies the input in blocks. -/
def copyBlocks (c : Call) : Program Nat :=
  c.withOptions { plain := [] } 1 fun o => do
    match BlockPlan.readAll o.operands with
    | .error e => if e.advises then c.misuse 1 e.words else c.refuse 1 e.words
    | .ok p =>
      let inputSize := p.whole.getD p.inputSize
      let outputSize := p.whole.getD p.outputSize
      let inputBytes := p.skip.2 || p.inputFlags.contains "skip_bytes".toList
      let outputBytes := p.seek.2 || p.outputFlags.contains "seek_bytes".toList
      let skipped := if inputBytes then p.skip.1 else p.skip.1 * inputSize
      let sought := if outputBytes then p.seek.1 else p.seek.1 * outputSize
      let count := p.count.map fun n => (n.1, n.2 || p.inputFlags.contains "count_bytes".toList)
      let start ← inquire fun d => d.now
      let source : Except (Bytes × OsError) Nat ← match p.input with
        | none => pure (.ok 0)
        | some path => do
          match ← request (.open fileDescriptor path .read false) with
          | .ok _ => pure (.ok fileDescriptor)
          | .error e => pure (.error (path, e))
      let failed (path : Bytes) (e : OsError) : Program Nat :=
        c.refuse 1 ("failed to open ".toList ++ inQuotes path ++ ':' :: ' ' :: wordsOf e)
      match source with
      | .error (path, e) => failed path e
      | .ok source =>
        let sink : Except (Bytes × OsError) Nat ← match p.output with
          | none => pure (.ok 1)
          | some path => do
            match ← p.openOutput path sought with
            | .ok _ => pure (.ok copyDescriptor)
            | .error e => pure (.error (path, e))
        match sink with
        | .error (path, e) => failed path e
        | .ok sink =>
          let e : CopyEnds :=
            ⟨source, sink, p.input.getD "standard input".toList,
              p.output.getD "standard output".toList⟩
          if skipped ≠ 0 then
            if !(← skipInput source skipped) then
              c.complain (shellQuoted e.sourceName ++ ": cannot skip to specified offset".toList)
          if sought ≠ 0 then
            let _ ← request (.seek sink sought)
          let s ← p.copy c e streamFuel count {}
          let s ← if s.hasFailed then pure s else do
            let s ← Copied.writeFull c e outputSize streamFuel
              { s with waiting := s.waiting ++ p.ending s }
            if s.hasFailed || s.waiting = [] then pure s else s.write c e outputSize s.waiting
          let now ← inquire fun d => d.now
          let _ ← writeTo 2 (p.report s (now - start))
          return if s.hasFailed then 1 else 0

end LinkWatch.Host.Utility
