import LinkWatch.Host.Sigil.Files
import LinkWatch.Host.Sigil.Filling
import LinkWatch.Host.Sigil.Matching
import LinkWatch.Host.Sigil.Script

/-!
# Functions on values of programs with marked names

What the functions of the language come to that only need the values that they are given.
-/

namespace LinkWatch.Host.Sigil

open LinkWatch.Text LinkWatch.Host.Kernel LinkWatch.Host.Utility

/-! ## Texts -/

/-- A text with its first character changed. -/
def changeFirst (f : Char → Char) : Bytes → Bytes
  | c :: cs => f c :: cs
  | [] => []

/-- A text in which every character but those of names has a backslash before it. -/
def withBackslashes (cs : Bytes) : Bytes :=
  cs.flatMap fun c => if isNameChar c || 128 ≤ c.toNat then [c] else ['\\', c]

/-- The first place of a text in another one from a place on. -/
def placeFrom (part cs : Bytes) (start : Nat) : Option Nat :=
  if cs.length < start then (if part = [] then some cs.length else none)
  else (cut? part (cs.drop start)).map fun p => start + p.1.length

/-- The last place of a text in another one that is not behind a place. -/
def lastPlace (part cs : Bytes) : Nat → Option Nat
  | 0 => if part.isPrefixOf cs then some 0 else none
  | n + 1 => if part.isPrefixOf (cs.drop (n + 1)) then some (n + 1) else lastPlace part cs n

/-- Where a part of a text starts and how long it is, as far as it is inside the text. -/
def rangeIn (size : Nat) (start : Int) (most : Option Int) : Option (Nat × Nat) :=
  let n : Int := size
  let first := if start < 0 then n + start else start
  if n < first || (first < 0 && most.isNone && start < -n && size = 0) then none
  else
    let last : Int := match most with
      | none => n
      | some m => if m < 0 then n + m else first + m
    let first' := max first 0
    let last := max first' (min last n)
    if last < 0 then none else some (first'.toNat, (last - first').toNat)

/-- The number that a text with digits of some base stands for. -/
def octalCount (cs : Bytes) : Nat :=
  let cs := (skipSpaces cs).filter (· ≠ '_')
  match cs with
  | '0' :: 'x' :: rest => (readBased 16 rest).1
  | '0' :: 'X' :: rest => (readBased 16 rest).1
  | 'x' :: rest => (readBased 16 rest).1
  | '0' :: 'b' :: rest => (readBased 2 rest).1
  | '0' :: 'B' :: rest => (readBased 2 rest).1
  | 'b' :: rest => (readBased 2 rest).1
  | '0' :: 'o' :: rest => (readBased 8 rest).1
  | rest => (readBased 8 rest).1

/-- The number of a text of hexadecimal digits. -/
def hexCount (cs : Bytes) : Nat :=
  let cs := cs.filter (· ≠ '_')
  match cs with
  | '0' :: 'x' :: rest => (readBased 16 rest).1
  | '0' :: 'X' :: rest => (readBased 16 rest).1
  | rest => (readBased 16 rest).1

/-! ## Bytes of numbers -/

/-- The last bytes of a number, the highest one first. -/
def bytesOfCount (size n : Nat) : Bytes :=
  ((List.range size).map fun i => Char.ofNat (n / Nat.pow 256 i % 256)).reverse

/-- The number of bytes, the highest one first. -/
def countOfBytes (cs : Bytes) : Nat :=
  cs.foldl (fun n c => n * 256 + c.toNat) 0

/-- The size of a letter for numbers in bytes, and whether the lowest byte comes first. -/
def letterSize? (c : Char) : Option (Nat × Bool) :=
  match c with
  | 'C' => some (1, false)
  | 'c' => some (1, false)
  | 'n' => some (2, false)
  | 'v' => some (2, true)
  | 'S' => some (2, true)
  | 's' => some (2, true)
  | 'N' => some (4, false)
  | 'V' => some (4, true)
  | 'L' => some (4, true)
  | 'l' => some (4, true)
  | 'I' => some (4, true)
  | 'i' => some (4, true)
  | 'Q' => some (8, true)
  | 'q' => some (8, true)
  | 'J' => some (8, true)
  | 'j' => some (8, true)
  | _ => none

/-- How often a letter counts: so many times, or as long as there is something. -/
def readRepeat (cs : Bytes) : Option Nat × Bool × Bytes :=
  match cs with
  | '*' :: rest => (none, true, rest)
  | c :: _ =>
    if c.isDigit then let p := readBased 10 cs; (some p.1, true, p.2) else (some 1, false, cs)
  | [] => (some 1, false, [])

/-- Values put into bytes as a text of letters says. -/
def packed : Nat → Bytes → List Scalar → Bytes
  | 0, _, _ => []
  | fuel + 1, cs, vs =>
    match cs with
    | [] => []
    | c :: rest =>
      let (count, _, after) := readRepeat rest
      let text := (vs.headD .none).asText
      match c, letterSize? c with
      | _, some (size, isLowFirst) =>
        let count := count.getD vs.length
        let bytes := (List.range count).flatMap fun i =>
          let n : Nat := ((vs.getD i .none).int % (UInt64.size : Int)).toNat
          let bs := bytesOfCount size n
          if isLowFirst then bs.reverse else bs
        bytes ++ packed fuel after (vs.drop count)
      | 'A', _ =>
        let size := count.getD text.length
        (text ++ List.replicate (size - text.length) ' ').take size ++ packed fuel after (vs.drop 1)
      | 'a', _ =>
        let size := count.getD text.length
        (text ++ List.replicate (size - text.length) '\x00').take size
          ++ packed fuel after (vs.drop 1)
      | 'Z', _ =>
        let text := if count.isNone then text ++ ['\x00'] else text
        let size := count.getD text.length
        (text ++ List.replicate (size - text.length) '\x00').take size
          ++ packed fuel after (vs.drop 1)
      | 'H', _ =>
        let digits := text.take (count.getD text.length)
        let digits := if digits.length % 2 = 1 then digits ++ ['0'] else digits
        let rec pairs : Bytes → Bytes
          | a :: b :: more =>
            Char.ofNat (16 * (digitValue a % 16) + digitValue b % 16) :: pairs more
          | _ => []
        pairs digits ++ packed fuel after (vs.drop 1)
      | 'x', _ => List.replicate (count.getD 0) '\x00' ++ packed fuel after vs
      | 'U', _ =>
        let count := count.getD vs.length
        ((vs.take count).flatMap fun v => ofBytes (encode [Char.ofNat v.int.toNat]))
          ++ packed fuel after (vs.drop count)
      | _, _ => packed fuel rest vs

/-- Values taken from bytes as a text of letters says. -/
def unpacked : Nat → Bytes → Bytes → List Scalar
  | 0, _, _ => []
  | fuel + 1, cs, text =>
    match cs with
    | [] => []
    | c :: rest =>
      let (count, _, after) := readRepeat rest
      match c, letterSize? c with
      | _, some (size, isLowFirst) =>
        let count := min (count.getD text.length) (text.length / size)
        let values : List Scalar := (List.range count).map fun i =>
          let bs := (text.drop (i * size)).take size
          let n := countOfBytes (if isLowFirst then bs.reverse else bs)
          if c.isLower && c ≠ 'n' && c ≠ 'v' && Nat.pow 256 size ≤ 2 * n then
            .whole ((n : Int) - (Nat.pow 256 size : Nat))
          else .ofNat n
        values ++ unpacked fuel after (text.drop (count * size))
      | 'A', _ =>
        let part := text.take (count.getD text.length)
        .text (part.reverse.dropWhile fun d => d = ' ' || d = '\x00' || d = '\n').reverse
          :: unpacked fuel after (text.drop part.length)
      | 'a', _ =>
        let part := text.take (count.getD text.length)
        .text part :: unpacked fuel after (text.drop part.length)
      | 'Z', _ =>
        let part := text.take (count.getD text.length)
        .text (part.takeWhile (· ≠ '\x00')) :: unpacked fuel after (text.drop part.length)
      | 'H', _ =>
        let digits := text.flatMap fun d => padLeftTwo (Nat.toDigits 16 d.toNat)
        let size := count.getD digits.length
        .text (digits.take size) :: unpacked fuel after (text.drop ((size + 1) / 2))
      | 'x', _ => unpacked fuel after (text.drop (count.getD 0))
      | _, _ => unpacked fuel rest text
where
  /-- Two digits. -/
  padLeftTwo (cs : Bytes) : Bytes :=
    Decimal.padLeft 2 '0' cs

/-! ## Time -/

/-- The date of a value or of now. -/
def dateOf (isUniversal : Bool) (vs : List Scalar) : Act Moment := do
  let m ← get
  let (now, _) ← ask presentTime
  let seconds := match vs with
    | v :: _ => v.int
    | [] => now
  let zone := if isUniversal then Zone.universal else m.environment.zone
  return zone.moment seconds 0

/-- The parts of a date. -/
def dateParts (d : Moment) (isSummer : Bool) : List Scalar :=
  [.ofNat d.second, .ofNat d.minute, .ofNat d.hour, .ofNat d.day, .ofNat (d.month - 1),
    .whole (d.year - 1900), .ofNat d.weekday, .ofNat (d.yearday - 1),
    .ofNat (if isSummer then 1 else 0)]

/-- The text of a date whose parts are given, in a format. -/
def dateText (vs : List Scalar) : Act Bytes := do
  let m ← get
  let part (i : Nat) : Int := (vs.getD i .none).int
  let months := part 6 * 12 + part 5 + 1900 * 12
  let days := daysBefore (Int.fdiv months 12) (Int.fmod months 12).toNat.succ 1 + part 4 - 1
  let shown := days * 86400 + part 3 * 3600 + part 2 * 60 + part 1
  let zone := m.environment.zone
  return (zone.moment (zone.secondsOf shown none) 0).inFormat (vs.headD .none).asText

/-- A time that is not meant to end, in nanoseconds. -/
def longPause : Nat := 1000000000 * 1000000000

/-- A time for which it does not matter whether it is cut short. -/
def shortTime : Nat := 1000000

/-- Lets some nanoseconds pass, or fewer if a signal is noticed: a helper is waited for that takes
longer. -/
def letPass (time : Nat) : Act Unit := do
  let m ← get
  let noticed ← ask (do
    if m.isWatchful && shortTime < time then
      let early ← request (.pause 0)
      if early ≠ [] then return early
      else
        let descriptors := m.conduits.toList.filterMap fun p => p.2.descriptor
        let helper ← request (.fork (do
          for d in descriptors do request (.close d)
          let _ ← request (.pause (time + longPause))
          return 0 : Program Nat).action)
        let _ ← request (.wait (some [helper]) (some time) true)
        let _ ← request (.send helper killSignal)
        let _ ← request (.wait (some [helper]) none false)
        request (.pause 0)
    else request (.pause time))
  modify fun m => { m with noticed := m.noticed ++ noticed }

/-! ## Numbers -/

/-- The whole number of a double, if it is one. -/
def wholeOrReal (x : Float) : Scalar :=
  let r := realOf x
  match r.magnitude with
  | .fraction _ _ => if r.isWhole && isExact r.whole then .whole r.whole else .real x
  | _ => .real x

/-- A number without its fraction. -/
def withoutFraction (v : Scalar) : Scalar :=
  match v.count with
  | .whole n => .whole n
  | .real x =>
    match (realOf x).magnitude with
    | .fraction _ _ =>
      if isExact (realOf x).whole then .whole (realOf x).whole else .real (wholePart x)
    | _ => .real x

/-- The next number of a series that looks like one of chance. -/
def nextChance : Act Float := do
  let m ← get
  let next := (m.random * 25214903917 + 11) % 281474976710656
  set { m with random := next }
  return floatOfInt (next : Int) / 281474976710656.0

/-- A number with its sign taken away. -/
def sizeOf (v : Scalar) : Scalar :=
  match v.count with
  | .whole n => .whole n.natAbs
  | .real x => .real x.abs

/-- The greatest or the least of some values. -/
def bestOf (isBetter : Scalar → Scalar → Bool) : List Scalar → Scalar
  | [] => .none
  | v :: vs => vs.foldl (fun best w => if isBetter w best then w else best) v

/-- The values of a list that have not come before. -/
def differentOnes (vs : List Scalar) : List Scalar :=
  (vs.foldl (fun (p : Std.HashMap Bytes Unit × List Scalar) v =>
    if p.1.contains v.asText then p else (p.1.insert v.asText (), v :: p.2)) ({}, [])).2.reverse

/-- Some values added or multiplied. -/
def countedUp (o : String) (start : Count) (vs : List Scalar) : Scalar :=
  (vs.foldl (fun (n : Count) v => match n.result o v.count with
    | .ok m => m
    | .error _ => n) start).scalar

/-! ## Messages -/

/-- The value that a program stops with. -/
def lastWords (vs : List Scalar) : Act Scalar := do
  match vs with
  | [.link g a] => return .link g a
  | vs =>
    let m ← get
    let text := (vs.map Scalar.asText).flatten
    let text := if text = [] then "Died".toList else text
    return .text (if text.getLast? = some '\n' then text else text ++ m.place)

/-- Writes a warning. -/
def warn (vs : List Scalar) : Act Unit := do
  let m ← get
  let text := (vs.map Scalar.asText).flatten
  let text := if text = [] then "Warning: something's wrong".toList else text
  let text := if text.getLast? = some '\n' then text else text ++ m.place
  let _ ← putText 2 text

/-! ## All of them -/

/-- What a function comes to for numbers, if it is one for numbers. -/
def numberResult? (name : String) (vs : List Scalar) : Act (Option Scalar) := do
  let v := vs.headD .none
  let w := (vs.drop 1).headD .none
  let x := v.count.float
  let real (y : Float) : Act (Option Scalar) := return some (.real y)
  match name with
  | "int" => return some (withoutFraction v)
  | "abs" => return some (sizeOf v)
  | "sqrt" =>
    if x < 0 then fault (CountFault.root.words v.asText) else return some (wholeOrReal x.sqrt)
  | "sin" => real x.sin
  | "cos" => real x.cos
  | "exp" => real x.exp
  | "log" => if x ≤ 0 then fault (CountFault.logarithm.words v.asText) else real x.log
  | "atan2" => real (Float.atan2 x w.count.float)
  | "hex" => return some (.ofNat (hexCount v.asText))
  | "oct" => return some (.ofNat (octalCount v.asText))
  | "floor" => return some (wholeOrReal x.floor)
  | "ceil" => return some (wholeOrReal x.ceil)
  | "fmod" => return some (wholeOrReal (remainderOf x w.count.float))
  | "pow" => return some (wholeOrReal (Float.pow x w.count.float))
  | "rand" =>
    let most := if vs.isEmpty || x == 0 then 1 else x
    return some (.real ((← nextChance) * most))
  | "srand" =>
    modify fun m => { m with random := v.int.toNat }
    return some v
  | "sum" => return some (if vs.isEmpty then .none else countedUp "+" (.whole 0) vs)
  | "sum0" => return some (countedUp "+" (.whole 0) vs)
  | "product" => return some (countedUp "*" (.whole 1) vs)
  | "max" => return some (bestOf (fun a b => a.count.compare b.count == some .gt) vs)
  | "min" => return some (bestOf (fun a b => a.count.compare b.count == some .lt) vs)
  | "maxstr" => return some (bestOf (fun a b => compareTexts a.asText b.asText == .gt) vs)
  | "minstr" => return some (bestOf (fun a b => compareTexts a.asText b.asText == .lt) vs)
  | "looks_like_number" =>
    return some (.ofBool (match v with
      | .whole _ => true
      | .real _ => true
      | .text cs => isNumeral cs
      | _ => false))
  | _ => return none

/-- What a function comes to for texts, if it is one for texts. -/
def textResult? (name : String) (vs : List Scalar) : Option Scalar :=
  let v := vs.headD .none
  let w := (vs.drop 1).headD .none
  let u := (vs.drop 2).headD .none
  let text := v.asText
  match name with
  | "lc" => some (.text (text.map Char.toLower))
  | "fc" => some (.text (text.map Char.toLower))
  | "uc" => some (.text (text.map Char.toUpper))
  | "lcfirst" => some (.text (changeFirst Char.toLower text))
  | "ucfirst" => some (.text (changeFirst Char.toUpper text))
  | "length" => some (if v.isDefined then .ofNat text.length else .none)
  | "chr" =>
    let n := v.int.toNat
    some (.text (if n < 256 then [Char.ofNat n] else ofBytes (encode [Char.ofNat n])))
  | "ord" => some (.ofNat (text.headD '\x00').toNat)
  | "quotemeta" => some (.text (withBackslashes text))
  | "index" => some (match placeFrom w.asText text u.int.toNat with
    | some n => .ofNat n
    | none => .whole (-1))
  | "rindex" =>
    let most := text.length - w.asText.length
    let start := if 3 ≤ vs.length then min most u.int.toNat else most
    some (if text.length < w.asText.length || (3 ≤ vs.length && u.int < 0) then .whole (-1)
      else match lastPlace w.asText text start with
        | some n => .ofNat n
        | none => .whole (-1))
  | "substr" =>
    some (match rangeIn text.length w.int (if 3 ≤ vs.length && u.isDefined then some u.int
      else none) with
      | some (start, size) => .text ((text.drop start).take size)
      | none => .none)
  | "join" => some (.text (joinWith text ((vs.drop 1).map Scalar.asText)))
  | "sprintf" => some (.text (filledText (text.length + 1) text (vs.drop 1)))
  | "pack" => some (.text (packed (text.length + 1) text (vs.drop 1)))
  | _ => none

/-- What a function comes to for files and processes, if it is one for these. -/
def systemResult? (k : Plan) (name : String) (vs : List Scalar) : Act (Option Scalar) := do
  let v := vs.headD .none
  let w := (vs.drop 1).headD .none
  let truth (b : Bool) : Option Scalar := some (.ofBool b)
  match name with
  | "time" =>
    let (seconds, parts) ← ask presentTime
    return some (if (← get).isFine then .real
      (floatOfInt seconds + floatOfInt (parts : Int) / 1000000000)
      else .whole seconds)
  | "sleep" =>
    let time := if (← get).isFine then (withoutFraction (.real (v.count.float * 1000000000))).int
      else v.int * 1000000000
    letPass (if vs.isEmpty then longPause else time.toNat)
    return some v
  | "usleep" =>
    letPass (v.int.toNat * 1000)
    return some v
  | "alarm" =>
    setAlarm v.int.toNat
    return some (.whole 0)
  | "getppid" => return some (.ofNat (← ask (request .identity)).2)
  | "strftime" => return some (.text (← dateText vs))
  | "mkdir" =>
    let mode := if 2 ≤ vs.length then w.int.toNat else 511
    return truth (← altered fun d => d.makeDirectory v.asText (d.masked mode))
  | "rmdir" => return truth (← altered fun d => d.removeDirectory v.asText)
  | "unlink" => return some (← alterAll (fun path d => d.unlink path) vs)
  | "rename" => return truth (← altered fun d => d.rename v.asText w.asText)
  | "link" => return truth (← altered fun d => d.join v.asText w.asText false)
  | "symlink" => return truth (← altered fun d => d.make w.asText (.link v.asText) 511)
  | "chmod" => return some (← alterAll (withMode v.int.toNat) (vs.drop 1))
  | "utime" =>
    let (now, _) ← ask presentTime
    let seconds := if w.isDefined then w.int else now
    return some (← alterAll (withTime (seconds.toNat * 1000000000)) (vs.drop 2))
  | "readlink" =>
    let target : Option Bytes ← ask (inquire fun d => (d.look true v.asText).toOption.bind fun f =>
      match f.node.kind with
      | .link target => some target
      | _ => none)
    return some ((target.map Scalar.text).getD .none)
  | "umask" =>
    let old ← ask (inquire fun d => d.mask)
    if !vs.isEmpty then
      let _ ← altered fun d => .ok { d with mask := v.int.toNat % 512 }
    return some (.ofNat old)
  | "chdir" =>
    return truth (← altered fun d => match d.find v.asText with
      | .error e => .error e
      | .ok f =>
        if f.node.kind = .directory then .ok { d with working := f.location }
        else .error .notDirectory)
  | "kill" =>
    let n ← sendTo vs
    letPass 0
    return some (.ofNat n)
  | "system" => return some (.whole (← runProgram k (vs.map Scalar.asText)))
  | "exec" => return some (← giveWay k (vs.map Scalar.asText))
  | "wait" =>
    match ← ask (request (.wait none none true)) with
    | .ended child (.code status) =>
      setSetting "?" (.ofNat (256 * status))
      return some (.ofNat child)
    | .ended child (.signal n _) =>
      setSetting "?" (.ofNat n)
      return some (.ofNat child)
    | _ => return some (.whole (-1))
  | "waitpid" =>
    let among := if v.int < 0 then none else some [v.int.toNat]
    match ← ask (request (.wait among (if w.int % 2 = 1 then some 0 else none) true)) with
    | .ended child (.code status) =>
      setSetting "?" (.ofNat (256 * status))
      return some (.ofNat child)
    | .ended child (.signal n _) =>
      setSetting "?" (.ofNat n)
      return some (.ofNat child)
    | .late => return some (.whole 0)
    | _ => return some (.whole (-1))
  | "fork" =>
    flushAll
    let child ← ask (request .split)
    if child = 0 then setSetting "$" (.ofNat (← ask (request .identity)).1)
    return some (.ofNat child)
  | "close" =>
    match ← conduitOf? v with
    | some n => return truth (← closeConduit n)
    | none => return truth false
  | "closedir" => return truth true
  | "fileno" =>
    match ← conduitOf? v with
    | some n =>
      let m ← get
      return some (match m.conduits[n]?.bind Conduit.descriptor with
        | some d => .ofNat d
        | none => .none)
    | none => return some .none
  | "binmode" => return truth true
  | "seek" =>
    match ← conduitOf? v with
    | some n =>
      flushConduit n
      let m ← get
      match m.conduits[n]? with
      | some p =>
        match p.descriptor with
        | some d =>
          match ← ask (request (.seek d w.int.toNat)) with
          | .ok _ =>
            setConduit n { p with buffer := [], isAtEnd := false, pieces := [], size := 0 }
            return truth true
          | .error e =>
            noteError e
            return truth false
        | none => return truth false
      | none => return truth false
    | none => return truth false
  | "select" =>
    if vs.length = 4 then
      let time := (vs.drop 3).headD .none
      letPass (withoutFraction (.real (time.count.float * 1000000000))).int.toNat
      return some (.whole 0)
    else
      let m ← get
      if !vs.isEmpty then
        match ← conduitOf? v with
        | some n => modify fun m => { m with selected := n }
        | none => pure ()
      return some (.link .conduit m.selected)
  | "syswrite" =>
    match ← conduitOf? v with
    | some n =>
      let done ← putText n w.asText
      flushConduit n
      return some (if done then .ofNat w.asText.length else .none)
    | none => return some .none
  | "warn" =>
    warn vs
    return truth true
  | "die" => throw (.die (← lastWords vs))
  | "exit" => throw (.exit (v.int % 256).toNat)
  | "ref" =>
    let m ← get
    return some (.text (match v with
      | .link g a => if g = .conduit then g.word.toList else (m.classes[a]?).getD g.word.toList
      | .pattern _ => "Regexp".toList
      | _ => []))
  | "bless" =>
    match v with
    | .link _ a => modify fun m => { m with classes := m.classes.insert a w.asText }
    | _ => fault "Can't bless non-reference value".toList
    return some v
  | "lock" => return some v
  | "require" =>
    let name := v.asText
    if isThere name || name.head?.any Char.isDigit then return truth true
    else fault (missingWords name)
  | _ => return none

/-- What a function comes to for the values that it is given, if it needs no more. -/
def givenResult? (k : Plan) (name : String) (vs : List Scalar) : Act (Option Scalar) := do
  match textResult? name vs with
  | some v => return some v
  | none =>
    match ← numberResult? name vs with
    | some v => return some v
    | none => systemResult? k name vs

end LinkWatch.Host.Sigil
