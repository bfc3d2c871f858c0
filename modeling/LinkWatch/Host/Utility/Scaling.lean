import LinkWatch.Host.Utility.Fields

/-!
# Numbers with units

Numbers are read and written with letters for powers of a thousand or of 1024. A number is a
fraction, and it is rounded only when it is written.
-/

namespace LinkWatch.Host.Utility

open LinkWatch.Text LinkWatch.Host.Kernel LinkWatch.Decimal

/-- What the letters after numbers stand for. -/
inductive UnitScale where
  | none
  /-- Powers of a thousand, or of 1024 if another letter follows. -/
  | auto
  | si
  | iec
  /-- Powers of 1024, with another letter after the first. -/
  | iecLong
  deriving DecidableEq

/-- The names of scales. -/
def unitScales : List (String × UnitScale) :=
  [("none", .none), ("auto", .auto), ("si", .si), ("iec", .iec), ("iec-i", .iecLong)]

/-- The letters for powers, the lowest one first. -/
def unitLetters : Bytes :=
  "KMGTPEZY".toList

/-- How a number is rounded to a whole one. -/
inductive UnitRounding where
  | up
  | down
  | fromZero
  | towardsZero
  | nearest
  deriving DecidableEq

/-- The names of ways to round. -/
def unitRoundings : List (String × UnitRounding) :=
  [("up", .up), ("down", .down), ("from-zero", .fromZero), ("towards-zero", .towardsZero),
    ("nearest", .nearest)]

/-- A number with units: its sign and its size. -/
structure Amount where
  negative : Bool
  num : Nat
  den : Nat

/-- A number times a fraction. -/
def Amount.scale (a : Amount) (num den : Nat) : Amount :=
  { a with num := a.num * num, den := a.den * den }

/-- A number rounded to a whole one, without its sign. -/
def Amount.rounded (a : Amount) (r : UnitRounding) : Nat :=
  let low := a.num / a.den
  let isWhole := a.num % a.den = 0
  let goesOut : Bool := match r with
    | .up => !a.negative
    | .down => a.negative
    | .fromZero => true
    | .towardsZero => false
    | .nearest => a.den ≤ 2 * (a.num % a.den)
  if isWhole then low else if goesOut then low + 1 else low

/-- How numbers are converted. -/
structure Conversion where
  source : UnitScale := .none
  target : UnitScale := .none
  sourceUnit : Nat := 1
  targetUnit : Nat := 1
  rounding : UnitRounding := .fromZero
  suffix : Bytes := []
  /-- The width of numbers; a negative one puts them at the left. -/
  padding : Int := 0
  places : Option Nat := none
  zeroWidth : Nat := 0
  before : Bytes := []
  after : Bytes := []
  divider : Option Char := none

/-- Why a number cannot be converted. -/
inductive ConversionFault where
  | invalidNumber
  | invalidSuffix
  | rejectedSuffix
  | trailing (rest : Bytes)
  | missingLetter
  | tooLarge (shown : Bytes)

/-- What is wrong with a number. -/
def ConversionFault.words (f : ConversionFault) (text : Bytes) : Bytes :=
  match f with
  | .invalidNumber => "invalid number: ".toList ++ inQuotes text
  | .invalidSuffix => "invalid suffix in input: ".toList ++ inQuotes text
  | .rejectedSuffix =>
    "rejecting suffix in input: ".toList ++ inQuotes text ++ " (consider using --from)".toList
  | .trailing rest =>
    "invalid suffix in input ".toList ++ inQuotes text ++ ':' :: ' ' :: inQuotes rest
  | .missingLetter =>
    "missing 'i' suffix in input: ".toList ++ inQuotes text ++ " (e.g Ki/Mi/Gi)".toList
  | .tooLarge shown =>
    "value too large to be printed: ".toList ++ inQuotes shown ++ " (consider using --to)".toList

/-- Reads a number with its unit: its value and its places. -/
def readAmount (scale : UnitScale) (text : Bytes) : Except ConversionFault (Amount × Nat) :=
  let (negative, digits) := match text with
    | '-' :: rest => (true, rest)
    | rest => (false, rest)
  let whole := digits.takeWhile Char.isDigit
  let (places, hasPoint, rest) : Bytes × Bool × Bytes := match digits.drop whole.length with
    | '.' :: rest => (rest.takeWhile Char.isDigit, true, rest.dropWhile Char.isDigit)
    | rest => ([], false, rest)
  if (whole = [] && places = []) || (hasPoint && places = []) then .error .invalidNumber
  else
    let value : Amount := ⟨negative, (readBased 10 (whole ++ places)).1, tenTo places.length⟩
    match rest.dropWhile isBlankChar with
    | [] => .ok (value, places.length)
    | c :: after =>
      match unitLetters.idxOf? c with
      | none => .error .invalidSuffix
      | some i =>
        let power (base : Nat) : Amount := value.scale (Nat.pow base (i + 1)) 1
        let finish (a : Amount) (after : Bytes) : Except ConversionFault (Amount × Nat) :=
          if after = [] then .ok (a, 0) else .error (.trailing after)
        match scale, after with
        | .none, _ => .error .rejectedSuffix
        | .auto, 'i' :: after => finish (power 1024) after
        | .auto, after => finish (power 1000) after
        | .si, after => finish (power 1000) after
        | .iec, after => finish (power 1024) after
        | .iecLong, 'i' :: after => finish (power 1024) after
        | .iecLong, _ => .error .missingLetter

/-- The greatest power of a base that is not above a number. -/
def powerBelow (base : Nat) (a : Amount) : Nat → Nat
  | 0 => 0
  | fuel + 1 =>
    if a.den * base ≤ a.num then 1 + powerBelow base { a with den := a.den * base } fuel else 0

/-- The text of a whole number of parts, of which so many make one. -/
def amountText (negative : Bool) (n places : Nat) : Bytes :=
  (if negative then ['-'] else []) ++ fixedFraction n (tenTo places) places

/-- The text of a number. -/
def Conversion.text (k : Conversion) (a : Amount) (places : Nat) : Bytes :=
  let filled (text : Bytes) (suffix : Bytes) : Bytes :=
    match text with
    | '-' :: digits => '-' :: padLeft (k.zeroWidth - 1) '0' digits ++ suffix
    | digits => padLeft k.zeroWidth '0' digits ++ suffix
  match k.target with
  | .none =>
    let n := (a.scale (tenTo places) 1).rounded k.rounding
    filled (amountText a.negative n places) []
  | target =>
    let base := if target = .si then 1000 else 1024
    let power := powerBelow base a 30
    let small : Amount := { a with den := a.den * Nat.pow base power }
    let adjust := match k.places with
      | some p => min (3 * power) p
      | none => if small.num < 10 * small.den then 1 else 0
    let n := (small.scale (tenTo adjust) 1).rounded k.rounding
    let (value, power) : Amount × Nat :=
      if base * tenTo adjust ≤ n then (⟨a.negative, n, tenTo adjust * base⟩, power + 1)
      else (⟨a.negative, n, tenTo adjust⟩, power)
    let showsPlace := 0 < n && value.num < 10 * value.den && 0 < power
    let shown := k.places.getD (if showsPlace then 1 else 0)
    let digits := roundDivEven (value.num * tenTo shown) value.den
    let letter : Bytes := if power = 0 then [] else (unitLetters[power - 1]?).toList
    filled (amountText a.negative digits shown)
      (letter ++ if target = .iecLong && 0 < power then ['i'] else [])

/-- Converts a field; `number` is its place in the line. -/
def Conversion.field (k : Conversion) (number : Nat) (text : Bytes) :
    Except ConversionFault Bytes :=
  let bare := match stripPrefix? k.suffix.reverse text.reverse with
    | some rest => if k.suffix ≠ [] && rest ≠ [] then rest.reverse else text
    | none => text
  let start := bare.dropWhile isBlankChar
  let width : Int :=
    if k.padding = 0 && k.divider.isNone && (start.length < bare.length || 1 < number) then
      bare.length
    else k.padding
  match readAmount k.source start with
  | .error f => .error f
  | .ok (value, places) =>
    let value := value.scale k.sourceUnit k.targetUnit
    let places := k.places.getD places
    let digits := (digitsOf (value.num / value.den)).length
    if k.target = .none && 18 < digits - 1 + places then
      .error (.tooLarge (fractionText .shorter false 6 value.num value.den))
    else
      let shown := k.text value places ++ k.suffix
      let set := if width < 0 then padRight width.natAbs ' ' shown
        else padLeft width.toNat ' ' shown
      .ok (k.before ++ set ++ k.after)

/-- The fields of a line with what follows each one. Without a divider a field has blanks before it.
-/
def fieldsWithDividers (divider : Option Char) : Nat → Bytes → List (Bytes × Bytes)
  | 0, _ => []
  | fuel + 1, cs =>
    let isDivider (c : Char) : Bool := match divider with
      | some d => c = d
      | none => isBlankChar c || c = '\n'
    let blanks := if divider.isNone then cs.takeWhile isDivider else []
    let field := blanks ++ (cs.drop blanks.length).takeWhile fun c => !isDivider c
    match cs.drop field.length with
    | [] => [(field, [])]
    | _ :: rest => (field, [divider.getD ' ']) :: fieldsWithDividers divider fuel rest

/-- The text of a line after its numbers have been converted, and what is wrong with them. -/
def Conversion.line (k : Conversion) (wanted : Nat → Bool) (text : Bytes) :
    Bytes × List (Bytes × ConversionFault × Bytes) :=
  let parts := fieldsWithDividers k.divider (text.length + 1) text
  let step (s : Bytes × List (Bytes × ConversionFault × Bytes)) (p : Nat × Bytes × Bytes) :
      Bytes × List (Bytes × ConversionFault × Bytes) :=
    let (number, field, divider) := p
    if wanted number then
      match k.field number field with
      | .ok shown => (s.1 ++ shown ++ divider, s.2)
      | .error f => (s.1 ++ field ++ divider, s.2 ++ [(field.dropWhile isBlankChar, f, s.1)])
    else (s.1 ++ field ++ divider, s.2)
  (parts.mapIdx fun i p => (i + 1, p)).foldl step ([], [])

/-- A number of units, perhaps with a letter. -/
def unitSize? (cs : Bytes) : Option Nat :=
  let p := readBased 10 cs
  if p.2.length = cs.length || p.1 = 0 then none
  else
    match p.2 with
    | [] => some p.1
    | [c] => (unitLetters.idxOf? c).map fun i => p.1 * Nat.pow 1000 (i + 1)
    | [c, 'i'] => (unitLetters.idxOf? c).map fun i => p.1 * Nat.pow 1024 (i + 1)
    | _ => none

/-- The conversion that a format asks for. -/
def Conversion.withFormat? (k : Conversion) (format : Bytes) : Option Conversion :=
  let rec literal : Nat → Bytes → Bytes × Bytes
    | 0, cs => ([], cs)
    | fuel + 1, cs =>
      match cs with
      | '%' :: '%' :: rest => let p := literal fuel rest; ('%' :: p.1, p.2)
      | '%' :: rest => ([], '%' :: rest)
      | c :: rest => let p := literal fuel rest; (c :: p.1, p.2)
      | [] => ([], [])
  match literal (format.length + 1) format with
  | (before, '%' :: spec) =>
    let flags := spec.takeWhile (· ∈ ['0', '\'', ' '])
    let (isLeft, rest) := match spec.drop flags.length with
      | '-' :: rest => (true, rest)
      | rest => (false, rest)
    let width := readBased 10 rest
    let (places, rest) : Option Nat × Bytes := match width.2 with
      | '.' :: rest => let p := readBased 10 rest; (some p.1, p.2)
      | rest => (none, rest)
    match rest with
    | 'f' :: after =>
      if (literal (after.length + 1) after).2 ≠ [] then none
      else
        let isZero := '0' ∈ flags && !isLeft
        some { k with
          before := before, after := after, places := places
          zeroWidth := if isZero then width.1 else 0
          padding := if width.1 = 0 || isZero then k.padding
            else if isLeft then -(width.1 : Int) else width.1 }
    | _ => none
  | _ => none

/-- The complaint about a value that an option does not take. -/
def unknownChoice (option : String) (given : Bytes) (names : List String) : Bytes :=
  "invalid argument ".toList ++ inQuotes given ++ " for '--".toList ++ option.toList
    ++ "'\nValid arguments are:".toList ++ names.flatMap fun n => "\n  - ".toList
      ++ inQuotes n.toList

/-- Converts the numbers of some lines. The first number that is wrong may end it. -/
def convertLines (c : Call) (mode : Bytes)
    (convert : Bytes → Bytes × List (Bytes × ConversionFault × Bytes))
    (ending : Char) : List Bytes → Nat → Program Nat
  | [], status => return status
  | text :: rest, status => do
    let (shown, faults) := convert text
    let fatal := if mode = "abort".toList then faults.head? else none
    match fatal with
    | some (field, fault, before) =>
      let _ ← writeTo 1 before
      c.refuse 2 (fault.words field)
    | none =>
      if mode ≠ "ignore".toList then
        for (field, fault, _) in faults do c.complain (fault.words field)
      let _ ← writeTo 1 (shown ++ [ending])
      let isBad := !faults.isEmpty && mode = "fail".toList
      convertLines c mode convert ending rest (if isBad then 2 else status)

/-- Converts numbers from and to notations with units. -/
def convertNumbers (c : Call) : Program Nat :=
  let t : OptionTable :=
    { plain := ['D', 'G', 'z'], valued := ['d', 'f', 'F', 'u', 'm', 'i', 'p', 'r', 's', 't', 'U']
      optional := ['H']
      long := [("debug", 'D'), ("delimiter", 'd'), ("field", 'f'), ("format", 'm'), ("from", 'F'),
        ("from-unit", 'u'), ("grouping", 'G'), ("header", 'H'), ("invalid", 'i'), ("padding", 'p'),
        ("round", 'r'), ("suffix", 's'), ("to", 't'), ("to-unit", 'U'), ("zero-terminated", 'z')] }
  c.withOptions t 1 fun o =>
    let chosen (flag : Char) (option : String) (names : List String) : Option Bytes :=
      (o.value? flag).bind fun v =>
        if names.any fun n => n.toList = v then none else some (unknownChoice option v names)
    let sourceNames := unitScales.map (·.1)
    let targetNames := sourceNames.filter (· ≠ "auto")
    let modes := ["abort", "fail", "warn", "ignore"]
    let wrongChoice := [chosen 'F' "from" sourceNames, chosen 't' "to" targetNames,
      chosen 'r' "round" (unitRoundings.map (·.1)), chosen 'i' "invalid" modes].findSome? id
    let scale (flag : Char) : UnitScale :=
      ((o.value? flag).bind fun v => unitScales.lookup (String.ofList v)).getD .none
    let size (flag : Char) : Option Nat := match o.value? flag with
      | none => some 1
      | some v => unitSize? v
    let padding : Option Int := match o.value? 'p' with
      | none => some 0
      | some v => (integer? v).bind fun n => if n = 0 then none else some n
    let k : Conversion :=
      { source := scale 'F', target := scale 't'
        sourceUnit := (size 'u').getD 1, targetUnit := (size 'U').getD 1
        rounding := ((o.value? 'r').bind fun v => unitRoundings.lookup
          (String.ofList v)).getD .fromZero
        suffix := (o.value? 's').getD [], padding := padding.getD 0
        divider := (o.value? 'd').bind List.head? }
    let formatted := match o.value? 'm' with
      | none => some k
      | some format => k.withFormat? format
    let fields : Except Bytes (List Span) := match o.value? 'f' with
      | none => .ok [⟨1, some 1⟩]
      | some ['-'] => .ok [⟨1, none⟩]
      | some v => spansOf v
    match wrongChoice, size 'u', size 'U', padding, formatted, fields with
    | some words, _, _, _, _, _ => c.misuse 1 words
    | _, none, _, _, _, _ =>
      c.refuse 1 ("invalid unit size: ".toList ++ inQuotes ((o.value? 'u').getD []))
    | _, _, none, _, _, _ =>
      c.refuse 1 ("invalid unit size: ".toList ++ inQuotes ((o.value? 'U').getD []))
    | _, _, _, none, _, _ =>
      c.refuse 1 ("invalid padding value ".toList ++ inQuotes ((o.value? 'p').getD []))
    | _, _, _, _, none, _ =>
      c.refuse 1 ("invalid format ".toList ++ inQuotes ((o.value? 'm').getD [])
        ++ ", directive must be %[0]['][-][N][.][N]f".toList)
    | _, _, _, _, _, .error words => c.misuse 1 words
    | none, some _, some _, some _, some k, .ok spans => do
      let mode := (o.value? 'i').getD "abort".toList
      let ending := if o.has 'z' then '\x00' else '\n'
      let convert := k.line fun n => spans.any (·.contains n)
      if o.operands ≠ [] then convertLines c mode convert ending o.operands 0
      else
        match ← readAll 0 with
        | .error e => c.refuse 1 ("error reading input: ".toList ++ wordsOf e)
        | .ok text =>
          let records := recordsOf ending text
          let count := match o.value? 'H' with
            | none => 0
            | some [] => 1
            | some v => (natural? v).getD 1
          let _ ← writeTo 1 ((records.take count).flatMap (· ++ [ending]))
          convertLines c mode convert ending (records.drop count) 0

end LinkWatch.Host.Utility
