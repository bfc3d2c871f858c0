import LinkWatch.Decimal.Fixed
import LinkWatch.Host.Utility.Series

/-!
# Dates

A moment is a number of seconds; its date is that of the Gregorian calendar at some distance from
universal time. A date is written in a format in which letters stand for its parts.
-/

namespace LinkWatch.Host.Utility

open LinkWatch.Text LinkWatch.Host.Kernel LinkWatch.Decimal

/-- A date with a time of day. -/
structure Moment where
  seconds : Int
  nanoseconds : Nat
  year : Int
  month : Nat
  day : Nat
  hour : Nat
  minute : Nat
  second : Nat
  /-- Zero for Sunday. -/
  weekday : Nat
  /-- The day of the year, from one on. -/
  yearday : Nat
  /-- The seconds by which the clock is ahead of universal time, and the name of its zone. -/
  ahead : Int := 0
  zone : Bytes := ['U', 'T', 'C']

/-- The days before a date since the start of year zero. -/
def daysBefore (year : Int) (month day : Nat) : Int :=
  let y := if month ≤ 2 then year - 1 else year
  let era := Int.fdiv y 400
  let inEra := y - era * 400
  let m : Int := if month > 2 then month - 3 else month + 9
  let dayOfYear := Int.fdiv (153 * m + 2) 5 + day - 1
  era * 146097 + inEra * 365 + Int.fdiv inEra 4 - Int.fdiv inEra 100 + dayOfYear - 719468

/-- The date of a number of seconds, on a clock that is ahead by some more. -/
def Moment.onClock (seconds : Int) (nanoseconds : Nat) (ahead : Int) (zone : Bytes) : Moment :=
  let shown := seconds + ahead
  let days := Int.fdiv shown 86400
  let rest := (Int.fmod shown 86400).toNat
  let z := days + 719468
  let era := Int.fdiv z 146097
  let dayOfEra := z - era * 146097
  let yearOfEra := (dayOfEra - dayOfEra / 1460 + dayOfEra / 36524 - dayOfEra / 146096) / 365
  let dayOfYear := dayOfEra - (365 * yearOfEra + yearOfEra / 4 - yearOfEra / 100)
  let mp := (5 * dayOfYear + 2) / 153
  let day := (dayOfYear - (153 * mp + 2) / 5 + 1).toNat
  let month := (if mp < 10 then mp + 3 else mp - 9).toNat
  let year := yearOfEra + era * 400 + (if month ≤ 2 then 1 else 0)
  { seconds := seconds, nanoseconds := nanoseconds, year := year, month := month, day := day
    hour := rest / 3600, minute := rest / 60 % 60, second := rest % 60
    weekday := (Int.fmod (days + 4) 7).toNat
    yearday := (days - daysBefore year 1 1).toNat + 1, ahead := ahead, zone := zone }

/-- The date of a number of seconds in universal time. -/
def Moment.ofSeconds (seconds : Int) (nanoseconds : Nat) : Moment :=
  .onClock seconds nanoseconds 0 ['U', 'T', 'C']

/-- The names of the days of the week. -/
def dayNames : List String :=
  ["Sunday", "Monday", "Tuesday", "Wednesday", "Thursday", "Friday", "Saturday"]

/-- The names of the months. -/
def monthNames : List String :=
  ["January", "February", "March", "April", "May", "June", "July", "August", "September",
    "October", "November", "December"]

/-- The year and the number of the week that begin with a Monday and belong to the year in which
most of their days lie. -/
def Moment.weekOfYear (m : Moment) : Int × Nat :=
  let weekday := if m.weekday = 0 then 7 else m.weekday
  let isLeap (y : Int) : Bool := daysBefore (y + 1) 1 1 - daysBefore y 1 1 = 366
  let week : Int := Int.fdiv ((m.yearday : Int) - weekday + 10) 7
  let weeksIn (y : Int) : Int :=
    let first := Int.fmod (daysBefore y 1 1 + 4) 7
    if first = 4 || (first = 3 && isLeap y) then 53 else 52
  if week < 1 then (m.year - 1, (weeksIn (m.year - 1)).toNat)
  else if weeksIn m.year < week then (m.year + 1, 1)
  else (m.year, week.toNat)

/-! ## Formats -/

/-- How a part of a date is to be written: flags, a width, and colons before the letter. -/
structure PartStyle where
  /-- What fills the width: a digit zero, an underscore for blanks, a minus for nothing, a plus for
  zeros after a sign. -/
  fill : Option Char := none
  upper : Bool := false
  /-- Whether the case is changed to the one that is not usual. -/
  turns : Bool := false
  width : Option Nat := none
  colons : Nat := 0

/-- A text filled up to the width that is asked for. -/
def PartStyle.filled (p : PartStyle) (cs : Bytes) : Bytes :=
  match p.width with
  | none => cs
  | some w =>
    if p.fill = some '-' then cs
    else padLeft w (if p.fill = some '0' || p.fill = some '+' then '0' else ' ') cs

/-- A text in the case that is asked for. -/
def PartStyle.text (p : PartStyle) (cs : Bytes) : Bytes :=
  p.filled (if p.upper then cs.map Char.toUpper else cs)

/-- A number with so many digits, unless something else is asked for; colons may stand between
pairs of its digits. -/
def PartStyle.number (p : PartStyle) (digits : Nat) (usual : Char) (isSigned isNegative : Bool)
    (colons : Nat) (n : Nat) : Bytes :=
  let rec go : Nat → Nat → Nat → Bytes → Bytes
    | 0, _, _, cs => cs
    | fuel + 1, mask, n, cs =>
      let cs := if mask % 2 = 1 then ':' :: cs else cs
      let mask := mask / 2
      let cs := Nat.digitChar (n % 10) :: cs
      if n / 10 = 0 && mask = 0 then cs else go fuel mask (n / 10) cs
  let text := go 40 colons n []
  let fill := p.fill.getD usual
  let width := p.width.getD digits
  let sign : Bytes := if isNegative then ['-'] else if isSigned then ['+'] else []
  let shortage := width - sign.length - text.length
  if fill = '-' then sign ++ text
  else if fill = '_' then List.replicate shortage ' ' ++ sign ++ text
  else sign ++ List.replicate shortage '0' ++ text

/-- A number of a year or century. With a plus it is signed if it takes more digits than usual. -/
def PartStyle.yearNumber (p : PartStyle) (digits : Nat) (n : Int) : Bytes :=
  let isLong := p.fill = some '+' &&
    ((digitsOf n.natAbs).length > digits || p.width.any (digits < ·))
  p.number digits '0' (isLong && 0 ≤ n) (n < 0) 0 n.natAbs

/-- The distance of a clock from universal time. -/
def PartStyle.offset (p : PartStyle) (ahead : Int) : Bytes :=
  let n := ahead.natAbs
  let hours := n / 3600
  let minutes := n / 60 % 60
  let seconds := n % 60
  let write := fun (digits colons n : Nat) => p.number digits '0' true (ahead < 0) colons n
  let long := hours * 10000 + minutes * 100 + seconds
  let middle := hours * 100 + minutes
  match p.colons with
  | 0 => write 5 0 middle
  | 1 => write 6 4 middle
  | 2 => write 9 20 long
  | _ =>
    if seconds ≠ 0 then write 9 20 long
    else if minutes ≠ 0 then write 6 4 middle
    else write 3 0 hours

/-- The nanoseconds, or as many places of them as the width allows. -/
def PartStyle.places (p : PartStyle) (nanoseconds : Nat) : Bytes :=
  let width := match p.width with
    | some 0 => 9
    | some w => w
    | none => 9
  let all := padLeft 9 '0' (digitsOf nanoseconds)
  let kept := all.take width
  let kept := match (kept.drop 1).reverse.dropWhile (· = '0') with
    | rest => kept.take 1 ++ rest.reverse
  if p.fill = some '-' then kept
  else kept ++ List.replicate (width - kept.length) (if p.fill = some '_' then ' ' else '0')

/-- Formats that letters stand for. -/
def composites : List (Char × String) :=
  [('c', "%a %b %e %H:%M:%S %Y"), ('D', "%m/%d/%y"), ('x', "%m/%d/%y"), ('r', "%I:%M:%S %p"),
    ('R', "%H:%M"), ('T', "%H:%M:%S"), ('X', "%H:%M:%S")]

/-- What a letter stands for, if it stands for one part of a date. -/
def Moment.part? (m : Moment) (p : PartStyle) (letter : Char) : Option Bytes :=
  let name (names : List String) (i : Nat) : Bytes := ((names[i]?).getD "").toList
  let p' := if p.turns then { p with upper := true } else p
  let hour12 := if m.hour % 12 = 0 then 12 else m.hour % 12
  let half : Bytes := if m.hour < 12 then ['A', 'M'] else ['P', 'M']
  let two (n : Nat) : Option Bytes := some (p.number 2 '0' false false 0 n)
  let spaced (n : Nat) : Option Bytes := some (p.number 2 '_' false false 0 n)
  let one (n : Nat) : Option Bytes := some (p.number 1 '0' false false 0 n)
  match letter with
  | 'Y' => some (p.yearNumber 4 m.year)
  | 'C' => some (p.yearNumber 2 (Int.tdiv m.year 100))
  | 'y' => some (p.yearNumber 2 (Int.fmod m.year 100))
  | 'G' => some (p.yearNumber 4 m.weekOfYear.1)
  | 'g' => some (p.yearNumber 2 (Int.fmod m.weekOfYear.1 100))
  | 'm' => two m.month
  | 'd' => two m.day
  | 'e' => spaced m.day
  | 'H' => two m.hour
  | 'k' => spaced m.hour
  | 'I' => two hour12
  | 'l' => spaced hour12
  | 'M' => two m.minute
  | 'S' => two m.second
  | 'V' => two m.weekOfYear.2
  | 'U' => two ((m.yearday + 6 - m.weekday) / 7)
  | 'W' => two ((m.yearday + 6 - (m.weekday + 6) % 7) / 7)
  | 'j' => some (p.number 3 '0' false false 0 m.yearday)
  | 'u' => one (if m.weekday = 0 then 7 else m.weekday)
  | 'w' => one m.weekday
  | 'q' => one ((m.month - 1) / 3 + 1)
  | 's' => some (p.number 1 '0' false (m.seconds < 0) 0 m.seconds.natAbs)
  | 'N' => some (p.places m.nanoseconds)
  | 'z' => some (p.offset m.ahead)
  | 'Z' =>
    let text := if p.turns then m.zone.map Char.toLower else m.zone
    some (if p.turns then p.filled text else p.text text)
  | 'a' => some (p'.text ((name dayNames m.weekday).take 3))
  | 'A' => some (p'.text (name dayNames m.weekday))
  | 'b' => some (p'.text ((name monthNames (m.month - 1)).take 3))
  | 'h' => some (p'.text ((name monthNames (m.month - 1)).take 3))
  | 'B' => some (p'.text (name monthNames (m.month - 1)))
  | 'p' => some (if p.turns then p.filled (half.map Char.toLower) else p.text half)
  | 'P' => some (p.filled (half.map Char.toLower))
  | 'n' => some (p.filled ['\n'])
  | 't' => some (p.filled ['\t'])
  | '%' => some (p.filled ['%'])
  | _ => none

/-- Reads the flags of a part. -/
def PartStyle.readFlags (p : PartStyle) : Bytes → PartStyle × Bytes
  | [] => (p, [])
  | c :: cs =>
    if c ∈ ['_', '-', '0', '+'] then { p with fill := some c }.readFlags cs
    else if c = '^' then { p with upper := true }.readFlags cs
    else if c = '#' then { p with turns := true }.readFlags cs
    else (p, c :: cs)

/-- Letters after which another alphabet or another calendar may be asked for. -/
def isModified (modifier letter : Char) : Bool :=
  if modifier = 'E' then letter ∈ ['c', 'C', 'x', 'X', 'y', 'Y']
  else letter ∈ "BbhdeHIkKlmMSUuVwWyqjgG".toList

/-- A moment in a format. What is no part of a date stands for itself. -/
def Moment.format (m : Moment) : Nat → Bool → Bytes → Bytes
  | 0, _, _ => []
  | fuel + 1, upper, cs =>
    match cs with
    | [] => []
    | '%' :: rest =>
      let (p, after) := PartStyle.readFlags { upper := upper } rest
      let digits := after.takeWhile Char.isDigit
      let after := after.drop digits.length
      let p := { p with width := if digits = [] then none else some (readBased 10 digits).1 }
      let (modifier, after) := match after with
        | 'E' :: after => (some 'E', after)
        | 'O' :: after => (some 'O', after)
        | after => (none, after)
      let marks := after.takeWhile (· = ':')
      let after := after.drop marks.length
      let bad (after : Bytes) : Bytes :=
        let shown := cs.take (cs.length - after.length)
        shown ++ m.format fuel upper after
      match after with
      | [] => bad []
      | letter :: after =>
        if modifier.any fun e => !isModified e letter then bad after
        else if marks ≠ [] && (letter ≠ 'z' || 3 < marks.length) then bad after
        else
          match composites.lookup letter with
          | some inner =>
            p.filled (m.format fuel (p.upper || p.turns) inner.toList) ++ m.format fuel upper after
          | none =>
            if letter = 'F' then
              let year : PartStyle := match p.width with
                | none => { p with fill := some (p.fill.getD '+'), width := none }
                | some w => { p with width := some (w - 6) }
              year.yearNumber 4 m.year ++ m.format fuel upper "-%m-%d".toList
                ++ m.format fuel upper after
            else
              match m.part? { p with colons := marks.length } letter with
              | some text => text ++ m.format fuel upper after
              | none => bad after
    | c :: rest => c :: m.format fuel upper rest

/-- The text of a moment in a format. -/
def Moment.inFormat (m : Moment) (format : Bytes) : Bytes :=
  m.format (format.length * 20 + 20) false format

end LinkWatch.Host.Utility
