import LinkWatch.Host.Utility.Calendar

/-!
# Time zones

A zone is given by a text: a name and a distance from universal time, perhaps with those of summer
time and the dates between which it holds. Some places are known by their names.
-/

namespace LinkWatch.Host.Utility

open LinkWatch.Text LinkWatch.Decimal

/-- A day of the year on which the time changes. -/
inductive ChangeDay where
  /-- A weekday of a month: its first, second and so on, or its last if that is the fifth. -/
  | ofMonth (month week weekday : Nat)
  /-- A day counted from one, where the leap day does not count. -/
  | plain (day : Nat)
  /-- A day counted from zero. -/
  | counted (day : Nat)
  deriving DecidableEq, Repr

/-- The day and the second of it at which the time changes. -/
structure ChangeTime where
  day : ChangeDay
  second : Int := 7200
  deriving DecidableEq, Repr

/-- Summer time, and when it begins and ends. -/
structure Summer where
  name : Bytes
  ahead : Int
  start : ChangeTime
  stop : ChangeTime
  deriving DecidableEq, Repr

/-- A time zone. -/
structure Zone where
  name : Bytes
  /-- The seconds by which the clock is ahead of universal time. -/
  ahead : Int
  summer : Option Summer := none
  deriving DecidableEq, Repr

/-- Universal time. -/
def Zone.universal : Zone := ⟨['U', 'T', 'C'], 0, none⟩

/-- The days before the change in a year, since the first day of 1970. -/
def ChangeDay.daysIn (d : ChangeDay) (year : Int) : Int :=
  match d with
  | .plain n =>
    let isLeap : Bool := daysBefore (year + 1) 1 1 - daysBefore year 1 1 = 366
    daysBefore year 1 1 + n - 1 + (if isLeap && 60 ≤ n then 1 else 0)
  | .counted n => daysBefore year 1 1 + n
  | .ofMonth month week weekday =>
    let first := daysBefore year month 1
    let shift := Int.fmod ((weekday : Int) - Int.fmod (first + 4) 7) 7
    let next := if month = 12 then daysBefore (year + 1) 1 1 else daysBefore year (month + 1) 1
    let day := first + shift + 7 * ((week : Int) - 1)
    if day < next then day else day - 7

/-- The seconds at which a change happens in a year, on a clock that is ahead by some. -/
def ChangeTime.secondsIn (c : ChangeTime) (year ahead : Int) : Int :=
  c.day.daysIn year * 86400 + c.second - ahead

/-- Whether summer time holds at a number of seconds. -/
def Zone.isSummer (z : Zone) (seconds : Int) : Bool :=
  match z.summer with
  | none => false
  | some s =>
    let year := (Moment.ofSeconds (seconds + z.ahead) 0).year
    let start := s.start.secondsIn year z.ahead
    let stop := s.stop.secondsIn year s.ahead
    if start < stop then start ≤ seconds && seconds < stop
    else !(stop ≤ seconds && seconds < start)

/-- The distance of the clock from universal time, and the name of the time that holds. -/
def Zone.clockAt (z : Zone) (seconds : Int) : Int × Bytes :=
  match z.summer with
  | some s => if z.isSummer seconds then (s.ahead, s.name) else (z.ahead, z.name)
  | none => (z.ahead, z.name)

/-- The date of a number of seconds in a zone. -/
def Zone.moment (z : Zone) (seconds : Int) (nanoseconds : Nat) : Moment :=
  let (ahead, name) := z.clockAt seconds
  .onClock seconds nanoseconds ahead name

/-- The number of seconds at which the clock of a zone shows a time, which is given as seconds too.
Where it does so twice, it may be known whether summer time holds. -/
def Zone.secondsOf (z : Zone) (shown : Int) (isSummer : Option Bool) : Int :=
  match z.summer with
  | none => shown - z.ahead
  | some s =>
    let winter := shown - z.ahead
    let inSummer := shown - s.ahead
    match isSummer with
    | some true => inSummer
    | some false => winter
    | none => if z.isSummer inSummer then inSummer else winter

/-! ## Reading -/

/-- Reads a name of at least three letters, or one between angle brackets. -/
def readZoneName? (cs : Bytes) : Option (Bytes × Bytes) :=
  match cs with
  | '<' :: rest =>
    let name := rest.takeWhile fun c => c.isAlphanum || c = '+' || c = '-'
    match rest.drop name.length with
    | '>' :: after => if 3 ≤ name.length then some (name, after) else none
    | _ => none
  | _ =>
    let name := cs.takeWhile Char.isAlpha
    if 3 ≤ name.length then some (name, cs.drop name.length) else none

/-- Reads hours, minutes and seconds, each but the first after a colon. -/
def readClock? (cs : Bytes) : Option (Nat × Bytes) :=
  let number (cs : Bytes) : Option (Nat × Bytes) :=
    let digits := cs.takeWhile Char.isDigit
    if digits = [] then none else some ((readBased 10 digits).1, cs.drop digits.length)
  match number cs with
  | none => none
  | some (h, ':' :: rest) =>
    match number rest with
    | none => some (h * 3600, ':' :: rest)
    | some (m, ':' :: rest) =>
      match number rest with
      | none => some (h * 3600 + m * 60, ':' :: rest)
      | some (s, rest) => some (h * 3600 + m * 60 + s, rest)
    | some (m, rest) => some (h * 3600 + m * 60, rest)
  | some (h, rest) => some (h * 3600, rest)

/-- Reads a time with a sign. -/
def readSignedClock? (cs : Bytes) : Option (Int × Bytes) :=
  match cs with
  | '-' :: rest => (readClock? rest).map fun p => (-(p.1 : Int), p.2)
  | '+' :: rest => (readClock? rest).map fun p => ((p.1 : Int), p.2)
  | _ => (readClock? cs).map fun p => ((p.1 : Int), p.2)

/-- Reads when a time changes. -/
def readChange? (cs : Bytes) : Option (ChangeTime × Bytes) :=
  let withTime (d : ChangeDay) (rest : Bytes) : Option (ChangeTime × Bytes) :=
    match rest with
    | '/' :: rest => (readSignedClock? rest).map fun p => (⟨d, p.1⟩, p.2)
    | _ => some (⟨d, 7200⟩, rest)
  match cs with
  | 'M' :: rest =>
    let (month, rest) := readBased 10 rest
    let (week, rest) := readBased 10 (rest.drop 1)
    let (weekday, rest) := readBased 10 (rest.drop 1)
    if 1 ≤ month && month ≤ 12 && 1 ≤ week && week ≤ 5 && weekday ≤ 6 then
      withTime (.ofMonth month week weekday) rest
    else none
  | 'J' :: rest =>
    let (day, rest) := readBased 10 rest
    if 1 ≤ day && day ≤ 365 then withTime (.plain day) rest else none
  | c :: _ =>
    if c.isDigit then
      let (day, rest) := readBased 10 cs
      if day ≤ 365 then withTime (.counted day) rest else none
    else none
  | [] => none

/-- The changes of a summer time for which none are given. -/
def usualChanges : ChangeTime × ChangeTime :=
  (⟨.ofMonth 3 2 0, 7200⟩, ⟨.ofMonth 11 1 0, 7200⟩)

/-- Reads a zone from a name, a distance and perhaps a summer time. Without a distance it is
universal time under another name. -/
def Zone.ofRule? (cs : Bytes) : Option Zone :=
  match readZoneName? cs with
  | none => none
  | some (name, rest) =>
    match readSignedClock? rest with
    | none => some ⟨name, 0, none⟩
    | some (west, rest) =>
      let plain : Zone := ⟨name, -west, none⟩
      match readZoneName? rest with
      | none => some plain
      | some (summer, rest) =>
        let (ahead, rest) := match rest with
          | ',' :: _ => (3600 - west, rest)
          | [] => (3600 - west, rest)
          | _ =>
            match readSignedClock? rest with
            | some (west, rest) => (-west, rest)
            | none => (3600 - west, rest)
        let changes := match rest with
          | ',' :: rest =>
            match readChange? rest with
            | some (start, ',' :: rest) =>
              (readChange? rest).map fun (p : ChangeTime × Bytes) => (start, p.1)
            | _ => none
          | _ => none
        let (start, stop) := changes.getD usualChanges
        some { plain with summer := some ⟨summer, ahead, start, stop⟩ }

/-- The rules of places. -/
def placeRules : List (String × String) :=
  let us := ",M3.2.0,M11.1.0"
  let central := "CET-1CEST,M3.5.0,M10.5.0/3"
  let eastern := "EET-2EEST,M3.5.0/3,M10.5.0/4"
  [("UTC", "UTC0"), ("UCT", "UTC0"), ("GMT", "GMT0"), ("GMT0", "GMT0"), ("Zulu", "UTC0"),
    ("Universal", "UTC0"), ("Greenwich", "GMT0"), ("Etc/UTC", "UTC0"), ("Etc/GMT", "GMT0"),
    ("Etc/Universal", "UTC0"), ("Etc/Zulu", "UTC0"), ("EST", "EST5"), ("MST", "MST7"),
    ("HST", "HST10"), ("EST5EDT", "EST5EDT" ++ us), ("CST6CDT", "CST6CDT" ++ us),
    ("MST7MDT", "MST7MDT" ++ us), ("PST8PDT", "PST8PDT" ++ us), ("CET", central), ("MET", central),
    ("WET", "WET0WEST,M3.5.0/1,M10.5.0"), ("EET", eastern),
    ("America/New_York", "EST5EDT" ++ us), ("US/Eastern", "EST5EDT" ++ us),
    ("America/Toronto", "EST5EDT" ++ us), ("America/Detroit", "EST5EDT" ++ us),
    ("America/Chicago", "CST6CDT" ++ us), ("US/Central", "CST6CDT" ++ us),
    ("America/Denver", "MST7MDT" ++ us), ("US/Mountain", "MST7MDT" ++ us),
    ("America/Phoenix", "MST7"), ("America/Los_Angeles", "PST8PDT" ++ us),
    ("US/Pacific", "PST8PDT" ++ us), ("America/Vancouver", "PST8PDT" ++ us),
    ("America/Anchorage", "AKST9AKDT" ++ us), ("Pacific/Honolulu", "HST10"),
    ("America/Halifax", "AST4ADT" ++ us), ("America/St_Johns", "NST3:30NDT" ++ us),
    ("America/Sao_Paulo", "<-03>3"), ("America/Argentina/Buenos_Aires", "<-03>3"),
    ("America/Bogota", "<-05>5"), ("America/Lima", "<-05>5"), ("America/Mexico_City", "CST6"),
    ("Europe/London", "GMT0BST,M3.5.0/1,M10.5.0"), ("GB", "GMT0BST,M3.5.0/1,M10.5.0"),
    ("Europe/Dublin", "GMT0IST,M3.5.0/1,M10.5.0"), ("Europe/Lisbon", "WET0WEST,M3.5.0/1,M10.5.0"),
    ("Europe/Paris", central), ("Europe/Berlin", central), ("Europe/Madrid", central),
    ("Europe/Rome", central), ("Europe/Vienna", central), ("Europe/Zurich", central),
    ("Europe/Amsterdam", central), ("Europe/Brussels", central), ("Europe/Stockholm", central),
    ("Europe/Oslo", central), ("Europe/Copenhagen", central), ("Europe/Prague", central),
    ("Europe/Warsaw", central), ("Europe/Budapest", central), ("Europe/Athens", eastern),
    ("Europe/Helsinki", eastern), ("Europe/Kiev", eastern), ("Europe/Kyiv", eastern),
    ("Europe/Bucharest", eastern), ("Europe/Sofia", eastern), ("Europe/Istanbul", "<+03>-3"),
    ("Europe/Moscow", "MSK-3"), ("Asia/Dubai", "<+04>-4"), ("Asia/Karachi", "PKT-5"),
    ("Asia/Kolkata", "IST-5:30"), ("Asia/Calcutta", "IST-5:30"), ("Asia/Kathmandu", "<+0545>-5:45"),
    ("Asia/Dhaka", "<+06>-6"), ("Asia/Bangkok", "<+07>-7"), ("Asia/Jakarta", "WIB-7"),
    ("Asia/Ho_Chi_Minh", "<+07>-7"), ("Asia/Singapore", "<+08>-8"), ("Asia/Shanghai", "CST-8"),
    ("Asia/Hong_Kong", "HKT-8"), ("Asia/Taipei", "CST-8"), ("Asia/Manila", "PST-8"),
    ("Asia/Tokyo", "JST-9"), ("Japan", "JST-9"), ("Asia/Seoul", "KST-9"),
    ("Asia/Tehran", "<+0330>-3:30"), ("Asia/Kabul", "<+0430>-4:30"),
    ("Asia/Jerusalem", "IST-2IDT,M3.4.4/26,M10.5.0"),
    ("Australia/Sydney", "AEST-10AEDT,M10.1.0,M4.1.0/3"),
    ("Australia/Melbourne", "AEST-10AEDT,M10.1.0,M4.1.0/3"), ("Australia/Brisbane", "AEST-10"),
    ("Australia/Perth", "AWST-8"), ("Australia/Adelaide", "ACST-9:30ACDT,M10.1.0,M4.1.0/3"),
    ("Pacific/Auckland", "NZST-12NZDT,M9.5.0,M4.1.0/3"),
    ("Africa/Cairo", "EET-2EEST,M4.5.5/0,M10.5.4/24"), ("Africa/Johannesburg", "SAST-2"),
    ("Africa/Lagos", "WAT-1"), ("Africa/Nairobi", "EAT-3")]

/-- The rule of a place that is named by its distance from universal time. -/
def distanceRule? (cs : Bytes) : Option Bytes :=
  (stripPrefix? "Etc/GMT".toList cs).bind fun rest =>
    let digits := rest.drop 1
    match rest.head?, natural? digits with
    | some '+', some n => some ("<-".toList ++ padLeft 2 '0' (digitsOf n) ++ '>' :: digitsOf n)
    | some '-', some n =>
      some ("<+".toList ++ padLeft 2 '0' (digitsOf n) ++ ">-".toList ++ digitsOf n)
    | _, _ => none

/-- The zone that a variable names; without one it is universal time. -/
def Zone.ofVariable (value : Option Bytes) : Zone :=
  match value with
  | none => .universal
  | some text =>
    let text := match text with
      | ':' :: rest => rest
      | cs => cs
    if text = [] then .universal
    else
      let rule := match placeRules.lookup (String.ofList text), distanceRule? text with
        | some rule, _ => rule.toList
        | none, some rule => rule
        | none, none => text
      (Zone.ofRule? rule).getD .universal

end LinkWatch.Host.Utility
