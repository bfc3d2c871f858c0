import LinkWatch.Host.Utility.Zone

/-!
# Dates in words

A date is given by words and numbers in many forms: a day of a month, a time of day, a zone, a day
of the week, or a distance from another time. The text is divided into tokens; what a number means
depends on the tokens after it. Each kind of information may be given once, distances as often as
wanted.
-/

namespace LinkWatch.Host.Utility

open LinkWatch.Text

/-- A unit of time. -/
inductive TimeUnit where
  | year
  | month
  | day
  | hour
  | minute
  | second
  deriving DecidableEq, Repr

/-- Which half of the day an hour belongs to. -/
inductive Half where
  | morning
  | afternoon
  deriving DecidableEq, Repr

/-- A token of a date. -/
inductive DateToken where
  /-- A number with so many digits, perhaps with nanoseconds, perhaps with a sign. -/
  | number (value : Int) (digits : Nat) (isSigned : Bool) (nanoseconds : Option Nat)
  | half (h : Half)
  | month (n : Nat)
  | day (n : Nat)
  /-- A unit that counts so many times. -/
  | unit (u : TimeUnit) (n : Int)
  | ordinal (n : Int)
  /-- Turns a distance into the past, or not. -/
  | ago (n : Int)
  /-- So many days from today. -/
  | dayShift (n : Int)
  /-- A zone by the seconds that it is ahead. -/
  | zone (ahead : Int)
  /-- A zone in summer. -/
  | summerZone (ahead : Int)
  /-- The own zone. -/
  | ownZone (isSummer : Bool)
  | summer
  /-- The letter that separates a date from a time, or names a zone. -/
  | tee
  | mark (c : Char)
  | unknown
  deriving DecidableEq, Repr

/-! ## Tokens -/

/-- Zones by their names, with the hours and minutes by which they are ahead. -/
def zoneNames : List (String × Int) :=
  [("WET", 0), ("ART", -180), ("BRT", -180), ("NST", -210), ("AST", -240), ("CLT", -240),
    ("EST", -300), ("CST", -360), ("MST", -420), ("PST", -480), ("AKST", -540), ("HST", -600),
    ("HAST", -600), ("SST", -660), ("WAT", 60), ("CET", 60), ("MET", 60), ("MEZ", 60),
    ("EET", 120), ("CAT", 120), ("SAST", 120), ("EAT", 180), ("MSK", 180), ("IST", 330),
    ("SGT", 480), ("KST", 540), ("JST", 540), ("GST", 600), ("NZST", 720), ("GMT", 0), ("UT", 0),
    ("UTC", 0)]

/-- Zones in summer, with the minutes by which they are ahead in winter. -/
def summerZoneNames : List (String × Int) :=
  [("WEST", 0), ("BST", 0), ("BRST", -180), ("NDT", -210), ("ADT", -240), ("CLST", -240),
    ("EDT", -300), ("CDT", -360), ("MDT", -420), ("PDT", -480), ("AKDT", -540), ("HADT", -600),
    ("CEST", 60), ("MEST", 60), ("MESZ", 60), ("EEST", 120), ("MSD", 180), ("NZDT", 720)]

/-- Zones of one letter, with the hours by which they are ahead. -/
def letterZones : List (Char × Int) :=
  [('A', 1), ('B', 2), ('C', 3), ('D', 4), ('E', 5), ('F', 6), ('G', 7), ('H', 8), ('I', 9),
    ('K', 10), ('L', 11), ('M', 12), ('N', -1), ('O', -2), ('P', -3), ('Q', -4), ('R', -5),
    ('S', -6), ('U', -8), ('V', -9), ('W', -10), ('X', -11), ('Y', -12), ('Z', 0)]

/-- The units by their names. -/
def unitNames : List (String × TimeUnit × Int) :=
  [("YEAR", .year, 1), ("MONTH", .month, 1), ("FORTNIGHT", .day, 14), ("WEEK", .day, 7),
    ("DAY", .day, 1), ("HOUR", .hour, 1), ("MINUTE", .minute, 1), ("MIN", .minute, 1),
    ("SECOND", .second, 1), ("SEC", .second, 1)]

/-- Other words. -/
def dateWords : List (String × DateToken) :=
  [("AM", .half .morning), ("A.M.", .half .morning), ("PM", .half .afternoon),
    ("P.M.", .half .afternoon), ("TOMORROW", .dayShift 1), ("YESTERDAY", .dayShift (-1)),
    ("TODAY", .dayShift 0), ("NOW", .dayShift 0), ("LAST", .ordinal (-1)), ("THIS", .ordinal 0),
    ("NEXT", .ordinal 1), ("FIRST", .ordinal 1), ("THIRD", .ordinal 3), ("FOURTH", .ordinal 4),
    ("FIFTH", .ordinal 5), ("SIXTH", .ordinal 6), ("SEVENTH", .ordinal 7), ("EIGHTH", .ordinal 8),
    ("NINTH", .ordinal 9), ("TENTH", .ordinal 10), ("ELEVENTH", .ordinal 11),
    ("TWELFTH", .ordinal 12), ("AGO", .ago (-1)), ("HENCE", .ago 1), ("DST", .summer),
    ("SEPT", .month 9), ("TUES", .day 2), ("WEDNES", .day 3), ("THUR", .day 4), ("THURS", .day 4)]

/-- The place of a word in a list of names, of which the first three letters are enough. -/
def placeOfName? (names : List String) (word : Bytes) : Option Nat :=
  let upper (name : String) : Bytes := name.toList.map Char.toUpper
  let isShort := word.length = 3 || (word.length = 4 && word[3]? = some '.')
  names.findIdx? fun name =>
    upper name = word || (isShort && (upper name).take 3 = word.take 3)

/-- The zone of a name. The own zone comes before others, but universal time before it. -/
def zoneToken? (own : Zone) (word : Bytes) : Option DateToken :=
  let name := String.ofList word
  let isOwn (n : Bytes) : Bool := n.map Char.toUpper = word
  if name ∈ ["GMT", "UT", "UTC"] then some (.zone 0)
  else if isOwn own.name then some (.ownZone false)
  else if own.summer.any fun s => isOwn s.name then some (.ownZone true)
  else
    match zoneNames.lookup name, summerZoneNames.lookup name with
    | some m, _ => some (.zone (m * 60))
    | none, some m => some (.summerZone (m * 60))
    | none, none => none

/-- The token of a word. -/
def wordToken (own : Zone) (word : Bytes) : DateToken :=
  let upper := word.map Char.toUpper
  let unit? (w : Bytes) : Option DateToken :=
    (unitNames.lookup (String.ofList w)).map fun p => .unit p.1 p.2
  let plural? : Option DateToken :=
    if upper.getLast? = some 'S' then unit? upper.dropLast else none
  let letter? : Option DateToken := match upper with
    | ['T'] => some .tee
    | [c] => (letterZones.lookup c).map fun h => .zone (h * 3600)
    | _ => none
  let plain := upper.filter (· ≠ '.')
  let found : List (Option DateToken) :=
    [(dateWords.lookup (String.ofList upper)).filter fun | .half _ => true | _ => false,
      (placeOfName? monthNames upper).map fun i => .month (i + 1),
      (placeOfName? dayNames upper).map .day,
      zoneToken? own upper, unit? upper, plural?, dateWords.lookup (String.ofList upper), letter?,
      if plain.length < upper.length then zoneToken? own plain else none]
  ((found.filterMap id).head?).getD .unknown

/-- Reads a number with its sign, of which the digits follow. -/
def readDateNumber (isNegative isSigned : Bool) (cs : Bytes) : DateToken × Bytes :=
  let digits := cs.takeWhile Char.isDigit
  let n : Int := (readBased 10 digits).1
  let value := if isNegative then -n else n
  let rest := cs.drop digits.length
  if 18446744073709551616 ≤ n.natAbs then (.unknown, rest)
  else
    match rest with
    | mark :: d :: after =>
      if (mark = '.' || mark = ',') && d.isDigit then
        let places := (d :: after).takeWhile Char.isDigit
        let kept := places.take 9
        let n := (readBased 10 (kept ++ List.replicate (9 - kept.length) '0')).1
        let isExact := (places.drop 9).all (· = '0')
        let left := (d :: after).drop places.length
        if isNegative && (n ≠ 0 || !isExact) then
          let n := if isExact then n else n + 1
          if n = 1000000000 then (.number (value - 1) digits.length isSigned (some 0), left)
          else (.number (value - 1) digits.length isSigned (some (1000000000 - n)), left)
        else (.number value digits.length isSigned (some n), left)
      else (.number value digits.length isSigned none, rest)
    | _ => (.number value digits.length isSigned none, rest)

/-- What follows a remark in parentheses, in which others may stand. -/
def skipRemark : Nat → Bytes → Bytes
  | _, [] => []
  | depth, '(' :: rest => skipRemark (depth + 1) rest
  | 0, cs => cs
  | depth + 1, ')' :: rest => if depth = 0 then rest else skipRemark depth rest
  | depth + 1, _ :: rest => skipRemark (depth + 1) rest

/-- The tokens of a date. -/
def dateTokens (own : Zone) : Nat → Bytes → List DateToken
  | 0, _ => []
  | fuel + 1, cs =>
    match skipSpaces cs with
    | [] => []
    | c :: rest =>
      if c.isDigit then
        let (t, rest) := readDateNumber false false (c :: rest)
        t :: dateTokens own fuel rest
      else if c = '-' || c = '+' then
        let after := skipSpaces rest
        if after.head?.any Char.isDigit then
          let (t, rest) := readDateNumber (c = '-') true after
          t :: dateTokens own fuel rest
        else dateTokens own fuel after
      else if c.isAlpha then
        let word := (c :: rest).takeWhile fun d => d.isAlpha || d = '.'
        wordToken own (word.take 19) :: dateTokens own fuel ((c :: rest).drop word.length)
      else if c = '(' then dateTokens own fuel (skipRemark 0 (c :: rest))
      else .mark c :: dateTokens own fuel rest

/-! ## What a date says -/

/-- A time of day. -/
structure DayTime where
  hour : Nat
  minute : Nat := 0
  second : Nat := 0
  nanoseconds : Nat := 0
  half : Option Half := none
  deriving DecidableEq, Repr

/-- A distance. -/
structure Distance where
  year : Int := 0
  month : Int := 0
  day : Int := 0
  hour : Int := 0
  minute : Int := 0
  second : Int := 0
  nanoseconds : Int := 0
  deriving DecidableEq, Repr

/-- The distance of so many units. -/
def Distance.ofUnit (u : TimeUnit) (n : Int) (nanoseconds : Int) : Distance :=
  match u with
  | .year => { year := n }
  | .month => { month := n }
  | .day => { day := n }
  | .hour => { hour := n }
  | .minute => { minute := n }
  | .second => { second := n, nanoseconds := nanoseconds }

/-- The sum of a distance and so many times another. -/
def Distance.plus (a : Distance) (n : Int) (b : Distance) : Distance where
  year := a.year + n * b.year
  month := a.month + n * b.month
  day := a.day + n * b.day
  hour := a.hour + n * b.hour
  minute := a.minute + n * b.minute
  second := a.second + n * b.second
  nanoseconds := a.nanoseconds + n * b.nanoseconds

/-- What has been read of a date, and how often each kind of information has been given. -/
structure DateFacts where
  stamp : Option (Int × Nat) := none
  year : Option (Int × Nat) := none
  month : Int := 0
  day : Int := 0
  dates : Nat := 0
  time : DayTime := ⟨0, 0, 0, 0, none⟩
  times : Nat := 0
  weekday : Nat := 0
  weekdayOrdinal : Int := 0
  weekdays : Nat := 0
  ahead : Int := 0
  zones : Nat := 0
  ownIsSummer : Bool := false
  ownZones : Nat := 0
  summers : Nat := 0
  distance : Distance := {}
  hasDistance : Bool := false
  deriving DecidableEq, Repr

/-- Adds a date. -/
def DateFacts.withDate (f : DateFacts) (year : Option (Int × Nat)) (month day : Int) : DateFacts :=
  { f with year := year.or f.year, month := month, day := day, dates := f.dates + 1 }

/-- Adds a time of day. -/
def DateFacts.withTime (f : DateFacts) (t : DayTime) : DateFacts :=
  { f with time := t, times := f.times + 1 }

/-- Adds a distance. -/
def DateFacts.withDistance (f : DateFacts) (n : Int) (d : Distance) : DateFacts :=
  { f with distance := f.distance.plus n d, hasDistance := true }

/-- Adds a zone. -/
def DateFacts.withZone (f : DateFacts) (ahead : Int) : DateFacts :=
  { f with ahead := ahead, zones := f.zones + 1 }

/-- Adds a number that stands alone: a year after a date, a date in digits, or a time. -/
def DateFacts.withNumber (f : DateFacts) (value : Int) (digits : Nat) : DateFacts :=
  let hasYear := f.year.any fun y => y.2 ≠ 0
  if f.dates ≠ 0 && !hasYear && !f.hasDistance && (f.times ≠ 0 || 2 < digits) then
    { f with year := some (value, digits) }
  else if 4 < digits then
    f.withDate (some (value / 10000, digits - 4)) (value / 100 % 100) (value % 100)
  else if digits ≤ 2 then f.withTime { hour := value.toNat }
  else f.withTime { hour := (value / 100).toNat, minute := (value % 100).toNat }

/-- The seconds of a distance from universal time, given as a signed number of hours or of hours and
minutes, perhaps with minutes after a colon. -/
def zoneDistance? (value : Int) (digits : Nat) (minutes : Option Int) : Option Int :=
  let n : Int := match minutes with
    | none =>
      let v := if digits ≤ 2 then value * 100 else value
      Int.tdiv v 100 * 60 + Int.tmod v 100
    | some m => value * 60 + (if value < 0 then -m else m)
  if -1440 ≤ n && n ≤ 1440 then some (n * 60) else none

/-- Reads the distance of a zone. -/
def readZoneDistance? : List DateToken → Option (Int × List DateToken)
  | .number v d true none :: .mark ':' :: .number m _ false none :: rest =>
    (zoneDistance? v d (some m)).map (·, rest)
  | .number _ _ true none :: .mark ':' :: _ => none
  | .number v d true none :: rest => (zoneDistance? v d none).map (·, rest)
  | _ => none

/-- Reads what may follow hours, minutes and seconds: half of the day, or the distance of a zone. -/
def readTimeEnd (f : DateFacts) (t : DayTime) (mayHalf : Bool) (rest : List DateToken) :
    Option (DateFacts × List DateToken) :=
  match rest with
  | .half h :: rest => if mayHalf then some (f.withTime { t with half := some h }, rest) else none
  | .number _ _ true none :: _ =>
    (readZoneDistance? rest).map fun p => ((f.withTime t).withZone p.1, p.2)
  | rest => some (f.withTime t, rest)

/-- Reads a time of day after its hour. -/
def readTimeAfterHour (f : DateFacts) (hour : Nat) (mayHalf : Bool) (rest : List DateToken) :
    Option (DateFacts × List DateToken) :=
  match rest with
  | .mark ':' :: .number m _ false none :: .mark ':' :: .number s _ false ns :: rest =>
    readTimeEnd f ⟨hour, m.toNat, s.toNat, ns.getD 0, none⟩ mayHalf rest
  | .mark ':' :: .number _ _ false none :: .mark ':' :: _ => none
  | .mark ':' :: .number m _ false none :: rest =>
    readTimeEnd f ⟨hour, m.toNat, 0, 0, none⟩ mayHalf rest
  | _ => none

/-- Reads a distance after its amount, with the word that may turn it into the past. -/
def readAgo (f : DateFacts) (d : Distance) (rest : List DateToken) : DateFacts × List DateToken :=
  match rest with
  | .ago n :: rest => (f.withDistance n d, rest)
  | rest => (f.withDistance 1 d, rest)

/-- Reads one item of a date. -/
def readDateItem (f : DateFacts) (tokens : List DateToken) : Option (DateFacts × List DateToken) :=
  match tokens with
  | .number v d false none :: rest =>
    match rest with
    | .half h :: rest => some (f.withTime { hour := v.toNat, half := some h }, rest)
    | .mark ':' :: _ => readTimeAfterHour f v.toNat true rest
    | .mark '/' :: .number a _ false none :: .mark '/' :: .number b bd false none :: rest =>
      if 4 ≤ d then some (f.withDate (some (v, d)) a b, rest)
      else some (f.withDate (some (b, bd)) v a, rest)
    | .mark '/' :: .number _ _ false none :: .mark '/' :: _ => none
    | .mark '/' :: .number a _ false none :: rest => some (f.withDate none v a, rest)
    | .month m :: .number y yd true none :: rest => some (f.withDate (some (-y, yd)) m v, rest)
    | .month m :: .number y yd false none :: rest => some (f.withDate (some (y, yd)) m v, rest)
    | .month m :: rest => some (f.withDate none m v, rest)
    | .day n :: rest =>
      some ({ f with weekday := n, weekdayOrdinal := v, weekdays := f.weekdays + 1 }, rest)
    | .unit u n :: rest => some (readAgo f (.ofUnit u (v * n) 0) rest)
    | .number a _ true none :: .unit u n :: rest =>
      some ((f.withNumber v d).withDistance 1 (.ofUnit u (a * n) 0), rest)
    | .number a _ true none :: .number b _ true none :: .tee :: rest =>
      match rest with
      | .number h _ false none :: .mark ':' :: _ =>
        readTimeAfterHour (f.withDate (some (v, d)) (-a) (-b)) h.toNat false (rest.drop 1)
      | .number h _ false none :: .number _ _ true none :: _ =>
        (readZoneDistance? (rest.drop 1)).map fun p =>
          (((f.withDate (some (v, d)) (-a) (-b)).withTime { hour := h.toNat }).withZone p.1, p.2)
      | _ => none
    | .number a _ true none :: .number b _ true none :: rest =>
      some (f.withDate (some (v, d)) (-a) (-b), rest)
    | .number _ _ true none :: _ =>
      (readZoneDistance? rest).map fun p => ((f.withTime { hour := v.toNat }).withZone p.1, p.2)
    | rest => some (f.withNumber v d, rest)
  | .number v _ _ (some ns) :: .unit .second n :: rest =>
    if n = 1 then some (readAgo f (.ofUnit .second v ns) rest) else none
  | .number v _ true none :: .unit u n :: rest => some (readAgo f (.ofUnit u (v * n) 0) rest)
  | .month m :: .number d _ true none :: .number y yd true none :: rest =>
    some (f.withDate (some (-y, yd)) m (-d), rest)
  | .month m :: .number d _ false none :: .mark ',' :: .number y yd false none :: rest =>
    some (f.withDate (some (y, yd)) m d, rest)
  | .month _ :: .number _ _ false none :: .mark ',' :: _ => none
  | .month m :: .number d _ false none :: rest => some (f.withDate none m d, rest)
  | .day n :: rest =>
    let rest := match rest with
      | .mark ',' :: rest => rest
      | rest => rest
    some ({ f with weekday := n, weekdayOrdinal := 0, weekdays := f.weekdays + 1 }, rest)
  | .ordinal k :: .day n :: rest =>
    some ({ f with weekday := n, weekdayOrdinal := k, weekdays := f.weekdays + 1 }, rest)
  | .ordinal k :: .unit u n :: rest => some (readAgo f (.ofUnit u (k * n) 0) rest)
  | .unit u n :: rest => some (readAgo f (.ofUnit u n 0) rest)
  | .dayShift n :: rest => some (f.withDistance 1 { day := n }, rest)
  | .zone z :: .summer :: rest => some (f.withZone (z + 3600), rest)
  | .zone z :: .number a _ true none :: .unit u n :: rest =>
    some ((f.withZone z).withDistance 1 (.ofUnit u (a * n) 0), rest)
  | .zone z :: .number a d true none :: rest =>
    (readZoneDistance? (.number a d true none :: rest)).map fun p => (f.withZone (z + p.1), p.2)
  | .zone z :: rest => some (f.withZone z, rest)
  | .summerZone z :: rest => some (f.withZone (z + 3600), rest)
  | .tee :: .number a _ true none :: .unit u n :: rest =>
    some ((f.withZone (-25200)).withDistance 1 (.ofUnit u (a * n) 0), rest)
  | .tee :: rest => some (f.withZone (-25200), rest)
  | .ownZone _ :: .summer :: rest =>
    some ({ f with ownIsSummer := true, ownZones := f.ownZones + 1, summers := f.summers + 1 },
      rest)
  | .ownZone s :: rest => some ({ f with ownIsSummer := s, ownZones := f.ownZones + 1 }, rest)
  | .summer :: rest =>
    some ({ f with ownIsSummer := true, ownZones := f.ownZones + 1, summers := f.summers + 1 },
      rest)
  | _ => none

/-- Reads all items of a date. -/
def readDateItems : Nat → DateFacts → List DateToken → Option DateFacts
  | 0, f, _ => some f
  | fuel + 1, f, tokens =>
    if tokens = [] then some f
    else (readDateItem f tokens).bind fun p => readDateItems fuel p.1 p.2

/-- Reads a date: a number of seconds after an at sign, or items. -/
def readDateFacts (tokens : List DateToken) : Option DateFacts :=
  match tokens with
  | [.mark '@', .number v _ _ ns] => some { stamp := some (v, ns.getD 0) }
  | .mark '@' :: _ => none
  | tokens => readDateItems (tokens.length + 1) {} tokens

/-! ## The moment of a date -/

/-- The hour of the day, if there is such an hour. -/
def DayTime.hour? (t : DayTime) : Option Nat :=
  match t.half with
  | none => if t.hour < 24 then some t.hour else none
  | some .morning =>
    if t.hour = 12 then some 0 else if 0 < t.hour && t.hour < 12 then some t.hour else none
  | some .afternoon =>
    if t.hour = 12 then some 12 else if 0 < t.hour && t.hour < 12 then some (t.hour + 12) else none

/-- A year that may be given by its last two digits. -/
def fullYear (value : Int) (digits : Nat) : Int :=
  if 0 ≤ value && digits = 2 then value + (if value < 69 then 2000 else 1900) else value

/-- The seconds that a clock has shown up to a date of which day and month may be out of range. -/
def clockSeconds (year month day hour minute second : Int) : Int :=
  let year' := year + Int.fdiv (month - 1) 12
  let month' := (Int.fmod (month - 1) 12).toNat + 1
  (daysBefore year' month' 1 + day - 1) * 86400 + hour * 3600 + minute * 60 + second

/-- The moment that facts mean, given the present: seconds and nanoseconds. -/
def DateFacts.moment? (f : DateFacts) (own : Zone) (present : Moment) : Option (Int × Nat) :=
  match f.stamp with
  | some s => some s
  | none =>
    if [f.times, f.dates, f.weekdays, f.summers, f.ownZones + f.zones].any (1 < ·) then none
    else
      let year := match f.year with
        | some (v, d) => fullYear v d
        | none => present.year
      let month : Int := if f.dates = 0 then present.month else f.month
      let day : Int := if f.dates = 0 then present.day else f.day
      let keepsTime := f.times = 0 && f.hasDistance && f.dates = 0 && f.weekdays = 0
      let time : DayTime :=
        if f.times ≠ 0 then f.time
        else if keepsTime then
          ⟨present.hour, present.minute, present.second, present.nanoseconds, none⟩
        else ⟨0, 0, 0, 0, none⟩
      match time.hour? with
      | none => none
      | some hour =>
        let isSummer := if f.ownZones ≠ 0 then some f.ownIsSummer else none
        let shown := clockSeconds year month day hour time.minute time.second
        let start := own.secondsOf shown isSummer
        let m := own.moment start 0
        let isRight := m.year = year && (m.month : Int) = month && (m.day : Int) = day
          && m.minute = time.minute && m.second = time.second
          && (m.hour = hour || own.summer.isSome)
        if !isRight then none
        else
          let (shown, start) :=
            if f.weekdays ≠ 0 && f.dates = 0 then
              let k := f.weekdayOrdinal
              let weeks := k - (if 0 < k && m.weekday ≠ f.weekday then 1 else 0)
              let days := weeks * 7 + Int.fmod ((f.weekday : Int) - m.weekday) 7
              let shown := shown + days * 86400
              (shown, own.secondsOf shown none)
            else (shown, start)
          let d := f.distance
          let start :=
            if d.year = 0 && d.month = 0 && d.day = 0 then start
            else
              let at_ := Moment.ofSeconds shown 0
              own.secondsOf (clockSeconds (at_.year + d.year) (at_.month + d.month)
                (at_.day + d.day)
                at_.hour at_.minute at_.second) isSummer
          let start :=
            if f.zones ≠ 0 then start + (own.clockAt start).1 - f.ahead else start
          let total : Int := (start + d.hour * 3600 + d.minute * 60 + d.second) * 1000000000
            + time.nanoseconds + d.nanoseconds
          some (Int.fdiv total 1000000000, (Int.fmod total 1000000000).toNat)

/-- The zone that a date itself names at its start, and the rest of it. -/
def ownZoneOf? (cs : Bytes) : Option (Bytes × Bytes) :=
  let rec go : Bytes → Bytes → Option (Bytes × Bytes)
    | _, [] => none
    | name, '\\' :: c :: rest => if c = '\\' || c = '"' then go (c :: name) rest else none
    | name, '"' :: rest => some (name.reverse, rest)
    | name, c :: rest => go (c :: name) rest
  (stripPrefix? "TZ=\"".toList (skipSpaces cs)).bind (go [])

/-- The moment that a text names, given the present: seconds and nanoseconds. -/
def dateOf? (own : Zone) (present : Int × Nat) (cs : Bytes) : Option (Int × Nat) :=
  let (own, cs) := match ownZoneOf? cs with
    | some (name, rest) => (Zone.ofVariable (some name), rest)
    | none => (own, cs)
  let tokens := dateTokens own (cs.length + 1) cs
  (readDateFacts tokens).bind fun f => f.moment? own (own.moment present.1 present.2)

end LinkWatch.Host.Utility
