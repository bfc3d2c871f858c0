import LinkWatch.Toml.Lexeme

/-!
# Dates and times

A moment is a date, a time of day, or a date with a time, which may be followed by its distance
from universal time. The day has to exist, and a minute may have a leap second.
-/

namespace LinkWatch.Toml

/-- Reads exactly so many decimal digits. -/
def readFixed? (count : Nat) (cs : List Char) : Option (Nat × List Char) :=
  let digits := cs.take count
  if digits.length = count && digits.all Char.isDigit then
    some (numberOf 10 digits, cs.drop count)
  else none

/-- Reads two digits of a number between two limits. -/
def readPair? (low high : Nat) (cs : List Char) : Option (Nat × List Char) :=
  match readFixed? 2 cs with
  | some (n, rest) => if low ≤ n && n ≤ high then some (n, rest) else none
  | none => none

/-- Reads one given character. -/
def readChar? (c : Char) : List Char → Option (List Char)
  | x :: rest => if x = c then some rest else none
  | [] => none

/-- Whether a year has a leap day. -/
def isLeapYear (year : Nat) : Bool :=
  year % 4 == 0 && (year % 100 != 0 || year % 400 == 0)

/-- The number of days of a month. -/
def daysIn (year month : Nat) : Nat :=
  if month = 2 then if isLeapYear year then 29 else 28
  else if month = 4 || month = 6 || month = 9 || month = 11 then 30
  else 31

/-- Reads a date and gives the rest. -/
def readDate? (cs : List Char) : Option (List Char) := do
  let (year, rest) ← readFixed? 4 cs
  let rest ← readChar? '-' rest
  let (month, rest) ← readPair? 1 12 rest
  let rest ← readChar? '-' rest
  let (_, rest) ← readPair? 1 (daysIn year month) rest
  return rest

/-- Passes over the fraction of a second, if one stands here. -/
def skipSecondFraction : List Char → List Char
  | '.' :: d :: rest => if d.isDigit then rest.dropWhile Char.isDigit else '.' :: d :: rest
  | cs => cs

/-- Reads a time of day and gives the rest. -/
def readTime? (cs : List Char) : Option (List Char) := do
  let (_, rest) ← readPair? 0 23 cs
  let rest ← readChar? ':' rest
  let (_, rest) ← readPair? 0 59 rest
  let rest ← readChar? ':' rest
  let (_, rest) ← readPair? 0 60 rest
  return skipSecondFraction rest

/-- Passes over a distance from universal time, if one stands here. -/
def skipOffset : List Char → List Char
  | [] => []
  | c :: rest =>
    if c == 'Z' || c == 'z' then rest
    else if c == '+' || c == '-' then
      let read := do
        let (_, more) ← readPair? 0 23 rest
        let more ← readChar? ':' more
        let (_, more) ← readPair? 0 59 more
        some more
      read.getD (c :: rest)
    else c :: rest

/-- Reads a moment and gives the rest. -/
def readMoment? (cs : List Char) : Option (List Char) :=
  match readDate? cs with
  | some rest =>
    match rest with
    | c :: more =>
      if c == 'T' || c == 't' || c == ' ' then
        match readTime? more with
        | some last => some (skipOffset last)
        | none => some rest
      else some rest
    | [] => some []
  | none => readTime? cs

end LinkWatch.Toml
