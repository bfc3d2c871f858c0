import LinkWatch.Host.Shell.Decision

/-!
# Conditions as arguments

In the rich language a condition may be given by the arguments of a command. With up to four of them
it is read by their number; with more of them by the order in which operators bind.
-/

namespace LinkWatch.Host.Shell

open LinkWatch.Text LinkWatch.Host.Kernel LinkWatch.Host.Utility

/-- The operators before one argument. -/
def soleMarks : List Char :=
  "abcdefghknoprstuvwxzGLNORS".toList

/-- Whether an argument is an operator before another one. -/
def isSoleMark (w : Bytes) : Bool :=
  match w with
  | ['-', c] => soleMarks.contains c
  | _ => false

/-- Reports that arguments have no meaning as a condition. -/
def refuseTest {α : Type} (words : Bytes) : Act α :=
  failAs 2 words words

/-- A whole number that is compared. -/
def comparedNumber (text : Bytes) : Act Int := do
  match (integer? text).filter fun n => saturated n = n with
  | some n => return n
  | none => refuseTest (text ++ ": integer expression expected".toList)

/-- The result of an operator between two arguments. -/
def testPair (a operator b : Bytes) : Act Bool := do
  if operator.head? = some '-' &&
      !(["-nt", "-ot", "-ef"].contains (String.ofList operator)) then
    let m ← comparedNumber a
    let n ← comparedNumber b
    match String.ofList operator with
    | "-eq" => return m = n
    | "-ne" => return m ≠ n
    | "-lt" => return m < n
    | "-le" => return m ≤ n
    | "-gt" => return n < m
    | _ => return n ≤ m
  else
    match ← ask (.files fun d => (comparePair .rich d (String.ofList operator) a b, d)) with
    | .ok r => return r
    | .error words => refuseTest words

/-- Reads an operator with its argument; the one for terminals may stand alone. -/
def readSole (ws : List Bytes) : Act (Bool × List Bytes) := do
  match ws with
  | ['-', 't'] :: [] => return (false, [])
  | ['-', 't'] :: w :: rest => return (false, if (integer? w).isSome then rest else w :: rest)
  | operator :: a :: rest => return (← asksSole (String.ofList operator) a, rest)
  | _ => refuseTest "argument expected".toList

/-- Whether an argument is an operator between two others. -/
def isPairMark (w : Bytes) : Bool :=
  isPairOperator .rich w

mutual

/-- Reads conditions of which one has to hold. -/
def readAnyOf : Nat → List Bytes → Act (Bool × List Bytes)
  | 0, _ => refuseTest "too deep".toList
  | fuel + 1, ws => do
    let (a, rest) ← readAllOf fuel ws
    match rest with
    | ['-', 'o'] :: rest =>
      let (b, rest) ← readAnyOf fuel rest
      return (a || b, rest)
    | rest => return (a, rest)

/-- Reads conditions all of which have to hold. -/
def readAllOf : Nat → List Bytes → Act (Bool × List Bytes)
  | 0, _ => refuseTest "too deep".toList
  | fuel + 1, ws => do
    let (a, rest) ← readTerm fuel ws
    match rest with
    | ['-', 'a'] :: rest =>
      let (b, rest) ← readAllOf fuel rest
      return (a && b, rest)
    | rest => return (a, rest)

/-- Reads one condition. -/
def readTerm : Nat → List Bytes → Act (Bool × List Bytes)
  | 0, _ => refuseTest "too deep".toList
  | fuel + 1, ws => do
    match ws with
    | [] => refuseTest "argument expected".toList
    | ['!'] :: rest =>
      let (a, rest) ← readTerm fuel rest
      return (!a, rest)
    | ['('] :: rest =>
      let (a, rest) ← readAnyOf fuel rest
      match rest with
      | [')'] :: rest => return (a, rest)
      | [] => refuseTest "\x60)' expected".toList
      | w :: _ => refuseTest ("\x60)' expected, found ".toList ++ w)
    | w :: rest =>
      match rest with
      | o :: b :: rest' =>
        if isPairMark o then return (← testPair w o b, rest')
        else if isSoleMark w then readSole ws
        else return (w ≠ [], rest)
      | rest => if isSoleMark w && !rest.isEmpty then readSole ws else return (w ≠ [], rest)

end

/-- The result of a condition of two arguments. -/
def testTwo (a b : Bytes) : Act Bool := do
  if a = ['!'] then return b = []
  else if isSoleMark a then return (← readSole [a, b]).1
  else refuseTest (a ++ ": unary operator expected".toList)

/-- The result of a condition of three arguments. -/
def testThree (a b c : Bytes) : Act Bool := do
  if isPairMark b then testPair a b c
  else if b = "-a".toList then return a ≠ [] && c ≠ []
  else if b = "-o".toList then return a ≠ [] || c ≠ []
  else if a = ['!'] then return !(← testTwo b c)
  else if a = ['('] && c = [')'] then return b ≠ []
  else refuseTest (b ++ ": binary operator expected".toList)

/-- The result of a condition that is read as far as it goes. -/
def testMany (ws : List Bytes) : Act Bool := do
  let (a, rest) ← readAnyOf (4 * ws.length + 8) ws
  match rest with
  | [] => return a
  | w :: _ =>
    if w.head? = some '-' then
      refuseTest ("syntax error: \x60".toList ++ w ++ "' unexpected".toList)
    else refuseTest "too many arguments".toList

/-- The result of a condition. -/
def testGiven (ws : List Bytes) : Act Bool := do
  match ws with
  | [] => return false
  | [a] => return a ≠ []
  | [a, b] => testTwo a b
  | [a, b, c] => testThree a b c
  | [a, b, c, d] =>
    if a = ['!'] then return !(← testThree b c d)
    else if a = ['('] && d = [')'] then testTwo b c
    else testMany ws
  | ws => testMany ws

/-- Tests the condition that arguments are. -/
def testRich (isBracket : Bool) : Builtin := fun arguments => do
  if isBracket && arguments.getLast? ≠ some [']'] then refuseTest "missing \x60]'".toList
  else
    let holds ← testGiven (if isBracket then arguments.dropLast else arguments)
    return if holds then 0 else 1

end LinkWatch.Host.Shell
