import LinkWatch.Host.Record.Lexeme

/-!
# Reading programs on records

Operators bind more and more tightly: choices, disjunctions, conjunctions, membership, matching,
comparison, juxtaposition, sums, products, signs, reading from commands, powers, steps, fields. A
value may be given to something wherever a juxtaposition may stand.
-/

namespace LinkWatch.Host.Record

open LinkWatch.Text LinkWatch.Host.Utility

/-- What may not stand in an expression as long as there are no parentheses around it. -/
structure Restriction where
  noMembership : Bool := false
  noGreater : Bool := false

/-- Whether an operator stands at the start of lexemes. -/
def isNext (o : String) (ls : List Placed) : Bool :=
  match ls with
  | ⟨.operator p, _, _⟩ :: _ => p = o
  | _ => false

/-- Whether a word with a meaning of its own stands at the start of lexemes. -/
def isKeywordNext (k : String) (ls : List Placed) : Bool :=
  match ls with
  | ⟨.keyword l, _, _⟩ :: _ => l = k
  | _ => false

/-- Lexemes after line ends. -/
def skipLineEnds : List Placed → List Placed
  | ⟨.lineEnd, _, _⟩ :: ls => skipLineEnds ls
  | ls => ls

/-- Lexemes after line ends and semicolons. -/
def skipEnds : List Placed → List Placed
  | ⟨.lineEnd, _, _⟩ :: ls => skipEnds ls
  | ⟨.operator ";", _, _⟩ :: ls => skipEnds ls
  | ls => ls

/-- What is wrong if a lexeme does not fit. -/
def misplaced (ls : List Placed) : Mistake :=
  match ls with
  | ⟨.ending, line, _⟩ :: _ => ⟨line + 1, "syntax error at or near end of file".toList⟩
  | ⟨.lineEnd, line, _⟩ :: _ => ⟨line, "syntax error at or near end of line".toList⟩
  | ⟨.operator ")", line, _⟩ :: _ => ⟨line, "extra ')'".toList⟩
  | ⟨.operator "\x7d", line, _⟩ :: _ => ⟨line, "extra '\x7d'".toList⟩
  | p :: _ => ⟨p.line, "syntax error at or near ".toList ++ p.text⟩
  | [] => ⟨1, "syntax error at or near end of file".toList⟩

/-- Lexemes after an operator that has to be there. -/
def expect (o : String) (ls : List Placed) : Except Mistake (List Placed) :=
  let isClosing := o ∈ [")", "]", "\x7d"]
  let lacking : Bytes := "missing ".toList ++ o.toList ++ " near end of ".toList
  match ls with
  | ⟨.operator p, line, text⟩ :: rest =>
    if p = o then .ok rest else .error (misplaced (⟨.operator p, line, text⟩ :: rest))
  | ⟨.ending, line, text⟩ :: rest =>
    if isClosing then .error ⟨line + 1, lacking ++ "file".toList⟩
    else .error (misplaced (⟨.ending, line, text⟩ :: rest))
  | ⟨.lineEnd, line, text⟩ :: rest =>
    if isClosing then .error ⟨line, lacking ++ "line".toList⟩
    else .error (misplaced (⟨.lineEnd, line, text⟩ :: rest))
  | ls => .error (misplaced ls)

/-- Whether something can be given a value. -/
def Expression.isTarget : Expression → Bool
  | .variable _ => true
  | .element _ _ => true
  | .field _ => true
  | _ => false

/-- The operator that gives a value, with what it does to the old one. -/
def assignment? (ls : List Placed) : Option (Option Arithmetic) :=
  match ls with
  | ⟨.operator o, _, _⟩ :: _ =>
    match o with
    | "=" => some none
    | "+=" => some (some .plus)
    | "-=" => some (some .minus)
    | "*=" => some (some .times)
    | "/=" => some (some .divided)
    | "%=" => some (some .remainder)
    | "^=" => some (some .power)
    | _ => none
  | _ => none

/-- The relation that an operator means. -/
def relation? (o : String) (k : Restriction) : Option Relation :=
  match o with
  | "<" => some .less
  | "<=" => some .atMost
  | "==" => some .equal
  | "!=" => some .different
  | ">" => if k.noGreater then none else some .greater
  | ">=" => some .atLeast
  | _ => none

/-- Whether a value starts here that may be joined to the one before. -/
def startsJoined (ls : List Placed) : Bool :=
  match ls with
  | p :: _ =>
    match p.lexeme with
    | .number _ => true
    | .text _ => true
    | .pattern _ => true
    | .name _ => true
    | .caller _ => true
    | .function _ => true
    | .operator o => o ∈ ["$", "!", "(", "++", "--"]
    | _ => false
  | [] => false

/-- How many arguments a function takes at least and at most. -/
def argumentCounts : Function → Nat × Nat
  | .length => (0, 1)
  | .substr => (2, 3)
  | .index => (2, 2)
  | .split => (2, 3)
  | .sub => (2, 3)
  | .gsub => (2, 3)
  | .match => (2, 2)
  | .sprintf => (1, 10000)
  | .arctangent => (2, 2)
  | .random => (0, 0)
  | .seed => (0, 1)
  | .flush => (0, 1)
  | .time => (0, 0)
  | _ => (1, 1)

/-! ## Expressions -/

mutual

/-- Reads a choice or what binds more tightly. -/
def readExpression : Nat → Restriction → List Placed → Except Mistake (Expression × List Placed)
  | 0, _, ls => .error (misplaced ls)
  | fuel + 1, k, ls => do
    let (condition, rest) ← readLevel fuel 1 k ls
    if isNext "?" rest then
      let (yes, rest) ← readExpression fuel k (rest.drop 1)
      let rest ← expect ":" rest
      let (no, rest) ← readExpression fuel k rest
      return (.choice condition yes no, rest)
    else return (condition, rest)

/-- Reads what binds at least as tightly as the operators of a level. -/
def readLevel : Nat → Nat → Restriction → List Placed → Except Mistake (Expression × List Placed)
  | 0, _, _, ls => .error (misplaced ls)
  | fuel + 1, level, k, ls =>
    match level with
    | 6 => do
      let (first, rest) ← readLevel fuel 7 k ls
      match assignment? rest with
      | some operator =>
        if first.isTarget then
          let (value, rest) ← readExpression fuel k (skipLineEnds (rest.drop 1))
          return (.assign first operator value, rest)
        else throw (misplaced rest)
      | none => readJoined fuel k first rest
    | 9 =>
      if isNext "!" ls then do
        let (a, rest) ← readLevel fuel 9 k (ls.drop 1)
        return (.not a, rest)
      else if isNext "-" ls then do
        let (a, rest) ← readLevel fuel 9 k (ls.drop 1)
        return (.negative a, rest)
      else if isNext "+" ls then do
        let (a, rest) ← readLevel fuel 9 k (ls.drop 1)
        return (.positive a, rest)
      else readLevel fuel 10 k ls
    | 11 => do
      let (base, rest) ← readStepped fuel k ls
      if isNext "^" rest then
        let after := rest.drop 1
        let isSigned := isNext "-" after || isNext "+" after || isNext "!" after
        let (exponent, rest) ← readLevel fuel (if isSigned then 9 else 11) k after
        return (.arithmetic .power base exponent, rest)
      else return (base, rest)
    | level => do
      let (first, rest) ← readLevel fuel (level + 1) k ls
      continueLevel fuel level k first rest

/-- Reads the operators of a level with their right sides. -/
def continueLevel :
    Nat → Nat → Restriction → Expression → List Placed → Except Mistake (Expression × List Placed)
  | 0, _, _, _, ls => .error (misplaced ls)
  | fuel + 1, level, k, left, ls => do
    let combine (make : Expression → Expression) (rest : List Placed) :
        Except Mistake (Expression × List Placed) := do
      let (right, rest) ← readLevel fuel (level + 1) k rest
      continueLevel fuel level k (make right) rest
    match level, ls with
    | 1, ⟨.operator "||", _, _⟩ :: rest => combine (.either left ·) (skipLineEnds rest)
    | 2, ⟨.operator "&&", _, _⟩ :: rest => combine (.both left ·) (skipLineEnds rest)
    | 3, ⟨.keyword "in", _, _⟩ :: ⟨.name array, _, _⟩ :: rest =>
      if k.noMembership then return (left, ls)
      else
        let index := match left with
          | .several values => values
          | value => [value]
        continueLevel fuel level k (.holds index array) rest
    | 4, ⟨.operator "~", _, _⟩ :: rest => combine (.matches false left ·) rest
    | 4, ⟨.operator "!~", _, _⟩ :: rest => combine (.matches true left ·) rest
    | 5, ⟨.operator o, _, _⟩ :: rest =>
      match relation? o k with
      | some r => combine (.compare r left ·) rest
      | none => return (left, ls)
    | 7, ⟨.operator "+", _, _⟩ :: rest => combine (.arithmetic .plus left ·) rest
    | 7, ⟨.operator "-", _, _⟩ :: rest => combine (.arithmetic .minus left ·) rest
    | 8, ⟨.operator "*", _, _⟩ :: rest => combine (.arithmetic .times left ·) rest
    | 8, ⟨.operator "/", _, _⟩ :: rest => combine (.arithmetic .divided left ·) rest
    | 8, ⟨.operator "%", _, _⟩ :: rest => combine (.arithmetic .remainder left ·) rest
    | 10, ⟨.operator "|", _, _⟩ :: ⟨.keyword "getline", _, _⟩ :: rest => do
      let (target, rest) ← readTarget fuel k rest
      continueLevel fuel level k (.read target .command left) rest
    | _, _ => return (left, ls)

/-- Reads values that are joined to one before. -/
def readJoined :
    Nat → Restriction → Expression → List Placed → Except Mistake (Expression × List Placed)
  | 0, _, _, ls => .error (misplaced ls)
  | fuel + 1, k, left, ls =>
    if startsJoined ls then do
      let (right, rest) ← readLevel fuel 7 k ls
      readJoined fuel k (.joined left right) rest
    else return (left, ls)

/-- Reads what a record is read into, if there is something. -/
def readTarget : Nat → Restriction → List Placed → Except Mistake (Option Expression × List Placed)
  | 0, _, ls => .error (misplaced ls)
  | fuel + 1, k, ls =>
    match ls with
    | ⟨.name _, _, _⟩ :: _ => do
      let (target, rest) ← readPrimary fuel k ls
      return (some target, rest)
    | ⟨.operator "$", _, _⟩ :: _ => do
      let (target, rest) ← readPrimary fuel k ls
      return (some target, rest)
    | _ => return (none, ls)

/-- Reads something that may be changed by one before or after it is used. -/
def readStepped : Nat → Restriction → List Placed → Except Mistake (Expression × List Placed)
  | 0, _, ls => .error (misplaced ls)
  | fuel + 1, k, ls => do
    let before (up : Bool) : Except Mistake (Expression × List Placed) := do
      let (target, rest) ← readPrimary fuel k (ls.drop 1)
      if target.isTarget then return (.step target true up, rest) else throw (misplaced rest)
    if isNext "++" ls then before true
    else if isNext "--" ls then before false
    else
      let (value, rest) ← readPrimary fuel k ls
      if value.isTarget && isNext "++" rest then return (.step value false true, rest.drop 1)
      else if value.isTarget && isNext "--" rest then return (.step value false false, rest.drop 1)
      else return (value, rest)

/-- Reads a value without operators around it. -/
def readPrimary : Nat → Restriction → List Placed → Except Mistake (Expression × List Placed)
  | 0, _, ls => .error (misplaced ls)
  | fuel + 1, k, ls =>
    match ls with
    | ⟨.number x, _, _⟩ :: rest => return (.number x, rest)
    | ⟨.text cs, _, _⟩ :: rest => return (.text cs, rest)
    | ⟨.pattern cs, line, _⟩ :: rest =>
      match readPattern cs with
      | .ok r => return (.pattern r, rest)
      | .error words =>
        throw ⟨line, "regular expression compile failed (".toList ++ words.toList ++ ")\n".toList
          ++ cs⟩
    | ⟨.name name, _, _⟩ :: rest =>
      if isNext "[" rest then do
        let (index, rest) ← readList fuel (skipLineEnds (rest.drop 1))
        let rest ← expect "]" rest
        return (.element name index, rest)
      else return (.variable name, rest)
    | ⟨.caller name, _, _⟩ :: rest => do
      let (values, rest) ← readArguments fuel rest
      return (.call name values, rest)
    | ⟨.function f, line, shown⟩ :: rest => do
      let (values, rest) ←
        if isNext "(" rest then readArguments fuel rest
        else if f matches .length || f matches .random || f matches .time then pure ([], rest)
        else throw (misplaced rest)
      let (least, most) := argumentCounts f
      if least ≤ values.length && values.length ≤ most then return (.apply f values, rest)
      else throw ⟨line, "wrong number of arguments in call to ".toList ++ shown⟩
    | ⟨.operator "$", _, _⟩ :: rest => do
      let (number, rest) ←
        if isNext "++" rest || isNext "--" rest then readStepped fuel k rest
        else if isNext "-" rest || isNext "+" rest || isNext "!" rest then readLevel fuel 9 k rest
        else readPrimary fuel k rest
      return (.field number, rest)
    | ⟨.operator "-", _, _⟩ :: _ => readLevel fuel 9 k ls
    | ⟨.operator "!", _, _⟩ :: _ => readLevel fuel 9 k ls
    | ⟨.operator "(", _, _⟩ :: rest => do
      let (values, rest) ← readList fuel (skipLineEnds rest)
      let rest ← expect ")" (skipLineEnds rest)
      match values with
      | [value] =>
        match value with
        | .variable name => return (.variable name, rest)
        | value => return (value, rest)
      | values => return (.several values, rest)
    | ⟨.keyword "getline", _, _⟩ :: rest => do
      let (target, rest) ← readTarget fuel k rest
      if isNext "<" rest then
        let (source, rest) ← readPrimary fuel k (rest.drop 1)
        return (.read target .file source, rest)
      else return (.read target .main (.text []), rest)
    | ls => throw (misplaced ls)

/-- Reads expressions with commas between them. -/
def readList : Nat → List Placed → Except Mistake (List Expression × List Placed)
  | 0, ls => .error (misplaced ls)
  | fuel + 1, ls => do
    let (first, rest) ← readExpression fuel {} ls
    if isNext "," rest then
      let (others, rest) ← readList fuel (skipLineEnds (rest.drop 1))
      return (first :: others, rest)
    else return ([first], rest)

/-- Reads arguments between parentheses. -/
def readArguments : Nat → List Placed → Except Mistake (List Expression × List Placed)
  | 0, ls => .error (misplaced ls)
  | fuel + 1, ls => do
    let rest ← expect "(" ls
    let rest := skipLineEnds rest
    if isNext ")" rest then return ([], rest.drop 1)
    else
      let (values, rest) ← readList fuel rest
      let rest ← expect ")" (skipLineEnds rest)
      return (values, rest)

end

/-! ## Statements -/

/-- Whether a statement ends here. -/
def endsStatement (ls : List Placed) : Bool :=
  match ls with
  | ⟨.lineEnd, _, _⟩ :: _ => true
  | ⟨.ending, _, _⟩ :: _ => true
  | _ => isNext ";" ls || isNext "\x7d" ls

/-- Takes away what ends a statement. -/
def endStatement {α : Type} (a : α) (ls : List Placed) : Except Mistake (α × List Placed) :=
  match ls with
  | ⟨.lineEnd, _, _⟩ :: rest => .ok (a, skipLineEnds rest)
  | ⟨.ending, _, _⟩ :: _ => .ok (a, ls)
  | ⟨.operator ";", _, _⟩ :: rest => .ok (a, skipLineEnds rest)
  | ⟨.operator "\x7d", _, _⟩ :: _ => .ok (a, ls)
  | _ => .error (misplaced ls)

/-- Where the output of a statement goes, and the lexemes after the sign for it. -/
def direction (ls : List Placed) : Direction × List Placed :=
  match ls with
  | ⟨.operator ">", _, _⟩ :: rest => (.write, rest)
  | ⟨.operator ">>", _, _⟩ :: rest => (.append, rest)
  | ⟨.operator "|", _, _⟩ :: rest => (.pipe, rest)
  | _ => (.standard, ls)

/-- Reads the expressions of a statement that writes. -/
def readWritten (fuel : Nat) : Nat → List Placed → Except Mistake (List Expression × List Placed)
  | 0, ls => .error (misplaced ls)
  | steps + 1, ls => do
    if endsStatement ls || isNext ">" ls || isNext ">>" ls || isNext "|" ls then return ([], ls)
    else
      let (first, rest) ← readExpression fuel { noGreater := true } ls
      if isNext "," rest then
        let (others, rest) ← readWritten fuel steps (skipLineEnds (rest.drop 1))
        return (first :: others, rest)
      else return ([first], rest)

/-- Reads a statement that writes. -/
def readWriting (fuel : Nat) (make : List Expression → Direction → Expression → Statement)
    (ls : List Placed) : Except Mistake (Statement × List Placed) := do
  let (values, rest) ← readWritten fuel (ls.length + 1) ls
  let values := match values with
    | [.several values] => values
    | values => values
  let (way, rest) := direction rest
  match way with
  | .standard => return (make values way (.text []), rest)
  | way =>
    let (target, rest) ← readExpression fuel { noGreater := true } rest
    return (make values way target, rest)

/-- Reads a statement without parts that are statements. -/
def readSimple (fuel : Nat) (ls : List Placed) : Except Mistake (Statement × List Placed) := do
  let optional (make : Option Expression → Statement) (rest : List Placed) :
      Except Mistake (Statement × List Placed) := do
    if endsStatement rest then return (make none, rest)
    else
      let (value, rest) ← readExpression fuel {} rest
      return (make (some value), rest)
  match ls with
  | ⟨.keyword "print", _, _⟩ :: rest => readWriting fuel .print rest
  | ⟨.keyword "printf", _, _⟩ :: rest => readWriting fuel .fill rest
  | ⟨.keyword "next", _, _⟩ :: rest => return (.next, rest)
  | ⟨.keyword "nextfile", _, _⟩ :: rest => return (.nextFile, rest)
  | ⟨.keyword "break", _, _⟩ :: rest => return (.break, rest)
  | ⟨.keyword "continue", _, _⟩ :: rest => return (.continue, rest)
  | ⟨.keyword "exit", _, _⟩ :: rest => optional .exit rest
  | ⟨.keyword "return", _, _⟩ :: rest => optional .return rest
  | ⟨.keyword "delete", _, _⟩ :: ⟨.name name, _, _⟩ :: rest =>
    if isNext "[" rest then
      let (index, rest) ← readList fuel (rest.drop 1)
      let rest ← expect "]" rest
      return (.remove name (some index), rest)
    else return (.remove name none, rest)
  | _ =>
    let (e, rest) ← readExpression fuel {} ls
    return (.expression e, rest)

mutual

/-- Reads a statement with what ends it. -/
def readStatement : Nat → List Placed → Except Mistake (Statement × List Placed)
  | 0, ls => .error (misplaced ls)
  | fuel + 1, ls =>
    match ls with
    | ⟨.operator ";", _, _⟩ :: rest => return (.block [], skipLineEnds rest)
    | ⟨.operator "\x7b", _, _⟩ :: _ => do
      let (body, rest) ← readBlock fuel ls
      return (.block body, skipLineEnds rest)
    | ⟨.keyword "if", _, _⟩ :: rest => do
      let rest ← expect "(" rest
      let (condition, rest) ← readExpression fuel {} rest
      let rest ← expect ")" rest
      let (yes, rest) ← readStatement fuel (skipLineEnds rest)
      let after := if isNext ";" rest && isKeywordNext "else" (skipEnds rest) then skipEnds rest
        else rest
      if isKeywordNext "else" after then
        let (no, rest) ← readStatement fuel (skipLineEnds (after.drop 1))
        return (.choice condition yes no, rest)
      else return (.choice condition yes (.block []), rest)
    | ⟨.keyword "while", _, _⟩ :: rest => do
      let rest ← expect "(" rest
      let (condition, rest) ← readExpression fuel {} rest
      let rest ← expect ")" rest
      let (body, rest) ← readStatement fuel (skipLineEnds rest)
      return (.loop true condition (.block []) body, rest)
    | ⟨.keyword "do", _, _⟩ :: rest => do
      let (body, rest) ← readStatement fuel (skipLineEnds rest)
      if isKeywordNext "while" (skipEnds rest) then
        let rest ← expect "(" ((skipEnds rest).drop 1)
        let (condition, rest) ← readExpression fuel {} rest
        let rest ← expect ")" rest
        endStatement (.loop false condition (.block []) body) rest
      else throw (misplaced rest)
    | ⟨.keyword "for", _, _⟩ :: ⟨.operator "(", _, _⟩ :: ⟨.name name, _, _⟩ :: ⟨.keyword "in", _, _⟩
        :: ⟨.name array, _, _⟩ :: ⟨.operator ")", _, _⟩ :: rest => do
      let (body, rest) ← readStatement fuel (skipLineEnds rest)
      return (.each name array body, rest)
    | ⟨.keyword "for", _, _⟩ :: rest => do
      let rest ← expect "(" rest
      let (start, rest) ←
        if isNext ";" rest then pure (Statement.block [], rest) else readSimple fuel rest
      let rest ← expect ";" rest
      let rest := skipLineEnds rest
      let (condition, rest) ←
        if isNext ";" rest then pure (Expression.number 1, rest) else readExpression fuel {} rest
      let rest ← expect ";" rest
      let rest := skipLineEnds rest
      let (step, rest) ←
        if isNext ")" rest then pure (Statement.block [], rest) else readSimple fuel rest
      let rest ← expect ")" rest
      let (body, rest) ← readStatement fuel (skipLineEnds rest)
      return (.block [start, .loop true condition step body], rest)
    | ls => do
      let (s, rest) ← readSimple fuel ls
      endStatement s rest

/-- Reads statements between braces. -/
def readBlock : Nat → List Placed → Except Mistake (List Statement × List Placed)
  | 0, ls => .error (misplaced ls)
  | fuel + 1, ls => do
    let rest ← expect "\x7b" ls
    readStatements fuel (skipEnds rest)

/-- Reads statements up to a closing brace. -/
def readStatements : Nat → List Placed → Except Mistake (List Statement × List Placed)
  | 0, ls => .error (misplaced ls)
  | fuel + 1, ls => do
    if isNext "\x7d" ls then return ([], ls.drop 1)
    else if ls.head?.any (fun p => match p.lexeme with | .ending => true | _ => false) then
      let _ ← expect "\x7d" ls
      return ([], ls)
    else
      let (first, rest) ← readStatement fuel ls
      let (others, rest) ← readStatements fuel (skipEnds rest)
      return (first :: others, rest)

end

/-! ## Programs -/

/-- Reads the names of parameters up to the closing parenthesis. -/
def readParameters : Nat → List Placed → Except Mistake (List Bytes × List Placed)
  | 0, ls => .error (misplaced ls)
  | fuel + 1, ls =>
    match ls with
    | ⟨.operator ")", _, _⟩ :: rest => .ok ([], rest)
    | ⟨.operator ",", _, _⟩ :: rest => readParameters fuel (skipLineEnds rest)
    | ⟨.name name, _, _⟩ :: rest =>
      (readParameters fuel (skipLineEnds rest)).map fun p => (name :: p.1, p.2)
    | ls => .error (misplaced ls)

/-- Reads the rules and functions of a program. -/
def readItems (fuel : Nat) : Nat → List Placed → Except Mistake Form
  | 0, ls => .error (misplaced ls)
  | steps + 1, ls => do
    let rule (choice : Choice) (ls : List Placed) : Except Mistake Form := do
      let (body, rest) ← readBlock fuel ls
      let form ← readItems fuel steps rest
      return { form with rules := ⟨choice, body⟩ :: form.rules }
    let conditional (choice : Choice) (rest : List Placed) : Except Mistake Form := do
      if isNext "\x7b" rest then rule choice rest
      else if endsStatement rest then
        let form ← readItems fuel steps rest
        return { form with rules := ⟨choice, [.print [] .standard (.text [])]⟩ :: form.rules }
      else throw (misplaced rest)
    let function (name : Bytes) (rest : List Placed) : Except Mistake Form := do
      let rest ← expect "(" rest
      let (parameters, rest) ← readParameters (rest.length + 1) (skipLineEnds rest)
      let (body, rest) ← readBlock fuel (skipLineEnds rest)
      let form ← readItems fuel steps rest
      return { form with definitions := ⟨name, parameters, body⟩ :: form.definitions }
    match skipEnds ls with
    | [] => return {}
    | ⟨.ending, _, _⟩ :: _ => return {}
    | ⟨.keyword "BEGIN", _, _⟩ :: rest => rule .start (skipLineEnds rest)
    | ⟨.keyword "END", _, _⟩ :: rest => rule .stop (skipLineEnds rest)
    | ⟨.keyword "function", _, _⟩ :: ⟨.caller name, _, _⟩ :: rest => function name rest
    | ⟨.keyword "function", _, _⟩ :: ⟨.name name, _, _⟩ :: rest => function name rest
    | ⟨.keyword "func", _, _⟩ :: ⟨.caller name, _, _⟩ :: rest => function name rest
    | ⟨.operator "\x7b", line, text⟩ :: rest =>
      rule .always (⟨.operator "\x7b", line, text⟩ :: rest)
    | ls =>
      let (first, rest) ← readExpression fuel {} ls
      if isNext "," rest then
        let (last, rest) ← readExpression fuel {} (skipLineEnds (rest.drop 1))
        conditional (.range first last) rest
      else conditional (.condition first) rest

/-- Reads a program. -/
def readForm (cs : Bytes) : Except Mistake Form := do
  let ls ← lexemesOf (cs.length + 1) 1 false cs
  let form ← readItems (30 * (ls.length + 2)) (ls.length + 1) ls
  let isMissing (p : Placed) : Bool := match p.lexeme with
    | .caller name => !form.definitions.any fun d => d.name = name
    | _ => false
  match ls.find? isMissing with
  | some p => throw ⟨p.line, "function ".toList ++ p.text ++ " never defined".toList⟩
  | none => return form

end LinkWatch.Host.Record
