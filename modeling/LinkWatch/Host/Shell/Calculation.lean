import LinkWatch.Host.Shell.Arithmetic
import LinkWatch.Host.Shell.Contents
import LinkWatch.Host.Shell.Token

/-!
# Calculations

The arithmetic of the rich language. An expression is read into a tree, which is then evaluated. The
value of a variable is an expression itself, places of variables may be named, and a step may change
a variable before or after its value is taken.
-/

namespace LinkWatch.Host.Shell

open LinkWatch.Text LinkWatch.Host.Utility

/-- Why an expression has no value. -/
inductive FormulaFlaw where
  | message (words : String) (token : Bytes)
  /-- A variable without a value, where that is not allowed. -/
  | unbound (name : Bytes)
  | unclosed

/-- A sign of an expression. -/
inductive Sign where
  | number (n : Int)
  | name (cs : Bytes) (key : Option Bytes)
  | operator (text : String)
  | wrong (words : String)
  deriving DecidableEq

/-- A sign with the text from it on. -/
structure Lexeme where
  sign : Sign
  text : Bytes

/-- An expression. -/
inductive Formula where
  | number (n : Int)
  | held (name : Bytes) (key : Option Bytes)
  | sole (operator : String) (a : Formula)
  /-- Two operands and the text from the second one on. -/
  | pair (operator : String) (a b : Formula) (token : Bytes)
  | both (a b : Formula)
  | either (a b : Formula)
  | choice (c a b : Formula)
  /-- Gives a place a value, perhaps computed from the one before. -/
  | assigned (operator : Option String) (name : Bytes) (key : Option Bytes) (value : Formula)
      (token : Bytes)
  /-- Changes a place by a number; the value is the one before or after. -/
  | stepped (isBefore : Bool) (delta : Int) (name : Bytes) (key : Option Bytes)
  | series (a b : Formula)

/-! ## Signs -/

/-- The value of a digit where numbers may have a base of up to 64. -/
def wideDigit (base : Nat) (c : Char) : Option Nat :=
  if c.isDigit then some (c.toNat - 48)
  else if c.isLower then some (c.toNat - 87)
  else if c.isUpper then some (if base ≤ 36 then c.toNat - 55 else c.toNat - 29)
  else if c = '@' then some 62
  else if c = '_' then some 63
  else none

/-- A number of digits in a base, unless one of them is too great. -/
def wideNumber (base : Nat) (digits : Bytes) : Sign :=
  let values := digits.map (wideDigit base)
  if values.all fun v => v.any (· < base) then
    .number (wrapped (values.foldl (fun n v => n * base + (v.getD 0 : Nat)) (0 : Int)))
  else .wrong "value too great for base"

/-- The number that stands at the start of a text. -/
def signOfNumber (cs : Bytes) : Sign :=
  match cutAt? '#' cs with
  | some (base, digits) =>
    if !base.all Char.isDigit then .wrong "invalid arithmetic base"
    else
      let b := (natural? base).getD 0
      if b < 2 || 64 < b then .wrong "invalid arithmetic base"
      else if digits = [] then .wrong "invalid integer constant"
      else wideNumber b digits
  | none =>
    match cs with
    | '0' :: x :: digits =>
      if x = 'x' || x = 'X' then wideNumber 16 digits else wideNumber 8 (x :: digits)
    | _ => wideNumber 10 cs

/-- The operators of expressions, longer ones before their beginnings. -/
def formulaSymbols : List String :=
  ["<<=", ">>=", "**", "||", "&&", "==", "!=", "<=", ">=", "<<", ">>", "+=", "-=", "*=", "/=", "%=",
    "&=", "|=", "^=", "|", "&", "^", "=", "!", "<", ">", "+", "-", "*", "/", "%", "~", "(", ")",
    "?", ":", ","]

/-- Whether a sign names a place, so that two marks after it change what is there. -/
def Sign.isPlace : Sign → Bool
  | .name _ _ => true
  | _ => false

/-- The signs of an expression. -/
def lexemesOf : Nat → Option Sign → Bytes → List Lexeme
  | 0, _, _ => []
  | fuel + 1, before, cs =>
    match skipSpaces cs with
    | [] => []
    | c :: rest =>
      let cs := c :: rest
      let isPart (c : Char) : Bool := isNameChar c || c = '#' || c = '@'
      if c.isDigit then
        let text := cs.takeWhile isPart
        ⟨signOfNumber text, cs⟩ :: lexemesOf fuel (some (.number 0)) (cs.drop text.length)
      else if isNameStart c then
        let name := cs.takeWhile isNameChar
        match cs.drop name.length with
        | '[' :: inside =>
          match cutBracket 0 none inside with
          | some (key, after) =>
            let sign := Sign.name name (some key)
            ⟨sign, cs⟩ :: lexemesOf fuel (some sign) after
          | none => [⟨.wrong "bad array subscript", cs⟩]
        | after =>
          let sign := Sign.name name none
          ⟨sign, cs⟩ :: lexemesOf fuel (some sign) after
      else
        let isStep := match rest with
          | d :: more =>
            (c = '+' || c = '-') && d = c
              && (before.any Sign.isPlace || (skipSpaces more).head?.any isNameStart)
          | [] => false
        if isStep then
          let sign := Sign.operator (String.ofList [c, c])
          ⟨sign, cs⟩ :: lexemesOf fuel (some sign) (rest.drop 1)
        else
          match formulaSymbols.find? fun o => o.toList.isPrefixOf cs with
          | some o => ⟨.operator o, cs⟩ :: lexemesOf fuel (some (.operator o)) (cs.drop o.length)
          | none => [⟨.wrong "syntax error: operand expected", cs⟩]

/-! ## Reading -/

/-- What reading a part of an expression comes to: the part, what is left, and the last sign. -/
structure FormulaRead where
  formula : Formula
  rest : List Lexeme
  last : Bytes

/-- What reading needs: the signs that are left and the text from the last sign on. -/
abbrev FormulaReader := List Lexeme → Bytes → Except FormulaFlaw FormulaRead

/-- The operators between two operands, from the weakest to the strongest, apart from those that
decide what is evaluated. -/
def formulaLevels : List (List String) :=
  [["|"], ["^"], ["&"], ["==", "!="], ["<", ">", "<=", ">="], ["<<", ">>"], ["+", "-"],
    ["*", "/", "%"]]

/-- The operators that assign, with the operators by which they compute. -/
def assigningOperators : List (String × Option String) :=
  [("=", none), ("+=", some "+"), ("-=", some "-"), ("*=", some "*"), ("/=", some "/"),
    ("%=", some "%"), ("&=", some "&"), ("|=", some "|"), ("^=", some "^"), ("<<=", some "<<"),
    (">>=", some ">>")]

mutual

/-- Reads expressions one after another. -/
def readSeries : Nat → FormulaReader
  | 0, _, last => .error (.message "expression recursion level exceeded" last)
  | fuel + 1, ls, last => do
    let a ← readAssigned fuel ls last
    match a.rest with
    | ⟨.operator ",", text⟩ :: rest =>
      let b ← readSeries fuel rest text
      return { b with formula := .series a.formula b.formula }
    | _ => return a

/-- Reads an assignment or something stronger. -/
def readAssigned : Nat → FormulaReader
  | 0, _, last => .error (.message "expression recursion level exceeded" last)
  | fuel + 1, ls, last => do
    let a ← readFormulaChoice fuel ls last
    match a.rest with
    | ⟨.operator o, text⟩ :: rest =>
      match assigningOperators.lookup o, a.formula with
      | some operator, .held name key =>
        let b ← readAssigned fuel rest text
        let mark := rest.head?.elim text Lexeme.text
        return { b with formula := .assigned operator name key b.formula mark }
      | some _, _ => .error (.message "attempted assignment to non-variable" text)
      | none, _ => return a
    | _ => return a

/-- Reads a choice. -/
def readFormulaChoice : Nat → FormulaReader
  | 0, _, last => .error (.message "expression recursion level exceeded" last)
  | fuel + 1, ls, last => do
    let c ← readFormulaEither fuel ls last
    match c.rest with
    | ⟨.operator "?", text⟩ :: rest =>
      let a ← readSeries fuel rest text
      match a.rest with
      | ⟨.operator ":", text⟩ :: rest =>
        let b ← readFormulaChoice fuel rest text
        return { b with formula := .choice c.formula a.formula b.formula }
      | _ => .error (.message "\x60:' expected for conditional expression" a.last)
    | _ => return c

/-- Reads alternatives. -/
def readFormulaEither : Nat → FormulaReader
  | 0, _, last => .error (.message "expression recursion level exceeded" last)
  | fuel + 1, ls, last => do
    let a ← readFormulaBoth fuel ls last
    match a.rest with
    | ⟨.operator "||", text⟩ :: rest =>
      let b ← readFormulaEither fuel rest text
      return { b with formula := .either a.formula b.formula }
    | _ => return a

/-- Reads conjunctions. -/
def readFormulaBoth : Nat → FormulaReader
  | 0, _, last => .error (.message "expression recursion level exceeded" last)
  | fuel + 1, ls, last => do
    let a ← readFormulaLevels fuel formulaLevels ls last
    match a.rest with
    | ⟨.operator "&&", text⟩ :: rest =>
      let b ← readFormulaBoth fuel rest text
      return { b with formula := .both a.formula b.formula }
    | _ => return a

/-- Reads operators of the given levels. -/
def readFormulaLevels : Nat → List (List String) → FormulaReader
  | 0, _, _, last => .error (.message "expression recursion level exceeded" last)
  | fuel + 1, levels, ls, last => do
    match levels with
    | [] => readPower fuel ls last
    | level :: stronger =>
      let a ← readFormulaLevels fuel stronger ls last
      readFormulaMore fuel level stronger a

/-- Goes on with the operators of one level, from left to right. -/
def readFormulaMore :
    Nat → List String → List (List String) → FormulaRead → Except FormulaFlaw FormulaRead
  | 0, _, _, a => .error (.message "expression recursion level exceeded" a.last)
  | fuel + 1, level, stronger, a => do
    match a.rest with
    | ⟨.operator o, text⟩ :: rest =>
      if o ∈ level then
        let b ← readFormulaLevels fuel stronger rest text
        readFormulaMore fuel level stronger { b with formula := .pair o a.formula b.formula b.last }
      else return a
    | _ => return a

/-- Reads powers, from right to left. -/
def readPower : Nat → FormulaReader
  | 0, _, last => .error (.message "expression recursion level exceeded" last)
  | fuel + 1, ls, last => do
    let a ← readFormulaOperand fuel ls last
    match a.rest with
    | ⟨.operator "**", text⟩ :: rest =>
      let b ← readPower fuel rest text
      return { b with formula := .pair "**" a.formula b.formula b.last }
    | _ => return a

/-- Reads an operand. -/
def readFormulaOperand : Nat → FormulaReader
  | 0, _, last => .error (.message "expression recursion level exceeded" last)
  | fuel + 1, ls, last => do
    let stepBefore (delta : Int) (text : Bytes) (rest : List Lexeme) :
        Except FormulaFlaw FormulaRead :=
      match rest with
      | ⟨.name name key, text⟩ :: rest => .ok ⟨.stepped true delta name key, rest, text⟩
      | _ => .error (.message "syntax error: operand expected" text)
    match ls with
    | ⟨.number n, text⟩ :: rest => return ⟨.number n, rest, text⟩
    | ⟨.name name key, text⟩ :: rest =>
      match rest with
      | ⟨.operator "++", text⟩ :: rest => return ⟨.stepped false 1 name key, rest, text⟩
      | ⟨.operator "--", text⟩ :: rest => return ⟨.stepped false (-1) name key, rest, text⟩
      | _ => return ⟨.held name key, rest, text⟩
    | ⟨.operator "++", text⟩ :: rest => stepBefore 1 text rest
    | ⟨.operator "--", text⟩ :: rest => stepBefore (-1) text rest
    | ⟨.operator "(", text⟩ :: rest =>
      let a ← readSeries fuel rest text
      match a.rest with
      | ⟨.operator ")", text⟩ :: rest => return ⟨a.formula, rest, text⟩
      | _ => .error (.message "missing \x60)'" a.last)
    | ⟨.operator o, text⟩ :: rest =>
      if o ∈ ["-", "+", "!", "~"] then
        let a ← readFormulaOperand fuel rest text
        return { a with formula := .sole o a.formula }
      else
        let isFirst := last = []
        .error (.message "syntax error: operand expected" (if isFirst then text else last))
    | ⟨.wrong words, text⟩ :: _ => .error (.message words text)
    | [] => .error (.message "syntax error: operand expected" last)

end

/-- The tree of an expression. -/
def readFormula (cs : Bytes) : Except FormulaFlaw Formula :=
  let ls := lexemesOf (cs.length + 1) none cs
  if ls.isEmpty then .ok (.number 0)
  else
    (readSeries (20 * (ls.length + 2)) ls []).bind fun r =>
      match r.rest with
      | [] => .ok r.formula
      | ⟨.wrong words, text⟩ :: _ => .error (.message words text)
      | l :: _ => .error (.message "syntax error in expression" l.text)

/-! ## Evaluating -/

/-- The variables that an expression sees: those before it, and those that it has changed, the
newest first. -/
structure FormulaState where
  stored : Bytes → Contents
  changed : List (Bytes × Contents) := []
  /-- Whether every variable has to have a value. -/
  isStrict : Bool := false

/-- What a variable holds. -/
def FormulaState.contents (s : FormulaState) (name : Bytes) : Contents :=
  (s.changed.lookup name).getD (s.stored name)

/-- Evaluates something and may change variables. -/
abbrev Evaluating := StateT FormulaState (Except FormulaFlaw)

/-- Gives up. -/
def flawed {α : Type} (words : String) (token : Bytes) : Evaluating α := fun _ =>
  .error (.message words token)

/-- A power, with at most 64 bits kept at every step. -/
def wrappedPower (a : Int) : Nat → Int
  | 0 => 1
  | n + 1 => wrapped (wrappedPower a n * a)

/-- The result of an operator between two numbers. -/
def applyPair (operator : String) (a b : Int) (token : Bytes) : Evaluating Int :=
  if operator = "**" then
    if b < 0 then flawed "exponent less than 0" token
    else if a = 0 || a = 1 then return (if b = 0 then 1 else a)
    else return wrappedPower a (b.toNat % 4294967296)
  else
    match applyBinary operator a b with
    | .ok n => return n
    | .error _ => flawed "division by 0" token

mutual

/-- The number that an expression stands for. -/
def evaluateExpression : Nat → Bytes → Evaluating Int
  | 0, cs => flawed "expression recursion level exceeded" cs
  | fuel + 1, cs =>
    match readFormula cs with
    | .ok formula => evaluateFormula fuel formula
    | .error e => fun _ => .error e

/-- The place that stands between the brackets after a name. -/
def placeOf : Nat → Bytes → Option Bytes → Evaluating (Option Key)
  | 0, _, _ => flawed "expression recursion level exceeded" []
  | fuel + 1, name, key => do
    match key with
    | none => return none
    | some key =>
      match (← get).contents name with
      | .table _ => return some (.name key)
      | c =>
        let n ← evaluateExpression fuel key
        let n := if n < 0 then n + c.limit else n
        if n < 0 then flawed "bad array subscript" key else return some (.number n.toNat)

/-- The number that a place holds. -/
def heldNumber : Nat → Bytes → Option Key → Evaluating Int
  | 0, name, _ => flawed "expression recursion level exceeded" name
  | fuel + 1, name, key => do
    let s ← get
    let c := s.contents name
    match key.elim c.usual? c.get? with
    | some text => evaluateExpression fuel text
    | none => if s.isStrict then fun _ => .error (.unbound name) else return 0

/-- Gives a place a number. -/
def putNumber : Nat → Bytes → Option Key → Int → Evaluating Unit
  | 0, name, _, _ => flawed "expression recursion level exceeded" name
  | _ + 1, name, key, n =>
    modify fun s =>
      let c := s.contents name
      let new := key.elim (c.putUsual (numeralOf n)) fun k => c.put k (numeralOf n)
      { s with changed := (name, new) :: s.changed.filter fun p => p.1 ≠ name }

/-- The number that an expression stands for. -/
def evaluateFormula : Nat → Formula → Evaluating Int
  | 0, _ => flawed "expression recursion level exceeded" []
  | fuel + 1, formula => do
    match formula with
    | .number n => return n
    | .held name key => heldNumber fuel name (← placeOf fuel name key)
    | .sole operator a =>
      let n ← evaluateFormula fuel a
      match operator with
      | "-" => return wrapped (-n)
      | "!" => return truth (n = 0)
      | "~" => return -n - 1
      | _ => return n
    | .pair operator a b token =>
      let m ← evaluateFormula fuel a
      let n ← evaluateFormula fuel b
      applyPair operator m n token
    | .both a b =>
      if (← evaluateFormula fuel a) = 0 then return 0
      else return truth ((← evaluateFormula fuel b) ≠ 0)
    | .either a b =>
      if (← evaluateFormula fuel a) ≠ 0 then return 1
      else return truth ((← evaluateFormula fuel b) ≠ 0)
    | .choice c a b =>
      if (← evaluateFormula fuel c) ≠ 0 then evaluateFormula fuel a else evaluateFormula fuel b
    | .assigned operator name key value token =>
      let place ← placeOf fuel name key
      let n ← match operator with
        | none => evaluateFormula fuel value
        | some o => do
          let old ← heldNumber fuel name place
          let n ← evaluateFormula fuel value
          applyPair o old n token
      putNumber fuel name place n
      return n
    | .stepped isBefore delta name key =>
      let place ← placeOf fuel name key
      let old ← heldNumber fuel name place
      let new := wrapped (old + delta)
      putNumber fuel name place new
      return if isBefore then new else old
    | .series a b =>
      let _ ← evaluateFormula fuel a
      evaluateFormula fuel b

end

/-- The value of an expression, and the variables that it changes, the newest first. -/
def calculate (isStrict : Bool) (stored : Bytes → Contents) (cs : Bytes) :
    Except FormulaFlaw (Int × List (Bytes × Contents)) :=
  match (evaluateExpression 5000 cs).run { stored := stored, isStrict := isStrict } with
  | .ok (n, s) => .ok (n, s.changed)
  | .error e => .error e

end LinkWatch.Host.Shell
