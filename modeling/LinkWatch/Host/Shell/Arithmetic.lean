import LinkWatch.Decimal.Nearest
import LinkWatch.Host.Utility.Numeral

/-!
# Arithmetic

Whole numbers of 64 bits with sign, the usual operators in the usual order of strength, and
variables, which can be assigned. What is not chosen by a condition is read and not evaluated.
-/

namespace LinkWatch.Host.Shell

open LinkWatch.Text LinkWatch.Host.Utility

/-- A truth value as a number. -/
def truth (b : Bool) : Int :=
  if b then 1 else 0

/-- Why an expression has no value. -/
inductive ArithmeticError where
  | message (text : String)
  /-- A variable whose value is no number. -/
  | notNumber (text : Bytes)

/-- A part of an expression. -/
inductive Symbol where
  | number (n : Int)
  | name (cs : Bytes)
  | operator (text : String)
  deriving DecidableEq

/-- All operators, longer ones before their beginnings. -/
def symbols : List String :=
  ["<<=", ">>=", "||", "&&", "==", "!=", "<=", ">=", "<<", ">>", "+=", "-=", "*=", "/=", "%=", "&=",
    "|=", "^=", "|", "&", "^", "=", "!", "<", ">", "+", "-", "*", "/", "%", "~", "(", ")", "?", ":"]

/-- The parts of an expression. What is no part of any ends them. -/
def symbolsOf : Nat → Bytes → List Symbol
  | 0, _ => []
  | fuel + 1, cs =>
    match skipSpaces cs with
    | [] => []
    | c :: rest =>
      let cs := c :: rest
      if c.isDigit then
        let p := readConstant cs
        .number (saturated p.1) :: symbolsOf fuel p.2
      else if isNameStart c then
        .name (cs.takeWhile isNameChar) :: symbolsOf fuel (cs.dropWhile isNameChar)
      else
        match symbols.find? fun o => o.toList.isPrefixOf cs with
        | some o => .operator o :: symbolsOf fuel (cs.drop o.length)
        | none => [.operator "?"]

/-- The operators between two operands, from the weakest to the strongest. -/
def binaryOperators : List (List String) :=
  [["|"], ["^"], ["&"], ["==", "!="], ["<", ">", "<=", ">="], ["<<", ">>"], ["+", "-"],
    ["*", "/", "%"]]

/-- The result of an operator, unless it divides by zero. -/
def applyBinary (operator : String) (a b : Int) : Except ArithmeticError Int :=
  let bits (f : BitVec 64 → BitVec 64 → BitVec 64) : Int :=
    (f (BitVec.ofInt 64 a) (BitVec.ofInt 64 b)).toInt
  match operator with
  | "|" => .ok (bits (· ||| ·))
  | "^" => .ok (bits (· ^^^ ·))
  | "&" => .ok (bits (· &&& ·))
  | "==" => .ok (truth (a = b))
  | "!=" => .ok (truth (a ≠ b))
  | "<=" => .ok (truth (a ≤ b))
  | ">=" => .ok (truth (a ≥ b))
  | "<" => .ok (truth (a < b))
  | ">" => .ok (truth (a > b))
  | "<<" => .ok (wrapped (a * Decimal.twoTo (b % 64).toNat))
  | ">>" => .ok (a / Decimal.twoTo (b % 64).toNat)
  | "+" => .ok (wrapped (a + b))
  | "-" => .ok (wrapped (a - b))
  | "*" => .ok (wrapped (a * b))
  | "/" =>
    if b = 0 then .error (.message "division by zero") else .ok (wrapped (Int.tdiv a b))
  | _ => if b = 0 then .error (.message "division by zero") else .ok (Int.tmod a b)

/-- The variables of an expression: their values before it, and those assigned since. -/
structure Ledger where
  before : Bytes → Option Bytes
  assigned : List (Bytes × Int) := []

/-- The number that a variable stands for. -/
def Ledger.number (l : Ledger) (name : Bytes) : Except ArithmeticError Int :=
  match l.assigned.lookup name with
  | some n => .ok n
  | none =>
    let text := (l.before name).getD []
    let p := readNumber text
    if skipSpaces p.2 = [] && saturated p.1 = p.1 then .ok p.1 else .error (.notNumber text)

/-- A value with what is left of the expression and the variables after it. -/
structure Reckoned where
  value : Int
  rest : List Symbol
  ledger : Ledger

mutual

/-- Evaluates an assignment or a weaker expression. Without `live` nothing counts. -/
def reckon (live : Bool) : Nat → Ledger → List Symbol → Except ArithmeticError Reckoned
  | 0, _, _ => .error (.message "expecting primary")
  | fuel + 1, l, ss =>
    match ss with
    | .name name :: .operator o :: rest =>
      let assigning := o = "=" || (o.length ≥ 2 && o.toList.getLast? = some '='
        && !(o ∈ ["==", "!=", "<=", ">="]))
      if !assigning then reckonChoice live fuel l ss
      else
        (reckon live fuel l rest).bind fun r =>
          if !live then .ok r
          else
            let value : Except ArithmeticError Int :=
              if o = "=" then .ok r.value
              else (r.ledger.number name).bind fun a =>
                applyBinary (String.ofList o.toList.dropLast) a r.value
            value.map fun v =>
              { r with value := v,
                       ledger := { r.ledger with assigned := (name, v) :: r.ledger.assigned } }
    | _ => reckonChoice live fuel l ss

/-- Evaluates a choice between two expressions. -/
def reckonChoice (live : Bool) : Nat → Ledger → List Symbol → Except ArithmeticError Reckoned
  | 0, _, _ => .error (.message "expecting primary")
  | fuel + 1, l, ss =>
    (reckonEither live fuel l ss).bind fun c =>
      match c.rest with
      | .operator "?" :: rest =>
        (reckon (live && c.value ≠ 0) fuel c.ledger rest).bind fun a =>
          match a.rest with
          | .operator ":" :: rest =>
            (reckonChoice (live && c.value = 0) fuel a.ledger rest).map fun b =>
              { b with value := if c.value ≠ 0 then a.value else b.value }
          | _ => .error (.message "expecting ':'")
      | _ => .ok c

/-- Evaluates alternatives. -/
def reckonEither (live : Bool) : Nat → Ledger → List Symbol → Except ArithmeticError Reckoned
  | 0, _, _ => .error (.message "expecting primary")
  | fuel + 1, l, ss =>
    (reckonBoth live fuel l ss).bind fun a =>
      match a.rest with
      | .operator "||" :: rest =>
        (reckonEither (live && a.value = 0) fuel a.ledger rest).map fun b =>
          { b with value := truth (a.value ≠ 0 || b.value ≠ 0) }
      | _ => .ok a

/-- Evaluates conjunctions. -/
def reckonBoth (live : Bool) : Nat → Ledger → List Symbol → Except ArithmeticError Reckoned
  | 0, _, _ => .error (.message "expecting primary")
  | fuel + 1, l, ss =>
    (reckonLevels live fuel binaryOperators l ss).bind fun a =>
      match a.rest with
      | .operator "&&" :: rest =>
        (reckonBoth (live && a.value ≠ 0) fuel a.ledger rest).map fun b =>
          { b with value := truth (a.value ≠ 0 && b.value ≠ 0) }
      | _ => .ok a

/-- Evaluates the operators of the given levels. -/
def reckonLevels (live : Bool) :
    Nat → List (List String) → Ledger → List Symbol → Except ArithmeticError Reckoned
  | 0, _, _, _ => .error (.message "expecting primary")
  | fuel + 1, levels, l, ss =>
    match levels with
    | [] => reckonOperand live fuel l ss
    | level :: stronger =>
      (reckonLevels live fuel stronger l ss).bind fun a => reckonMore live fuel level stronger a

/-- Goes on with the operators of one level, from left to right. -/
def reckonMore (live : Bool) :
    Nat → List String → List (List String) → Reckoned → Except ArithmeticError Reckoned
  | 0, _, _, _ => .error (.message "expecting primary")
  | fuel + 1, level, stronger, a =>
    match a.rest with
    | .operator o :: rest =>
      if o ∈ level then
        (reckonLevels live fuel stronger a.ledger rest).bind fun b =>
          let value := if live then applyBinary o a.value b.value else .ok b.value
          value.bind fun v => reckonMore live fuel level stronger { b with value := v }
      else .ok a
    | _ => .ok a

/-- Evaluates an operand. -/
def reckonOperand (live : Bool) : Nat → Ledger → List Symbol → Except ArithmeticError Reckoned
  | 0, _, _ => .error (.message "expecting primary")
  | fuel + 1, l, ss =>
    let operand (f : Int → Int) (rest : List Symbol) : Except ArithmeticError Reckoned :=
      (reckonOperand live fuel l rest).map fun r => { r with value := f r.value }
    match ss with
    | .number n :: rest => .ok ⟨n, rest, l⟩
    | .name name :: rest =>
      if live then (l.number name).map fun n => ⟨n, rest, l⟩ else .ok ⟨0, rest, l⟩
    | .operator "-" :: rest => operand (fun n => wrapped (-n)) rest
    | .operator "+" :: rest => operand id rest
    | .operator "!" :: rest => operand (fun n => truth (n = 0)) rest
    | .operator "~" :: rest => operand (fun n => -n - 1) rest
    | .operator "(" :: rest =>
      (reckon live fuel l rest).bind fun r =>
        match r.rest with
        | .operator ")" :: rest => .ok { r with rest := rest }
        | _ => .error (.message "expecting ')'")
    | _ => .error (.message "expecting primary")

end

/-- The value of an expression, and the variables assigned in it, the newest first. -/
def evaluate (stored? : Bytes → Option Bytes) (cs : Bytes) :
    Except ArithmeticError (Int × List (Bytes × Int)) :=
  (reckon true (20 * (cs.length + 2)) { before := stored? } (symbolsOf (cs.length + 1) cs)).bind
    fun r =>
      if r.rest = [] then .ok (r.value, r.ledger.assigned)
      else .error (.message "expecting EOF")

end LinkWatch.Host.Shell
