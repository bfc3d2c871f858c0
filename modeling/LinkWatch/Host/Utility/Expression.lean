import LinkWatch.Host.Utility.Regex

/-!
# Expressions of words

An expression whose operands and operators are the arguments of a program: alternatives,
comparisons, whole numbers, and matching of texts.
-/

namespace LinkWatch.Host.Utility

open LinkWatch.Text LinkWatch.Host.Kernel

/-- A value of an expression. -/
inductive Value where
  | number (n : Int)
  | text (cs : Bytes)

/-- The text of a value. -/
def Value.toBytes : Value → Bytes
  | .number n => numeralOf n
  | .text cs => cs

/-- The number that a value stands for. -/
def Value.number? : Value → Option Int
  | .number n => some n
  | .text cs =>
    match cs with
    | '-' :: rest => (natural? rest).map fun n => -(n : Int)
    | _ => (natural? cs).map fun n => (n : Int)

/-- Whether a value counts as false: the empty text, or zero. -/
def Value.isNull : Value → Bool
  | .number n => n = 0
  | .text cs =>
    let digits := match cs with
      | '-' :: rest => rest
      | cs => cs
    cs = [] || (digits ≠ [] && digits.all (· = '0'))

/-- Why an expression has no value, with the status for it. -/
structure BadExpression where
  status : Nat
  words : Bytes

/-- A value with the words that follow it. -/
abbrev Valued := Except BadExpression (Value × List Bytes)

/-- An expression in which something is missing after a word. -/
def missingAfter (before : Option Bytes) : BadExpression :=
  ⟨2, "syntax error: missing argument after '".toList ++ before.getD [] ++ ['\'']⟩

/-- What a pattern matches at the start of a text. -/
def matchStart (text pattern : Bytes) : Except BadExpression Value :=
  let pattern := match pattern with
    | '^' :: rest => rest
    | rest => rest
  match ({ extended := false, matchesEndings := true } : RegexStyle).read pattern with
  | .error words => .error ⟨2, words.toList⟩
  | .ok (r, groups) =>
    match farthestFirst (r.spots (.start text)) with
    | s :: _ =>
      .ok (if groups = 0 then .number s.position else .text ((s.groups.lookup 1).getD []))
    | [] => .ok (if groups = 0 then .number 0 else .text [])

/-- The result of an operator between two values, apart from those for truth. -/
def combine (operator : String) (a b : Value) : Except BadExpression Value :=
  let truth (t : Bool) : Except BadExpression Value := .ok (.number (if t then 1 else 0))
  let order : Ordering := match a.number?, b.number? with
    | some x, some y => compare x y
    | _, _ => compareOfLessAndEq (a.toBytes.map Char.toNat) (b.toBytes.map Char.toNat)
  let numbers (f : Int → Int → Except BadExpression Value) : Except BadExpression Value :=
    match a.number?, b.number? with
    | some x, some y => f x y
    | _, _ => .error ⟨2, "non-integer argument".toList⟩
  let divided (f : Int → Int → Int) : Except BadExpression Value :=
    numbers fun x y =>
      if y = 0 then .error ⟨2, "division by zero".toList⟩ else .ok (.number (f x y))
  match operator with
  | "<" => truth (order = .lt)
  | "<=" => truth (order ≠ .gt)
  | "=" => truth (order = .eq)
  | "==" => truth (order = .eq)
  | "!=" => truth (order ≠ .eq)
  | ">=" => truth (order ≠ .lt)
  | ">" => truth (order = .gt)
  | "+" => numbers fun x y => .ok (.number (x + y))
  | "-" => numbers fun x y => .ok (.number (x - y))
  | "*" => numbers fun x y => .ok (.number (x * y))
  | "/" => divided Int.tdiv
  | "%" => divided Int.tmod
  | "&" => .ok (if a.isNull || b.isNull then .number 0 else a)
  | "|" => .ok (if !a.isNull then a else if b.isNull then .number 0 else b)
  | _ => matchStart a.toBytes b.toBytes

/-- The operators between two values, from the weakest to the strongest. -/
def valueOperators : List (List String) :=
  [["|"], ["&"], ["<", "<=", "=", "==", "!=", ">=", ">"], ["+", "-"], ["*", "/", "%"], [":"]]

mutual

/-- Reads an expression with operators of the given levels. -/
def readLevels : Nat → List (List String) → Option Bytes → List Bytes → Valued
  | 0, _, before, _ => .error (missingAfter before)
  | fuel + 1, levels, before, ws =>
    match levels with
    | [] => readSingle fuel before ws
    | level :: stronger =>
      (readLevels fuel stronger before ws).bind fun (a, rest) => readMore fuel level stronger a rest

/-- Goes on with operators of one level, from left to right. -/
def readMore : Nat → List String → List (List String) → Value → List Bytes → Valued
  | 0, _, _, a, ws => .ok (a, ws)
  | fuel + 1, level, stronger, a, ws =>
    match ws with
    | o :: rest =>
      let name := String.ofList o
      if name ∈ level then
        (readLevels fuel stronger (some o) rest).bind fun (b, rest) =>
          (combine name a b).bind fun v => readMore fuel level stronger v rest
      else .ok (a, ws)
    | [] => .ok (a, ws)

/-- Reads a word, a function with its operands, or an expression in parentheses. -/
def readSingle : Nat → Option Bytes → List Bytes → Valued
  | 0, before, _ => .error (missingAfter before)
  | fuel + 1, before, ws =>
    match ws with
    | [] => .error (missingAfter before)
    | w :: rest =>
      let next (rest : List Bytes) : Valued := readSingle fuel (some w) rest
      match String.ofList w with
      | "+" =>
        match rest with
        | [] => .error (missingAfter (some w))
        | a :: rest => .ok (.text a, rest)
      | "length" =>
        (next rest).map fun (a, rest) => (.number a.toBytes.length, rest)
      | "match" =>
        (next rest).bind fun (a, rest) => (next rest).bind fun (b, rest) =>
          (matchStart a.toBytes b.toBytes).map fun v => (v, rest)
      | "index" =>
        (next rest).bind fun (a, rest) => (next rest).map fun (b, rest) =>
          let i := a.toBytes.findIdx? fun c => b.toBytes.contains c
          (.number (i.elim 0 (· + 1)), rest)
      | "substr" =>
        (next rest).bind fun (a, rest) => (next rest).bind fun (b, rest) =>
          (next rest).map fun (c, rest) =>
            match b.number?, c.number? with
            | some first, some size =>
              if first ≤ 0 || size ≤ 0 then (.text [], rest)
              else (.text ((a.toBytes.drop (first.toNat - 1)).take size.toNat), rest)
            | _, _ => (.text [], rest)
      | "(" =>
        (readLevels fuel valueOperators (some w) rest).bind fun (a, rest) =>
          match rest with
          | [')'] :: rest => .ok (a, rest)
          | [] => .error ⟨2, "syntax error: expecting ')' after '".toList ++ a.toBytes ++ ['\'']⟩
          | b :: _ =>
            .error ⟨2, "syntax error: expecting ')' instead of '".toList ++ b ++ ['\'']⟩
      | ")" => .error ⟨2, "syntax error: unexpected ')'".toList⟩
      | _ => .ok (.text w, rest)

end

/-- Evaluates an expression. -/
def evaluateWords (c : Call) : Program Nat :=
  let ws := if c.arguments.head? = some ['-', '-'] then c.arguments.drop 1 else c.arguments
  if ws = [] then c.misuse 2 "missing operand".toList
  else
    match readLevels (20 * (ws.length + 2)) valueOperators none ws with
    | .error e => c.refuse e.status e.words
    | .ok (v, []) => c.deliver (line v.toBytes) (if v.isNull then 1 else 0)
    | .ok (_, w :: _) =>
      c.refuse 2 ("syntax error: unexpected argument '".toList ++ w ++ ['\''])

end LinkWatch.Host.Utility
