import LinkWatch.Host.Shell.Switches
import LinkWatch.Host.Shell.Variables
import LinkWatch.Host.Utility.Regex

/-!
# Conditions of the rich language

A condition compares texts with patterns, expressions with each other, or asks about one text. Words
in it are neither divided nor replaced by paths.
-/

namespace LinkWatch.Host.Shell

open LinkWatch.Text LinkWatch.Host.Kernel LinkWatch.Host.Utility

/-- How the regular expressions of conditions are written. -/
def queryStyle (ignoresCase : Bool) : RegexStyle :=
  { extended := true, ignoresCase := ignoresCase, matchesEndings := true }

/-- The text of a regular expression: what is quoted stands for itself. -/
def regexText (gs : List Glyph) : Bytes :=
  gs.flatMap fun g =>
    if g.literal && !g.char.isAlphanum && g.char ≠ '_' && g.char.toNat < 128 && g.char ≠ '\n'
    then ['\\', g.char] else [g.char]

/-- Looks for a regular expression in a text, and keeps what its groups match. -/
def matchRegex (text : Bytes) (gs : List Glyph) : Act Bool := do
  let s ← get
  let name : Bytes := "BASH_REMATCH".toList
  match (queryStyle (s.switched "nocasematch")).read (regexText gs) with
  | .error _ => throw (.fault 2)
  | .ok (r, groups) =>
    match r.search (Spot.start text) with
    | none =>
      set (s.put name (.row []))
      return false
    | some o =>
      let parts := (List.range (groups + 1)).map fun i =>
        if i = 0 then o.text else (o.groups.lookup i).getD []
      set (s.put name (rowOf parts))
      return true

/-- The number that an operand of a comparison stands for. -/
def operandNumber (text : Bytes) : Act Int := do
  match ← reckonRich text with
  | .ok n => return n
  | .error f =>
    warn ("[[: ".toList ++ flawWords text f)
    throw (.fault 1)

/-- Whether a condition with one operand holds. -/
def asksSole (operator : String) (text : Bytes) : Act Bool := do
  let s ← get
  match operator with
  | "-z" => return text = []
  | "-n" => return text ≠ []
  | "-v" => isSet text
  | "-o" => return (richOptions.find? fun o => o.1.toList = text).any s.isOn
  | "-R" => return (s.binding? text).any fun b => b.traits.contains 'n'
  | operator =>
    let operator := if operator = "-a" then "-e" else if operator = "-h" then "-L" else operator
    match ← ask (.files fun t => (askSole .system t operator text, t)) with
    | .ok b => return b
    | .error _ => return false

/-- A text as the trace of conditions shows it. -/
def tracedOperand (cs : Bytes) : Bytes :=
  if cs = [] then ['\'', '\''] else cs

/-- A pattern as the trace of conditions shows it. -/
def tracedPattern (gs : List Glyph) : Bytes :=
  tracedOperand (gs.flatMap fun g => if g.literal then ['\\', g.char] else [g.char])

/-- Whether a condition holds. Conditions without others in them are noted with what they ask. -/
def decides (sub : Substitute) (note : Bytes → Act Unit) (isNegated : Bool) : Query → Act Bool
  | .not q => do return !(← decides sub note true q)
  | .group q => decides sub note false q
  | .both a b => do
    if ← decides sub note false a then decides sub note false b else return false
  | .either a b => do
    if ← decides sub note false a then return true else decides sub note false b
  | .sole operator w => do
    let text := glyphText (← expandWhole sub w.parts)
    note (mark ++ operator.toList ++ ' ' :: tracedOperand text)
    asksSole operator text
  | .pair operator a b => do
    let left := glyphText (← expandWhole sub a.parts)
    let right ← expandWhole sub b.parts
    let text := glyphText right
    let shown := if ["=", "==", "!=", "=~"].contains operator then tracedPattern right
      else tracedOperand text
    note (mark ++ tracedOperand left ++ ' ' :: operator.toList ++ ' ' :: shown)
    let s ← get
    let fits : Bool := (matcherOf { s.shapeStyle with hasGroups := true } right).isMatch left
    let numbers (f : Int → Int → Bool) : Act Bool := do
      let m ← operandNumber left
      let n ← operandNumber text
      return f m n
    match operator with
    | "==" => return fits
    | "=" => return fits
    | "!=" => return !fits
    | "=~" => matchRegex left right
    | "<" => return isBefore left text
    | ">" => return isBefore text left
    | "-eq" => numbers fun m n => m = n
    | "-ne" => numbers fun m n => m ≠ n
    | "-lt" => numbers fun m n => m < n
    | "-le" => numbers fun m n => m ≤ n
    | "-gt" => numbers fun m n => m > n
    | "-ge" => numbers fun m n => m ≥ n
    | operator =>
      match ← ask (.files fun t => (comparePair .system t operator left text, t)) with
      | .ok b => return b
      | .error _ => return false
where
  /-- The mark of a condition that must not hold. -/
  mark : Bytes := if isNegated then ['!', ' '] else []

end LinkWatch.Host.Shell
