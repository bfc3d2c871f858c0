import LinkWatch.Decimal.Fixed
import LinkWatch.Host.Shell.Contents

/-!
# Quoting

A value is written so that the shell would read it back: with a backslash before what means
something, between single or double quotes, or with escapes where it holds characters that cannot be
seen.
-/

namespace LinkWatch.Host.Shell

open LinkWatch.Text LinkWatch.Decimal

/-- Whether a text holds characters that can only be written as escapes. -/
def needsEscapes (cs : Bytes) : Bool :=
  cs.any fun c => c.toNat < 32 || 126 < c.toNat

/-- A text between quotes after a dollar sign, with escapes. -/
def dollarQuoted (cs : Bytes) : Bytes :=
  let escape (c : Char) : Bytes :=
    match c with
    | '\x07' => ['\\', 'a']
    | '\x08' => ['\\', 'b']
    | '\x1b' => ['\\', 'E']
    | '\x0c' => ['\\', 'f']
    | '\n' => ['\\', 'n']
    | '\r' => ['\\', 'r']
    | '\t' => ['\\', 't']
    | '\x0b' => ['\\', 'v']
    | '\\' => ['\\', '\\']
    | '\'' => ['\\', '\'']
    | c =>
      if c.toNat < 32 || 126 < c.toNat then '\\' :: padLeft 3 '0' (Nat.toDigits 8 c.toNat) else [c]
  ['$', '\''] ++ cs.flatMap escape ++ ['\'']

/-- Whether a character means something wherever it stands in a script. -/
def isSignificant (c : Char) : Bool :=
  c ∈ [' ', '\t', '\n', '!', '"', '$', '&', '\'', '(', ')', '*', ',', ';', '<', '>', '?', '[', '\\',
    ']', '^', '\x60', '\x7b', '|', '\x7d']

/-- A text with a backslash before every character that means something. -/
def withBackslashes (before : Option Char) : Bytes → Bytes
  | [] => []
  | c :: rest =>
    let isSpecial := isSignificant c || (c = '#' && before.isNone)
      || (c = '~' && before ∈ [none, some ':', some '='])
    (if isSpecial then ['\\', c] else [c]) ++ withBackslashes (some c) rest

/-- A text as a word of a script. -/
def asWord (cs : Bytes) : Bytes :=
  if cs = [] then ['\'', '\'']
  else if needsEscapes cs then dollarQuoted cs
  else withBackslashes none cs

/-- A text between single quotes, each of which is written outside of them where it occurs. -/
def betweenQuotes (cs : Bytes) : Bytes :=
  '\'' :: cs.flatMap (fun c => if c = '\'' then ['\'', '\\', '\'', '\''] else [c]) ++ ['\'']

/-- A text between quotes, from which it can be read back. -/
def reusable (cs : Bytes) : Bytes :=
  if needsEscapes cs then dollarQuoted cs
  else if cs = ['\''] then ['\\', '\'']
  else betweenQuotes cs

/-- A text between double quotes, or with escapes. -/
def inDeclaration (cs : Bytes) : Bytes :=
  if needsEscapes cs then dollarQuoted cs
  else
    let protect (c : Char) : Bytes := if c ∈ ['"', '$', '\\', '\x60'] then ['\\', c] else [c]
    '"' :: cs.flatMap protect ++ ['"']

/-- Whether a text can stand in a script as it is. -/
def isUnquoted (cs : Bytes) : Bool :=
  cs.all (fun c => !isSignificant c || c = ',') && !cs.head?.any ['#', '~'].contains

/-- A word as the trace of commands shows it. -/
def tracedWord (cs : Bytes) : Bytes :=
  if cs = [] then ['\'', '\'']
  else if !isUnquoted cs then betweenQuotes cs
  else if needsEscapes cs then dollarQuoted cs
  else cs

/-- A value of a variable as the trace of commands shows it. -/
def tracedValue (cs : Bytes) : Bytes :=
  if cs = [] then [] else tracedWord cs

/-- A name between brackets, quoted if that is necessary. -/
def inBrackets (isName : Bool) (cs : Bytes) : Bytes :=
  let isPlain := cs ≠ [] && !needsEscapes cs && isUnquoted cs && cs ≠ ['@'] && cs ≠ ['*']
  '[' :: (if isName && !isPlain then inDeclaration cs else cs) ++ [']']

/-- The values of a variable between parentheses. -/
def listed (c : Contents) : Bytes :=
  let isName := match c with
    | .table _ => true
    | _ => false
  let items := c.entries.map fun e => inBrackets isName e.1 ++ '=' :: inDeclaration e.2
  '(' :: joinWith [' '] items ++ (if isName && items ≠ [] then [' '] else []) ++ [')']

/-- What a variable holds as it is declared. -/
def declaredValue (c : Contents) : Bytes :=
  match c with
  | .nothing => []
  | .text value => '=' :: inDeclaration value
  | c => '=' :: listed c

/-- A value as it is shown in the list of all variables. -/
def inListing (cs : Bytes) : Bytes :=
  if needsEscapes cs then dollarQuoted cs
  else if cs = [] || isUnquoted cs then cs
  else betweenQuotes cs

end LinkWatch.Host.Shell
