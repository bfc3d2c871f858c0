import LinkWatch.Host.Record.Form
import LinkWatch.Host.Utility.Double

/-!
# The lexemes of a program on records

A slash starts an expression for matching where a value is expected, and divides where one has just
ended. A name directly before a parenthesis is that of a function.
-/

namespace LinkWatch.Host.Record

open LinkWatch.Text LinkWatch.Host.Utility

/-- A lexeme. -/
inductive Lexeme where
  | number (x : Float)
  | text (cs : Bytes)
  | pattern (cs : Bytes)
  | name (cs : Bytes)
  /-- The name of a function that is called. -/
  | caller (cs : Bytes)
  | function (f : Function)
  | keyword (name : String)
  | operator (text : String)
  | lineEnd
  | ending

/-- A lexeme with its line and its text. -/
structure Placed where
  lexeme : Lexeme
  line : Nat
  text : Bytes

/-- The words with a meaning of their own. -/
def keywords : List String :=
  ["BEGIN", "END", "function", "func", "if", "else", "while", "for", "do", "in", "next", "nextfile",
    "exit", "return", "break", "continue", "delete", "print", "printf", "getline"]

/-- The names of the functions that every program knows. -/
def functionNames : List (String × Function) :=
  [("length", .length), ("substr", .substr), ("index", .index), ("split", .split), ("sub", .sub),
    ("gsub", .gsub), ("match", .match), ("sprintf", .sprintf), ("sin", .sine), ("cos", .cosine),
    ("atan2", .arctangent), ("exp", .exponential), ("log", .logarithm), ("sqrt", .squareRoot),
    ("int", .integer), ("rand", .random), ("srand", .seed), ("tolower", .lower),
    ("toupper", .upper), ("system", .system), ("close", .close), ("fflush", .flush),
    ("systime", .time)]

/-- The operators, longer ones before their beginnings. -/
def operatorTexts : List String :=
  ["+=", "-=", "*=", "/=", "%=", "^=", "==", "<=", ">=", "!=", "!~", "++", "--", "&&", "||", ">>",
    "+", "-", "*", "/", "%", "^", "!", ">", "<", "|", "?", ":", "~", "$", "=", ",", ";", "(", ")",
    "[", "]", "\x7b", "\x7d"]

/-- A text between double quotes, without its escapes, and the rest; there is none if the text is
not ended. -/
def readQuotedText : Nat → Bytes → Option (Bytes × Bytes)
  | 0, _ => none
  | fuel + 1, cs =>
    let more (text : Bytes) (rest : Bytes) : Option (Bytes × Bytes) :=
      (readQuotedText fuel rest).map fun p => (text ++ p.1, p.2)
    match cs with
    | [] => none
    | '"' :: rest => some ([], rest)
    | '\n' :: _ => none
    | '\\' :: '\n' :: rest => more [] rest
    | '\\' :: 'x' :: rest =>
      match readHexadecimal? rest with
      | some (c, rest) => more [c] rest
      | none => more ['\\', 'x'] rest
    | '\\' :: c :: rest =>
      if isOctal c then let p := readOctal 3 (c :: rest); more [p.1] p.2
      else
        match c with
        | '"' => more ['"'] rest
        | 'e' => more ['\\', 'e'] rest
        | c => more (((simpleEscape? c).map fun d => [d]).getD ['\\', c]) rest
    | c :: rest => more [c] rest

/-- The text of an expression for matching up to its slash, and the rest. A slash between brackets,
or one after a backslash, is a part of it. -/
def readPatternText : Nat → Bool → Bytes → Option (Bytes × Bytes)
  | 0, _, _ => none
  | fuel + 1, inBracket, cs =>
    let more (text : Bytes) (inBracket : Bool) (rest : Bytes) : Option (Bytes × Bytes) :=
      (readPatternText fuel inBracket rest).map fun p => (text ++ p.1, p.2)
    match cs with
    | [] => none
    | '\n' :: _ => none
    | '\\' :: '/' :: rest => more ['/'] inBracket rest
    | '\\' :: c :: rest => more ['\\', c] inBracket rest
    | c :: rest =>
      if inBracket then more [c] (c ≠ ']') rest
      else if c = '/' then some ([], rest)
      else if c = '[' then
        let start : Bytes := match rest with
          | '^' :: ']' :: _ => ['^', ']']
          | '^' :: _ => ['^']
          | ']' :: _ => [']']
          | _ => []
        more (c :: start) true (rest.drop start.length)
      else more [c] false rest

/-- Whether a value may have ended with a lexeme. -/
def Lexeme.endsValue : Lexeme → Bool
  | .number _ => true
  | .text _ => true
  | .pattern _ => true
  | .name _ => true
  | .function .length => true
  | .operator o => o ∈ [")", "]", "++", "--"]
  | _ => false

/-- The lexemes of a program. -/
def lexemesOf : Nat → Nat → Bool → Bytes → Except Mistake (List Placed)
  | 0, line, _, _ => .ok [⟨.ending, line, []⟩]
  | fuel + 1, line, afterValue, cs =>
    let go (l : Lexeme) (text : Bytes) (rest : Bytes) : Except Mistake (List Placed) :=
      (lexemesOf fuel (line + text.count '\n') l.endsValue rest).map fun ls => ⟨l, line, text⟩ :: ls
    match cs with
    | [] => .ok [⟨.ending, line, []⟩]
    | '\\' :: '\n' :: rest => lexemesOf fuel (line + 1) afterValue rest
    | '\\' :: '\r' :: '\n' :: rest => lexemesOf fuel (line + 1) afterValue rest
    | '\n' :: rest =>
      (lexemesOf fuel (line + 1) false rest).map fun ls => ⟨.lineEnd, line, ['\n']⟩ :: ls
    | '#' :: _ => lexemesOf fuel line afterValue (cs.dropWhile (· ≠ '\n'))
    | c :: rest =>
      if c = ' ' || c = '\t' || c = '\r' then lexemesOf fuel line afterValue rest
      else if c.isDigit || (c = '.' && rest.head?.any Char.isDigit) then
        let (x, after) := readReal cs
        go (.number (floatOf x)) (cs.take (cs.length - after.length)) after
      else if isNameStart c then
        let word := cs.takeWhile isNameChar
        let after := cs.drop word.length
        let name := String.ofList word
        if name ∈ keywords then go (.keyword name) word after
        else
          match functionNames.lookup name with
          | some f => go (.function f) word after
          | none =>
            if after.head? = some '(' then go (.caller word) word after
            else go (.name word) word after
      else if c = '"' then
        match readQuotedText (rest.length + 1) rest with
        | some (text, after) => go (.text text) (cs.take (cs.length - after.length)) after
        | none => .error ⟨line, "runaway string constant ".toList ++ cs.take 11 ++ " ...".toList⟩
      else if c = '/' && !afterValue then
        match readPatternText (rest.length + 1) false rest with
        | some (text, after) => go (.pattern text) (cs.take (cs.length - after.length)) after
        | none => .error ⟨line, "runaway regular expression ".toList ++ cs.take 11 ++ " ...".toList⟩
      else
        match operatorTexts.find? fun o => o.toList.isPrefixOf cs with
        | some o => go (.operator o) o.toList (cs.drop o.length)
        | none => .error ⟨line, "unexpected character ".toList ++ inQuotes [c]⟩

/-- The expression of a text that programs on records use. -/
def patternStyle : RegexStyle :=
  { extended := true, matchesEndings := true, hasPlainBraces := true }

/-- Escapes of an expression for matching that stand for characters, without those that mean the
same there. -/
def patternText : Nat → Bytes → Bytes
  | 0, cs => cs
  | fuel + 1, cs =>
    match cs with
    | '\\' :: c :: rest =>
      if isOctal c then let p := readOctal 3 (c :: rest); '\\' :: p.1 :: patternText fuel p.2
      else
        match c with
        | '"' => '"' :: patternText fuel rest
        | '/' => '/' :: patternText fuel rest
        | '\\' => '\\' :: '\\' :: patternText fuel rest
        | 'a' => '\x07' :: patternText fuel rest
        | 'f' => '\x0c' :: patternText fuel rest
        | 'n' => '\n' :: patternText fuel rest
        | 'r' => '\r' :: patternText fuel rest
        | 't' => '\t' :: patternText fuel rest
        | 'v' => '\x0b' :: patternText fuel rest
        | c => '\\' :: c :: patternText fuel rest
    | c :: rest => c :: patternText fuel rest
    | [] => []

/-- The expression that a text stands for. -/
def readPattern (cs : Bytes) : Except String Regex :=
  (patternStyle.read (patternText (cs.length + 1) cs)).map (·.1)

end LinkWatch.Host.Record
