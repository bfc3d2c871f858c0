import LinkWatch.Host.Shell.Syntax
import LinkWatch.Host.Utility.Escape

/-!
# Tokens of a script

What a reader of scripts knows before it reads any command: the tokens and the reasons why a script
cannot be read, the state of a reader, and the cutting of texts at their closing marks.
-/

namespace LinkWatch.Host.Shell

open LinkWatch.Text LinkWatch.Host.Kernel

/-! ## Tokens -/

/-- A document whose body has not been read. -/
structure Waiting where
  number : Nat
  mark : Bytes
  /-- Whether tabs at the start of its lines are left out. -/
  tabs : Bool
  /-- Whether nothing in it has another value. -/
  verbatim : Bool

/-- A redirection whose word has not been read. -/
inductive Turn where
  | file (descriptor : Nat) (opening : Opening) (isForced : Bool)
  | copy (descriptor : Nat) (isInput : Bool)
  | document (descriptor : Nat) (tabs : Bool)
  | supply (descriptor : Nat)
  | both (opening : Opening)
  /-- One for a descriptor of which a variable tells the number. -/
  | named (name : Bytes) (turn : Turn)

/-- A token. -/
inductive Token where
  | word (parts : List Part)
  | reserved (name : String)
  | operator (text : String)
  | lineEnd
  | redirection (turn : Turn)
  | ending

/-- Why a script cannot be read. -/
inductive Flaw where
  | unexpected (found : Token) (wanted : String)
  /-- A mark that closes something is missing. -/
  | unclosed (mark : Char)
  | functionName
  | loopVariable
  | tooDeep

/-- A script that cannot be read. -/
structure Mistake where
  line : Nat
  flaw : Flaw

/-- What is left of a script, and what is known from the part that has been read. -/
structure Reader where
  rest : Bytes
  line : Nat := 1
  /-- A token that has been looked at and not taken. -/
  pushed : Option Token := none
  aliases : List (Bytes × Bytes) := []
  /-- Aliases in the middle of whose text the reader is, with the length of what follows it. -/
  replaced : List (Bytes × Nat) := []
  /-- The length of what follows the text of an alias that ends with a blank. The first word after
  that text may be an alias too. -/
  chain : Option Nat := none
  waiting : List Waiting := []
  documents : List (Nat × List Part) := []
  count : Nat := 0
  /-- Whether the language is the rich one. -/
  isRich : Bool := false
  /-- Whether patterns may have alternatives. -/
  hasGroups : Bool := false

/-- Reads something from a script. -/
abbrev Read := StateT Reader (Except Mistake)

/-- Gives up. -/
def mistaken {α : Type} (flaw : Flaw) : Read α := fun r =>
  .error ⟨r.line, flaw⟩

/-- A token as a message names it. -/
def Token.name : Token → String
  | .word _ => "word"
  | .reserved name => "\"" ++ name ++ "\""
  | .operator text => "\"" ++ text ++ "\""
  | .lineEnd => "newline"
  | .redirection _ => "redirection"
  | .ending => "end of file"

/-- A token as it stands in the script. -/
def Token.text : Token → Bytes
  | .word parts => literalText parts
  | .reserved name => name.toList
  | .operator text => text.toList
  | .lineEnd => "newline".toList
  | .redirection (.file 0 _ _) => ['<']
  | .redirection (.document _ _) => ['<', '<']
  | .redirection _ => ['>']
  | .ending => []

/-- Whether a token is the end of the text. -/
def Token.isEnding : Token → Bool
  | .ending => true
  | _ => false

/-- The words for a flaw in the common language. -/
def Flaw.commonWords : Flaw → Bytes
  | .unexpected found wanted =>
    let expectation := if wanted = "" then "" else " (expecting " ++ wanted ++ ")"
    ("Syntax error: " ++ found.name ++ " unexpected" ++ expectation).toList
  | .unclosed ')' => "Syntax error: Missing '))'".toList
  | .unclosed '\x60' => "Syntax error: EOF in backquote substitution".toList
  | .unclosed '\x7d' => "Syntax error: Missing '\x7d'".toList
  | .unclosed _ => "Syntax error: Unterminated quoted string".toList
  | .functionName => "Syntax error: Bad function name".toList
  | .loopVariable => "Syntax error: Bad for loop variable".toList
  | .tooDeep => "Syntax error: too deep".toList

/-- The words for a flaw in the rich language, and whether the line is shown with them. -/
def Flaw.richWords : Flaw → Bytes × Bool
  | .unexpected .ending _ => ("syntax error: unexpected end of file".toList, false)
  | .unexpected found _ =>
    ("syntax error near unexpected token \x60".toList ++ found.text ++ ['\''], true)
  | .unclosed mark =>
    ("unexpected EOF while looking for matching \x60".toList ++ [mark, '\''], false)
  | _ => ("syntax error".toList, true)

/-- Gives up at a token where another one, perhaps a certain one, is expected. -/
def unexpected {α : Type} (t : Token) (wanted : String) : Read α :=
  mistaken (.unexpected t wanted)

/-- A reserved word or an operator as a message names it. -/
def named (text : String) : String :=
  "\"" ++ text ++ "\""

/-! ## The reader -/

/-- The number of line ends in a text. -/
def countLines (cs : Bytes) : Nat :=
  cs.count '\n'

/-- Moves on over a text. -/
def Reader.advance (r : Reader) (cs : Bytes) : Reader :=
  { r with rest := r.rest.drop cs.length, line := r.line + countLines cs }

/-- Moves on over a text. -/
def advanceOver (cs : Bytes) : Read Unit :=
  modify (·.advance cs)

/-- Drops protected line ends, which mean nothing. -/
def dropContinuations : Nat → Bytes → Bytes × Nat
  | _, '\\' :: '\n' :: rest => let p := dropContinuations 0 rest; (p.1, p.2 + 1)
  | _, cs => (cs, 0)

/-- The rest of the script, after line ends that mean nothing. -/
def upcoming : Read Bytes := do
  let r ← get
  let p := dropContinuations 0 r.rest
  set { r with rest := p.1, line := r.line + p.2 }
  return p.1

/-- Puts a token back. -/
def pushBack (t : Token) : Read Unit :=
  modify fun r => { r with pushed := some t }

/-- What a token may be read as. -/
structure Expecting where
  /-- Whether line ends before it mean nothing. -/
  skipsLines : Bool := false
  keywords : Bool := false
  aliases : Bool := false

/-- At the start of a command. -/
def Expecting.command : Expecting :=
  { keywords := true, aliases := true }

/-- At the start of a command that may stand on a later line. -/
def Expecting.commandBelow : Expecting :=
  { skipsLines := true, keywords := true, aliases := true }

/-! ## Words -/

/-- Where parts of a word are read. -/
inductive Region where
  | plain
  | quotes
  /-- Between braces. -/
  | braces (quoted : Bool)
  /-- Between double quotes between braces that are quoted themselves. -/
  | inner
  | document
  | arithmetic (depth : Nat)
  /-- A pattern that may have alternatives between parentheses. -/
  | pattern
  /-- A regular expression. -/
  | regex
  /-- Between the parentheses of a pattern. -/
  | nested
  /-- A text that has been cut out, up to its end. -/
  | whole
  deriving DecidableEq

/-- Whether nothing is quoted in a region as long as no quotes are opened. -/
def Region.isBare (region : Region) : Bool :=
  region ∈ [.plain, .braces false, .pattern, .regex, .nested, .whole]

/-- Whether a word ends at a blank or an operator. -/
def Region.isWord (region : Region) : Bool :=
  region ∈ [.plain, .pattern, .regex]

/-- Characters that end a word. -/
def endsWord (c : Char) : Bool :=
  c ∈ [' ', '\t', '\n', ';', '&', '|', '<', '>', '(', ')']

/-- Characters that stand for themselves wherever parts are read. -/
def isOrdinary (c : Char) : Bool :=
  !endsWord c && !(c ∈ ['\\', '$', '\x60', '\'', '"', '\x7b', '\x7d'])

/-- Puts literal text in front of parts. -/
def withText (cs : Bytes) : List Part → List Part
  | .text ds :: rest => .text (cs ++ ds) :: rest
  | parts => if cs = [] then parts else .text cs :: parts

/-- Whether a backslash protects a character in a region. -/
def Region.protects (region : Region) (c : Char) : Bool :=
  match region with
  | .document => c ∈ ['\\', '\x60', '$']
  | .braces true => c ∈ ['\\', '\x60', '$', '"', '\x7d']
  | .inner => c ∈ ['\\', '\x60', '$', '"', '\x7d']
  | .quotes => c ∈ ['\\', '\x60', '$', '"']
  | .arithmetic _ => c ∈ ['\\', '\x60', '$', '"']
  | _ => true

/-- The mark that is missing where a text ends within a region. -/
def Region.closing? (region : Region) : Option Char :=
  match region with
  | .arithmetic _ => some ')'
  | .nested => some ')'
  | .braces false => some '\x7d'
  | .quotes => some '"'
  | .inner => some '"'
  | .braces true => some '"'
  | _ => none

/-- Parameters of one character that are not letters. -/
def isSpecialName (c : Char) : Bool :=
  c.isDigit || c ∈ ['@', '*', '#', '?', '-', '$', '!']

/-- The words that have a meaning of their own where a command is expected. -/
def reservedWords : List String :=
  ["!", "case", "do", "done", "elif", "else", "esac", "fi", "for", "if", "in", "then", "until",
    "while", "\x7b", "\x7d"]

/-- The words that have a meaning of their own in the rich language only. -/
def richWords : List String :=
  ["[[", "]]", "function", "select", "time", "coproc"]

/-- The commands that belong to the language itself; a mistake in one of them ends the shell. -/
def specialNames : List String :=
  [".", ":", "break", "continue", "eval", "exec", "exit", "export", "readonly", "return", "set",
    "shift", "times", "trap", "unset"]

/-- The commands whose arguments may be lists of values. -/
def declaringNames : List String :=
  ["declare", "typeset", "local", "export", "readonly"]

/-! ## Operators and redirections -/

/-- The operators, longer ones before their beginnings. -/
def operators (isRich : Bool) : List String :=
  (if isRich then [";;&", ";&", "|&"] else []) ++ ["&&", "||", ";;", ";", "&", "|", "(", ")"]

/-- The redirections, longer ones before their beginnings, each with what it does. -/
def turns : List (String × (Nat → Turn)) :=
  [("<<-", (.document · true)), ("<<", (.document · false)), ("<&", (.copy · true)),
    ("<>", (.file · .both false)), ("<", (.file · .read false)), (">>", (.file · .append false)),
    (">&", (.copy · false)), (">|", (.file · .write true)), (">", (.file · .write false))]

/-- The redirections of the rich language. -/
def richTurns : List (String × (Nat → Turn)) :=
  [("<<<", .supply), ("&>>", fun _ => .both .append), ("&>", fun _ => .both .write)]

/-- The redirection that a text starts with. The descriptor may be given; else it depends on the
direction. -/
def turnAt? (isRich : Bool) (descriptor : Option Nat) (cs : Bytes) : Option (Turn × Bytes) :=
  ((if isRich then richTurns else []) ++ turns).findSome? fun t =>
    let mark := t.1.toList
    if mark.isPrefixOf cs && !(descriptor.isSome && mark.head? = some '&') then
      let usual := if mark.head? = some '<' then 0 else 1
      some (t.2 (descriptor.getD usual), mark)
    else none

/-- The redirection that a text starts with, of a descriptor of which a variable tells the number:
the name of the variable, the redirection, and the text of both. -/
def namedTurnAt? (cs : Bytes) : Option (Turn × Bytes) :=
  match cs with
  | '\x7b' :: rest =>
    let name := rest.takeWhile isNameChar
    match rest.drop name.length with
    | '\x7d' :: after =>
      if isName name then
        match turnAt? true (some 10) after with
        | some (turn, mark) => some (.named name turn, '\x7b' :: name ++ '\x7d' :: mark)
        | none => none
      else none
    | _ => none
  | _ => none

/-- Whether a text starts with the path by which a command is read or written. -/
def startsStream (cs : Bytes) : Bool :=
  match cs with
  | '<' :: '(' :: _ => true
  | '>' :: '(' :: _ => true
  | _ => false

/-! ## Cutting texts -/

/-- Cuts a script in back quotes at its end, and takes the protection from what is protected in
it. -/
def cutBackQuote (quoted : Bool) : Bytes → Option (Bytes × Bytes)
  | [] => none
  | '\x60' :: rest => some ([], rest)
  | '\\' :: '\n' :: rest => cutBackQuote quoted rest
  | '\\' :: c :: rest =>
    let kept := if c ∈ ['\x60', '\\', '$'] || (quoted && c = '"') then [c] else ['\\', c]
    (cutBackQuote quoted rest).map fun p => (kept ++ p.1, p.2)
  | c :: rest => (cutBackQuote quoted rest).map fun p => (c :: p.1, p.2)

/-- The lines of a document up to its mark, and what follows. A line that ends with a backslash goes
on in the next one, which then is no mark. -/
def cutDocument (w : Waiting) : Nat → Bool → Bytes → Bytes × Bytes
  | 0, _, cs => ([], cs)
  | fuel + 1, continued, cs =>
    if cs = [] then ([], [])
    else
      let cs := if w.tabs then cs.dropWhile (· = '\t') else cs
      let text := cs.takeWhile (· ≠ '\n')
      let after := cs.drop (text.length + 1)
      if text = w.mark && !continued then ([], after)
      else
        let slashes := (text.reverse.takeWhile (· = '\\')).length
        let p := cutDocument w fuel (!w.verbatim && slashes % 2 = 1) after
        (text ++ (if text.length < cs.length then ['\n'] else []) ++ p.1, p.2)

/-- Cuts a text at the bracket that closes it. Brackets within it come in pairs, and quotes are kept
with what they protect. -/
def cutBracket : Nat → Option Char → Bytes → Option (Bytes × Bytes)
  | _, _, [] => none
  | depth, none, c :: rest =>
    let go (depth : Nat) (quote : Option Char) : Option (Bytes × Bytes) :=
      (cutBracket depth quote rest).map fun p => (c :: p.1, p.2)
    match c with
    | ']' => if depth = 0 then some ([], rest) else go (depth - 1) none
    | '[' => go (depth + 1) none
    | '\'' => go depth (some '\'')
    | '"' => go depth (some '"')
    | '\\' => go depth (some '\\')
    | _ => go depth none
  | depth, some q, c :: rest =>
    let stays := c ≠ q && q ≠ '\\'
    (cutBracket depth (if stays then some q else none) rest).map fun p => (c :: p.1, p.2)

/-- Cuts a text at the two parentheses that close it together. -/
def cutDouble : Nat → Bytes → Option (Bytes × Bytes)
  | _, [] => none
  | 0, ')' :: rest =>
    match rest with
    | ')' :: after => some ([], after)
    | _ => none
  | depth, c :: rest =>
    let depth := if c = '(' then depth + 1 else if c = ')' then depth - 1 else depth
    (cutDouble depth rest).map fun p => (c :: p.1, p.2)

/-- The place that is named after the name of a variable where a value is assigned: the name, what
stands between the brackets, and the rest, which starts with the operator. -/
def placeAt? (cs : Bytes) : Option (Bytes × Bytes × Bytes) :=
  let name := cs.takeWhile isNameChar
  match cs.drop name.length with
  | '[' :: rest =>
    match cutBracket 0 none rest with
    | some (key, after) =>
      let assigns := match after with
        | '=' :: _ => true
        | '+' :: '=' :: _ => true
        | _ => false
      if assigns && !cs.head?.any Char.isDigit then some (name, key, after) else none
    | none => none
  | _ => none

/-- The escape after a backslash in a text between a dollar sign and quotes: what it stands for, and
the rest. -/
def dollarEscape (cs : Bytes) : Bytes × Bytes :=
  match cs with
  | [] => (['\\'], [])
  | '\'' :: rest => (['\''], rest)
  | '"' :: rest => (['"'], rest)
  | '?' :: rest => (['?'], rest)
  | 'E' :: rest => (['\x1b'], rest)
  | 'c' :: c :: rest => ([Char.ofNat (c.toUpper.toNat % 32)], rest)
  | _ => Utility.readEscape .system cs

/-- Cuts a text after a dollar sign and a quote at its end, with its escapes resolved. -/
def cutDollarQuote : Nat → Bytes → Option (Bytes × Bytes)
  | 0, _ => none
  | fuel + 1, cs =>
    match cs with
    | [] => none
    | '\'' :: rest => some ([], rest)
    | '\\' :: rest =>
      let p := dollarEscape rest
      (cutDollarQuote fuel p.2).map fun q => (p.1 ++ q.1, q.2)
    | c :: rest => (cutDollarQuote fuel rest).map fun q => (c :: q.1, q.2)

/-! ## Parameters between braces -/

/-- The operation between the braces of a parameter, and the text that names it. A trimming
operation comes doubled for the longest match. -/
def formAt? (cs : Bytes) : Option (Form × Bool × Bytes) :=
  match cs with
  | '%' :: '%' :: _ => some (.trimmed true true, false, ['%', '%'])
  | '%' :: _ => some (.trimmed true false, false, ['%'])
  | '#' :: '#' :: _ => some (.trimmed false true, false, ['#', '#'])
  | '#' :: _ => some (.trimmed false false, false, ['#'])
  | ':' :: '-' :: _ => some (.missing, true, [':', '-'])
  | ':' :: '=' :: _ => some (.assigned, true, [':', '='])
  | ':' :: '+' :: _ => some (.present, true, [':', '+'])
  | ':' :: '?' :: _ => some (.demanded, true, [':', '?'])
  | '-' :: _ => some (.missing, false, ['-'])
  | '=' :: _ => some (.assigned, false, ['='])
  | '+' :: _ => some (.present, false, ['+'])
  | '?' :: _ => some (.demanded, false, ['?'])
  | _ => none

/-- The operation of the rich language between the braces of a parameter. -/
def richFormAt? (cs : Bytes) : Option (Form × Bytes) :=
  match cs with
  | ':' :: _ => some (.sliced, [':'])
  | '/' :: '/' :: _ => some (.replaced .every, ['/', '/'])
  | '/' :: '#' :: _ => some (.replaced .atStart, ['/', '#'])
  | '/' :: '%' :: _ => some (.replaced .atEnd, ['/', '%'])
  | '/' :: _ => some (.replaced .first, ['/'])
  | '^' :: '^' :: _ => some (.recased .upper true, ['^', '^'])
  | '^' :: _ => some (.recased .upper false, ['^'])
  | ',' :: ',' :: _ => some (.recased .lower true, [',', ','])
  | ',' :: _ => some (.recased .lower false, [','])
  | '~' :: '~' :: _ => some (.recased .swapped true, ['~', '~'])
  | '~' :: _ => some (.recased .swapped false, ['~'])
  | '@' :: c :: '\x7d' :: _ =>
    if c ∈ "QEPAKkaULu".toList then some (.shown c, ['@', c]) else none
  | _ => none

/-- The name of a parameter at the start of a text. -/
def plainName? (cs : Bytes) : Option Bytes :=
  match cs with
  | c :: _ =>
    if isNameStart c then some (cs.takeWhile isNameChar)
    else if c.isDigit then some (cs.takeWhile Char.isDigit)
    else if isSpecialName c then some [c]
    else none
  | [] => none

/-- The name of a parameter between braces, and whether its length is asked for. -/
def bracedName? (cs : Bytes) : Option (Bytes × Bool × Bytes) :=
  match cs with
  | '#' :: '\x7d' :: _ => some (['#'], false, ['#'])
  | '#' :: rest =>
    match plainName? rest with
    | some name =>
      if (rest.drop name.length).head? = some '\x7d' then some (name, true, '#' :: name)
      else some (['#'], false, ['#'])
    | none => some (['#'], false, ['#'])
  | _ => (plainName? cs).map fun name => (name, false, name)

/-- A parameter between braces in the rich language. -/
structure Braced where
  name : Bytes
  isLength : Bool := false
  isIndirect : Bool := false
  /-- What stands between the brackets after the name. -/
  key : Option Bytes := none
  /-- The text that names the parameter. -/
  text : Bytes

/-- The name between braces in the rich language, with what stands around it. -/
def richBraced? (cs : Bytes) : Option Braced :=
  let keyed (name : Bytes) : Option (Bytes × Bytes) :=
    match cs.drop name.length with
    | '[' :: rest =>
      (cutBracket 0 none rest).map fun p =>
        (p.1, name ++ '[' :: p.1 ++ [']'])
    | _ => none
  match cs with
  | '#' :: rest =>
    match plainName? rest with
    | some name =>
      match rest.drop name.length with
      | '\x7d' :: _ => some { name := name, isLength := true, text := '#' :: name }
      | '[' :: after =>
        match cutBracket 0 none after with
        | some (key, _) =>
          some { name := name, isLength := true, key := some key,
                 text := '#' :: name ++ '[' :: key ++ [']'] }
        | none => some { name := ['#'], text := ['#'] }
      | _ => some { name := ['#'], text := ['#'] }
    | none => some { name := ['#'], text := ['#'] }
  | '!' :: rest =>
    let second := rest.head?.getD ' '
    if isNameStart second || second.isDigit || "#\x7d".toList.isPrefixOf rest then
      let name := (plainName? rest).getD []
      match rest.drop name.length with
      | '[' :: after =>
        match cutBracket 0 none after with
        | some (key, _) =>
          some { name := name, isIndirect := true, key := some key,
                 text := '!' :: name ++ '[' :: key ++ [']'] }
        | none => none
      | _ => some { name := name, isIndirect := true, text := '!' :: name }
    else some { name := ['!'], text := ['!'] }
  | _ =>
    (plainName? cs).map fun name =>
      match if isNameStart (cs.headD ' ') then keyed name else none with
      | some (key, text) => { name := name, key := some key, text := text }
      | none => { name := name, text := name }

/-- Parts divided at the first place where a character stands unquoted. -/
def cutParts (mark : Char) : List Part → Option (List Part × List Part)
  | [] => none
  | .text cs :: rest =>
    match Text.cutAt? mark cs with
    | some (before, after) =>
      some (if before = [] then [] else [.text before], if after = [] then rest
        else .text after :: rest)
    | none => (cutParts mark rest).map fun p => (.text cs :: p.1, p.2)
  | p :: rest => (cutParts mark rest).map fun q => (p :: q.1, q.2)

/-- The place of the colon between an offset and a length: outside of parentheses, and no part of a
choice. -/
def colonPlace : Nat → Nat → Bytes → Option Nat
  | _, _, [] => none
  | depth, choices, c :: rest =>
    let go (depth choices : Nat) : Option Nat := (colonPlace depth choices rest).map (· + 1)
    match c with
    | '(' => go (depth + 1) choices
    | ')' => go (depth - 1) choices
    | '?' => go depth (choices + 1)
    | ':' => if depth = 0 && choices = 0 then some 0 else go depth (choices - 1)
    | _ => go depth choices

/-- The parts of an offset and of a length. -/
def cutSlice : List Part → List Part × Option (List Part)
  | .text cs :: rest =>
    match colonPlace 0 0 cs with
    | some n =>
      let after := cs.drop (n + 1)
      ([.text (cs.take n)], some (if after = [] then rest else .text after :: rest))
    | none =>
      let p := cutSlice rest
      (.text cs :: p.1, p.2)
  | p :: rest =>
    let q := cutSlice rest
    (p :: q.1, q.2)
  | [] => ([], none)

end LinkWatch.Host.Shell
