import LinkWatch.Host.Sigil.Form
import LinkWatch.Host.Sigil.Value

/-!
# The characters of programs with marked names

What stands next in a program depends on what has been read before: the same character may start a
value or be an operator. So programs are read character by character, and this module holds the
smallest steps.
-/

namespace LinkWatch.Host.Sigil

open LinkWatch.Text LinkWatch.Host.Utility

/-- A program that is being read: what is left of it, and how many line ends it has had in all. -/
structure Script where
  rest : Bytes
  breaks : Nat
  /-- The package whose routines are being read; none for the main one. -/
  package : Bytes := []

/-- What is wrong with a program. -/
inductive Flaw where
  /-- Something cannot stand where it does. -/
  | unexpected (words shown : Bytes)
  /-- A text has no end. -/
  | unended (words : Bytes)
  /-- A module that is asked for is not there. -/
  | missing (name : Bytes)

/-- What is wrong with a program, and in which line. -/
structure Mistake where
  line : Nat
  flaw : Flaw

/-- A step of reading. -/
abbrev Read := StateT Script (Except Mistake)

/-- The line that is being read. -/
def Script.line (s : Script) : Nat :=
  s.breaks + 1 - s.rest.count '\n'

/-- Text without blanks and comments at its start. -/
def skipBlanksFrom : Nat → Bytes → Bytes
  | 0, cs => cs
  | fuel + 1, cs =>
    match cs with
    | '#' :: rest => skipBlanksFrom fuel (rest.dropWhile (· ≠ '\n'))
    | '\n' :: '=' :: c :: rest =>
      if c.isAlpha then
        let after := match cut? "\n=cut".toList (c :: rest) with
          | some (_, after) => after.dropWhile (· ≠ '\n')
          | none => []
        skipBlanksFrom fuel after
      else '=' :: c :: rest
    | c :: rest => if isSpaceChar c then skipBlanksFrom fuel rest else cs
    | [] => []

/-- What stands next, after blanks and comments. -/
def peek : Read Bytes := do
  let s ← get
  let rest := skipBlanksFrom (s.rest.length + 1) s.rest
  set { s with rest := rest }
  return rest

/-- Gives up at what stands next. -/
def fail {α : Type} (words : String) : Read α := do
  let s ← get
  let near := s.rest.takeWhile (· ≠ '\n')
  let shown : Bytes := if words ≠ "syntax error" then []
    else if s.rest = [] then ", at EOF".toList
    else ", near \"".toList ++ near ++ (if near.length < s.rest.length then ['\n', '"'] else ['"'])
  throw ⟨s.line, .unexpected words.toList shown⟩

/-- Goes on at a text. -/
def goTo (cs : Bytes) : Read Unit :=
  modify fun s => { s with rest := cs }

/-- Whether some text stands next. -/
def isAhead (text : String) : Read Bool := do
  return text.toList.isPrefixOf (← peek)

/-- Takes a text if it stands next. -/
def accept (text : String) : Read Bool := do
  match stripPrefix? text.toList (← peek) with
  | some rest =>
    goTo rest
    return true
  | none => return false

/-- Takes a text that has to stand next. -/
def expect (text : String) : Read Unit := do
  if !(← accept text) then fail "syntax error"

/-- A name at the start of a text, with the names of packages before it. -/
def nameAt (cs : Bytes) : Bytes :=
  match cs with
  | c :: _ =>
    if !isNameStart c then []
    else
      let rec go : Nat → Bytes → Bytes
        | 0, _ => []
        | fuel + 1, cs =>
          let part := cs.takeWhile isNameChar
          match cs.drop part.length with
          | ':' :: ':' :: d :: rest =>
            if isNameStart d then part ++ ':' :: ':' :: go fuel (d :: rest) else part
          | _ => part
      go (cs.length + 1) cs
  | [] => []

/-- The name of a variable without the package that all are in. -/
def plainName (name : Bytes) : Bytes :=
  (stripPrefix? "main::".toList name).getD name

/-- Takes a word if it stands next. -/
def acceptWord (word : String) : Read Bool := do
  let rest ← peek
  if nameAt rest = word.toList then
    goTo (rest.drop word.length)
    return true
  else return false

/-! ## Texts between marks -/

/-- The mark that ends what another one begins. -/
def closing (c : Char) : Char :=
  match c with
  | '(' => ')'
  | '[' => ']'
  | '<' => '>'
  | '\x7b' => '\x7d'
  | c => c

/-- The text up to a closing mark, and what follows. -/
def untilMark (start stop : Char) : Nat → Nat → Bytes → Bytes → Option (Bytes × Bytes)
  | 0, _, _, _ => none
  | fuel + 1, depth, out, cs =>
    match cs with
    | [] => none
    | '\\' :: c :: rest =>
      if start = stop && c = stop then untilMark start stop fuel depth (c :: out) rest
      else untilMark start stop fuel depth (c :: '\\' :: out) rest
    | c :: rest =>
      if c = stop then
        if depth = 0 then some (out.reverse, rest)
        else untilMark start stop fuel (depth - 1) (c :: out) rest
      else if c = start then untilMark start stop fuel (depth + 1) (c :: out) rest
      else untilMark start stop fuel depth (c :: out) rest

/-- Reads a text between marks; the first one tells what the last one is. -/
def readMarked : Read (Char × Bytes) := do
  let s ← get
  let rest ← if s.rest.head? = some '#' then pure s.rest else peek
  match rest with
  | [] => fail "syntax error"
  | c :: rest =>
    match untilMark c (closing c) (rest.length + 1) 0 [] rest with
    | some (text, rest) =>
      goTo rest
      return (c, text)
    | none =>
      throw ⟨s.line, .unended ("Can't find string terminator ".toList
        ++ (if closing c = '"' then ['\'', '"', '\''] else ['"', closing c, '"'])
        ++ " anywhere before EOF".toList)⟩

/-- A text whose escapes are only those of the backslash and the mark. -/
def withoutEscapes (mark : Char) : Bytes → Bytes
  | '\\' :: c :: rest =>
    if c = '\\' || c = mark || c = closing mark then c :: withoutEscapes mark rest
    else '\\' :: c :: withoutEscapes mark rest
  | c :: rest => c :: withoutEscapes mark rest
  | [] => []

/-- Letters that follow directly. -/
def readFlags : Read Bytes := do
  let s ← get
  let flags := s.rest.takeWhile Char.isAlpha
  goTo (s.rest.drop flags.length)
  return flags

/-! ## Numbers -/

/-- A number at the start of a text. -/
def numberTerm (cs : Bytes) : Term × Bytes :=
  let based (base : Nat) (cs : Bytes) : Term × Bytes :=
    let digits := cs.takeWhile fun c => digitValue c < base || c = '_'
    (.whole (readBased base (digits.filter (· ≠ '_'))).1, cs.drop digits.length)
  match cs with
  | '0' :: 'x' :: rest => based 16 rest
  | '0' :: 'b' :: rest => based 2 rest
  | _ =>
    let lead := cs.takeWhile fun c => c.isDigit || c = '_'
    let after := cs.drop lead.length
    let fraction := match after with
      | '.' :: '.' :: _ => []
      | '.' :: rest => '.' :: rest.takeWhile fun c => c.isDigit || c = '_'
      | _ => []
    let after := after.drop fraction.length
    let power := match after with
      | e :: rest =>
        if e = 'e' || e = 'E' then
          let (sign, rest) := match rest with
            | '+' :: rest => (['+'], rest)
            | '-' :: rest => (['-'], rest)
            | rest => ([], rest)
          let digits := rest.takeWhile Char.isDigit
          if digits = [] then [] else e :: sign ++ digits
        else []
      | [] => []
    let rest := after.drop power.length
    let digits := lead.filter (· ≠ '_')
    if fraction = [] && power = [] then
      if digits.head? = some '0' && 1 < digits.length then
        (.whole (readBased 8 (digits.drop 1)).1, rest)
      else
        match (countAt digits) with
        | .whole n => (.whole n, rest)
        | .real x => (.real x, rest)
    else
      let text := digits ++ fraction.filter (· ≠ '_') ++ power
      (.real (floatOf (readReal (if digits = [] then '0' :: text else text)).1), rest)

/-! ## Operators -/

/-- The operators between two values, with how tightly they bind, and whether they are grouped from
the right. -/
def operatorLevels : List (Fin 20 × List String) :=
  [(0, ["..", "..."]), (1, ["||", "//"]), (2, ["&&"]), (3, ["|", "^"]), (4, ["&"]),
    (5, ["==", "!=", "<=>", "eq", "ne", "cmp"]),
    (6, ["<", ">", "<=", ">=", "lt", "gt", "le", "ge"]), (8, ["<<", ">>"]), (9, ["+", "-", "."]),
    (10, ["*", "/", "%", "x"]), (11, ["=~", "!~"])]

/-- How tightly an operator binds. -/
def levelOf? (o : String) : Option (Fin 20) :=
  (operatorLevels.find? fun l => l.2.contains o).map (·.1)

/-- The marks that can be operators, longer ones first. -/
def operatorMarks : List String :=
  ["<=>", "**=", "||=", "&&=", "//=", "...", "<<=", ">>=", "->", "++", "--", "**", "=~", "!~", "==",
    "!=", "<=", ">=", "&&", "||", "//", "..", "+=", "-=", "*=", "/=", ".=", "%=", "x=", "&=", "|=",
    "^=", "<<", ">>", "=>", "+", "-", "*", "/", "%", "=", "<", ">", "!", "~", "?", ":", ".", "|",
    "&", "^", ",", ";", ")", "]", "\x7d"]

/-- The operator at the start of a text, and what follows. -/
def operatorAt (cs : Bytes) : Option (String × Bytes) :=
  let name := nameAt cs
  let word := String.ofList name
  let repeats := cs.head? = some 'x' && (name.drop 1).all Char.isDigit
  if repeats then
    let after := cs.drop 1
    let isUpdate := after.head? = some '='
      && !(["==", "=~", "=>"].any fun (o : String) => o.toList.isPrefixOf after)
    if isUpdate then some ("x=", after.drop 1) else some ("x", after)
  else if name ≠ [] then
    if (levelOf? word).isSome then some (word, cs.drop name.length) else none
  else
    (operatorMarks.find? fun o => o.toList.isPrefixOf cs).map fun o => (o, cs.drop o.length)

/-- The words that end an expression. -/
def joiningWords : List String :=
  ["and", "or", "xor", "if", "unless", "while", "until", "for", "foreach", "x", "eq", "ne",
    "lt", "gt", "le", "ge", "cmp"]

/-- Whether a value can start at a text, where a function without parentheses is given one. -/
def startsTerm (cs : Bytes) : Bool :=
  match cs with
  | [] => false
  | c :: rest =>
    let name := nameAt cs
    if isNameStart c then
      !joiningWords.contains (String.ofList name)
        || ['=', '>'].isPrefixOf (skipSpaces (cs.drop name.length))
    else if c.isDigit then true
    else
      match c with
      | '-' => !(rest.head? = some '=')
      | '<' =>
        let name := rest.takeWhile isNameChar
        (rest.head?.any fun d => d = '$' || d = '>' || d = '<' || d = '"')
          || (isName name && (rest.drop name.length).head? = some '>')
      | '.' => rest.head?.any Char.isDigit
      | '%' => rest.head?.any fun d => isNameStart d || d = '$' || d = '\x7b' || d = '+'
      | '&' => rest.head?.any fun d => isNameStart d || d = '$' || d = '\x7b'
      | '*' => rest.head?.any fun d => isNameStart d || d = '\x7b'
      | '!' => !(rest.head? = some '=' || rest.head? = some '~')
      | '/' => true
      | c => ['$', '@', '\\', '"', '\'', '(', '[', '\x7b', '+', '~', '\x60'].contains c

/-! ## Functions -/

/-- Functions that take one value or none. -/
def unaryNames : List String :=
  ["defined", "ref", "scalar", "lc", "uc", "lcfirst", "ucfirst", "length", "chr", "ord", "int",
    "abs", "sqrt", "sin", "cos", "exp", "log", "hex", "oct", "quotemeta", "chomp", "chop", "chdir",
    "rmdir", "readlink", "exit", "undef", "shift", "pop", "keys", "values", "each", "delete",
    "exists", "rand", "srand", "sleep", "umask", "localtime", "gmtime", "close", "eof", "fileno",
    "pos", "lock", "fc", "readline", "caller", "require", "chroot", "stat", "lstat", "closedir",
    "readdir", "glob"]

/-- Functions that take no value. -/
def plainNames : List String :=
  ["time", "times", "wantarray", "wait", "getppid", "fork", "__LINE__", "__FILE__", "__PACKAGE__",
    "break"]

/-- Functions that take a list. -/
def listNames : List String :=
  ["push", "unshift", "splice", "join", "split", "sprintf", "die", "warn", "reverse", "unlink",
    "open", "substr", "index", "rindex", "return", "system", "exec", "kill", "atan2", "binmode",
    "seek", "tell", "select", "mkdir", "chmod", "rename", "utime", "pack", "unpack", "bless",
    "opendir", "truncate", "link", "symlink", "sum", "sum0", "max", "min", "uniq", "floor", "ceil",
    "shuffle", "maxstr", "minstr", "product", "fmod", "pow", "strftime", "waitpid", "lcfirst",
    "printflush", "looks_like_number", "read", "sysread", "syswrite", "pipe", "vec", "wantarray"]

/-- Names that only mean functions once they are asked for. -/
def borrowedNames : List String :=
  ["sum", "sum0", "max", "min", "uniq", "floor", "ceil", "shuffle", "maxstr", "minstr", "product",
    "fmod", "pow", "strftime", "looks_like_number", "first", "any", "all", "none", "reduce"]

/-- The modules that are there. -/
def moduleNames : List String :=
  ["AutoLoader", "Carp", "Config", "Cwd", "DynaLoader", "Errno", "Exporter", "Fcntl",
    "File::Basename", "File::Copy", "File::Glob", "File::Path", "File::Spec",
    "File::Spec::Functions", "File::Temp", "FileHandle", "Getopt::Long", "Hash::Util",
    "I18N::Langinfo", "IO", "IO::File", "IO::Handle", "IO::Pipe", "IO::Seekable", "IO::Select",
    "IO::Socket", "IO::Socket::INET", "IO::Socket::IP", "IO::Socket::UNIX", "IPC::Open2",
    "IPC::Open3", "List::Util", "POSIX", "Scalar::Util", "SelectSaver", "Socket", "Symbol",
    "Text::ParseWords", "Text::Tabs", "Text::Wrap", "Tie::Hash", "XSLoader", "attributes", "base",
    "builtin", "bytes", "constant", "diagnostics", "experimental", "feature", "fields", "integer",
    "less", "lib", "locale", "mro", "overload", "overloading", "parent", "re", "sort", "strict",
    "utf8", "vars", "version", "warnings", "warnings::register"]

/-- Whether a module is there. -/
def isThere (name : Bytes) : Bool :=
  moduleNames.any fun n => n.toList = name

/-- The words about a module that is not there. -/
def missingWords (name : Bytes) : Bytes :=
  let rec path : Bytes → Bytes
    | ':' :: ':' :: rest => '/' :: path rest
    | c :: rest => c :: path rest
    | [] => ".pm".toList
  "Can't locate ".toList ++ path name ++ " in @INC (you may need to install the ".toList ++ name
    ++ " module) (@INC contains: /etc/perl /usr/local/lib/x86_64-linux-gnu/perl/5.36.0 ".toList
    ++ "/usr/local/share/perl/5.36.0 /usr/lib/x86_64-linux-gnu/perl5/5.36 /usr/share/perl5 ".toList
    ++ "/usr/lib/x86_64-linux-gnu/perl-base /usr/lib/x86_64-linux-gnu/perl/5.36 ".toList
    ++ "/usr/share/perl/5.36 /usr/local/lib/site_perl)".toList

/-- Functions that are given statements and a list. -/
def blockNames : List String :=
  ["map", "grep", "sort", "first", "any", "all", "none", "reduce"]

end LinkWatch.Host.Sigil
