import LinkWatch.Host.Sigil.Script
import LinkWatch.Host.Utility.Trial

/-!
# Reading programs with marked names

Expressions are read by how tightly their operators bind; texts between double quotes are
expressions themselves, since variables stand in them.
-/

namespace LinkWatch.Host.Sigil

open LinkWatch.Text LinkWatch.Host.Utility

/-- Reads something else with the steps for programs, and tells what is left of it. -/
def within {α : Type} (cs : Bytes) (r : Read α) : Read (α × Bytes) := do
  let s ← get
  set { s with rest := cs }
  let a ← r
  let left := (← get).rest
  set s
  return (a, left)

/-- Whether a text in square brackets is an index rather than a class of characters. -/
def isIndex (isPattern : Bool) (cs : Bytes) : Bool :=
  let inside := cs.takeWhile (· ≠ ']')
  let digits := if inside.head? = some '-' then inside.drop 1 else inside
  inside.length < cs.length && inside ≠ []
    && ((digits ≠ [] && digits.all Char.isDigit)
      || (inside.head? = some '$' && (inside.drop 1).all fun c =>
        isNameChar c || (!isPattern && ['+', '-', '#', '$', ' '].contains c)))

/-- The characters that are names of variables by themselves. -/
def markNames : Bytes :=
  "&\x60'+!@/\\,;.0\"|?<>()[]$:^~=-%".toList

/-- Those of them that do not count in texts. -/
def unsetNames : Bytes :=
  "()<>[]^~=%-\"\\ :".toList

/-- The characters after a variable that may be operators as well as the start of a value. -/
def unsureStarts : Bytes :=
  "-+/[\x7b<%&.(".toList

/-- A part of a text that is no variable. -/
def addPlain (c : Char) : List Term → List Term
  | .text cs :: parts => .text (c :: cs) :: parts
  | parts => .text [c] :: parts

/-- The term for parts of a text. -/
def joinedTerm (parts : List Term) : Term :=
  match parts with
  | [] => .text []
  | [.text cs] => .text cs
  | parts => .joined parts

/-- The character that an escape in a text means, after its backslash. -/
def escapeIn (cs : Bytes) : Bytes × Bytes :=
  match cs with
  | 'x' :: '\x7b' :: rest =>
    let p := readBased 16 rest
    let code := p.1
    (if code < 256 then [Char.ofNat code] else ofBytes (encode [Char.ofNat code]), p.2.drop 1)
  | c :: rest =>
    if '0' ≤ c && c ≤ '7' then
      let digits := ((c :: rest).takeWhile fun d => '0' ≤ d && d ≤ '7').take 3
      ([Char.ofNat ((readBased 8 digits).1 % 256)], (c :: rest).drop digits.length)
    else if c.isAlpha then
      let p := trialEscape (c :: rest)
      ([p.1], p.2)
    else ([c], rest)
  | [] => (['\\'], [])

/-- The words of a text between marks. -/
def wordTerms (cs : Bytes) : List Term :=
  ((cs.splitBy fun a b => isSpaceChar a == isSpaceChar b).filter fun w =>
    !w.head?.any isSpaceChar).map Term.text

/-- The loops that read lines give them to the usual variable, and end where there are none. -/
def asCondition (e : Term) : Term :=
  match e with
  | .input _ => .apply "defined" [.store topic e]
  | .store target (.input p) =>
    if target.isPlural then e else .apply "defined" [.store target (.input p)]
  | .store target (.apply "readline" es) => .apply "defined" [.store target (.apply "readline" es)]
  | .store target (.apply "shift" es) => .store target (.apply "shift" es)
  | .store target (.apply "readdir" es) => .apply "defined" [.store target (.apply "readdir" es)]
  | e => e

/-- The text of a document that follows the present line, up to a word on a line of its own. -/
def cutDocument (word : Bytes) (isIndented : Bool) : Nat → Bytes → List Bytes → List Bytes × Bytes
  | 0, cs, out => (out.reverse, cs)
  | fuel + 1, cs, out =>
    if cs = [] then (out.reverse, [])
    else
      let first := cs.takeWhile (· ≠ '\n')
      let rest := cs.drop (first.length + 1)
      let bare := if isIndented then first.dropWhile isBlankChar else first
      if bare = word then (out.reverse, rest)
      else cutDocument word isIndented fuel rest (first :: out)

/-- Lines without the blanks that all of them start with. -/
def unindented (lines : List Bytes) : List Bytes :=
  let depth (cs : Bytes) : Nat := (cs.takeWhile isBlankChar).length
  let full := lines.filter fun cs => !cs.all isBlankChar
  let least := (full.map depth).foldl min ((full.map depth).headD 0)
  lines.map fun cs => cs.drop (min least (depth cs))

/-- One value, or several of them. -/
def severalTerm (es : List Term) : Term :=
  match es with
  | [e] => e
  | es => .several es

/-- What is matched or changed. -/
def aimedAt (a : Term) (isNegated : Bool) (b : Term) : Term :=
  match b with
  | .matched p none _ => .matched p (some a) isNegated
  | .replaced p r none => .replaced p r (some a)
  | .exchanged x y flags none => .exchanged x y flags (some a)
  | b => .matched (.mk b []) (some a) isNegated

/-- The operators that change a variable. -/
def updateMarks : List String :=
  ["+=", "-=", "*=", "/=", ".=", "%=", "x=", "&=", "|=", "^=", "**=", "||=", "&&=", "//=", "<<=",
    ">>="]

/-- Reads an exchange of characters, after its name. -/
def readExchange : Read Term := do
  let (mark, first) ← readMarked
  let second ← if closing mark ≠ mark then do
      let (_, second) ← readMarked
      pure second
    else do
      let s ← get
      match untilMark mark mark (s.rest.length + 1) 0 [] s.rest with
      | some (second, rest) =>
        goTo rest
        pure second
      | none => throw ⟨s.line, .unended "Transliteration replacement not terminated".toList⟩
  return .exchanged first second (← readFlags) none

/-- Reads the end of a statement. -/
def readEnd : Read Unit := do
  let rest ← peek
  match rest with
  | [] => return ()
  | ';' :: rest => goTo rest
  | '\x7d' :: _ => return ()
  | _ => fail "syntax error"

/-- Reads the label of a loop that is left or gone on with, after the word for it. -/
def readLeaving (word : String) : Read Term := do
  let rest ← peek
  let label := nameAt rest
  if label ≠ [] && label.all (fun c => c.isUpper || c.isDigit || c = '_') then
    goTo (rest.drop label.length)
    return .apply word [.text label]
  else return .apply word [.text []]

/-- Whether what follows a brace at the start of a statement is a table rather than statements. -/
def startsTable (cs : Bytes) : Bool :=
  let cs := skipBlanksFrom cs.length cs
  let after := match cs with
    | '$' :: rest => some (rest.dropWhile isNameChar)
    | '"' :: rest => some ((rest.dropWhile (· ≠ '"')).drop 1)
    | '\'' :: rest => some ((rest.dropWhile (· ≠ '\'')).drop 1)
    | c :: _ => if isNameChar c then some (cs.dropWhile isNameChar) else none
    | [] => none
  match after with
  | some rest =>
    let rest := skipBlanksFrom rest.length rest
    ['=', '>'].isPrefixOf rest || (rest.head? = some ',' && cs.head?.any fun c => !c.isLower)
  | none => false

/-- A name with the package that is being read before it. -/
def qualified (name : Bytes) : Read Bytes := do
  let package := (← get).package
  return if package = [] || isInfix [':', ':'] name then plainName name
    else package ++ ':' :: ':' :: name

/-- Passes over a statement. -/
def skipStatement : Read (List Statement) := do
  let s ← get
  goTo (s.rest.dropWhile fun c => c ≠ ';' && c ≠ '\x7d')
  readEnd
  return []

mutual

/-- The parts of a text in which variables stand. -/
def readParts (isPattern : Bool) : Nat → Bytes → Read (List Term)
  | 0, _ => return []
  | fuel + 1, cs => do
    match cs with
    | [] => return []
    | '\\' :: 'Q' :: rest =>
      let (inside, after) := (cut? ['\\', 'E'] rest).getD (rest, [])
      let parts ← readParts false fuel (if isPattern then inside else inside)
      return .apply "quotemeta" [joinedTerm parts] :: (← readParts isPattern fuel after)
    | '\\' :: 'E' :: rest => readParts isPattern fuel rest
    | '\\' :: c :: rest =>
      if c = 'U' || c = 'L' then
        let (inside, after) := (cut? ['\\', 'E'] rest).getD (rest, [])
        let parts ← readParts isPattern fuel inside
        return .apply (if c = 'U' then "uc" else "lc") [joinedTerm parts]
          :: (← readParts isPattern fuel after)
      else if !isPattern && (c = 'u' || c = 'l') then
        let parts ← readParts isPattern fuel rest
        return [.apply (if c = 'u' then "ucfirst" else "lcfirst") [joinedTerm parts]]
      else if isPattern then
        return addPlain '\\' (addPlain c (← readParts isPattern fuel rest))
      else
        let (text, rest) := escapeIn (c :: rest)
        return text.foldr addPlain (← readParts isPattern fuel rest)
    | '$' :: rest =>
      let next := rest.headD ' '
      let isName := isNameStart next || next = '\x7b' || next = ':'
      let isMark := next.isDigit || next = '&'
        || (!isPattern && rest ≠ [] && markNames.contains next
          && !(unsetNames.contains next))
        || (next = '$' && (rest.drop 1).head?.any fun c => isNameStart c || c = '\x7b' || c = '$')
      let isLast := next = '#' && (rest.drop 1).head?.any fun c => isNameStart c || c = '\x7b'
        || c = '$'
      if isName || isMark || isLast then
        let (e, left) ← within rest (readMarkedName '$' fuel)
        let (e, left) ← readSubscripts isPattern fuel e left
        return e :: (← readParts isPattern fuel left)
      else return addPlain '$' (← readParts isPattern fuel rest)
    | '@' :: rest =>
      let next := rest.headD ' '
      if isNameStart next || next = '\x7b' || next = '$' then
        let (e, left) ← within rest (readMarkedName '@' fuel)
        return .spread e :: (← readParts isPattern fuel left)
      else return addPlain '@' (← readParts isPattern fuel rest)
    | c :: rest => return addPlain c (← readParts isPattern fuel rest)

/-- What follows a variable in a text and is a part of it. -/
def readSubscripts (isPattern : Bool) : Nat → Term → Bytes → Read (Term × Bytes)
  | 0, e, cs => return (e, cs)
  | fuel + 1, e, cs => do
    let isPart := match e with
      | .part _ _ _ _ => true
      | _ => false
    match cs with
    | '-' :: '>' :: '[' :: rest =>
      let (i, left) ← within rest (readLow fuel)
      readSubscripts isPattern fuel (.part '$' false (.behind e) i)
        ((skipBlanksFrom left.length left).drop 1)
    | '-' :: '>' :: '\x7b' :: rest =>
      let (k, left) ← within rest (readKey fuel)
      readSubscripts isPattern fuel (.part '$' true (.behind e) k) left
    | '[' :: rest =>
      if isPart && isIndex isPattern rest then
        let (i, left) ← within rest (readLow fuel)
        readSubscripts isPattern fuel (.part '$' false (.behind e) i)
          ((skipBlanksFrom left.length left).drop 1)
      else return (e, cs)
    | '\x7b' :: rest =>
      if isPart then
        let (k, left) ← within rest (readKey fuel)
        readSubscripts isPattern fuel (.part '$' true (.behind e) k) left
      else return (e, cs)
    | cs => return (e, cs)

/-- The term for a text in which variables stand. -/
def readText (isPattern : Bool) : Nat → Bytes → Read Term
  | 0, cs => return .text cs
  | fuel + 1, cs => do
    return joinedTerm (← readParts isPattern fuel cs)

/-- Reads a key up to its closing brace. A name by itself is a text. -/
def readKey : Nat → Read Term
  | 0 => fail "syntax error"
  | fuel + 1 => do
    let rest ← peek
    let (sign, start) := match rest with
      | '-' :: start => (['-'], start)
      | start => ([], start)
    let name := start.takeWhile isNameChar
    let after := skipBlanksFrom start.length (start.drop name.length)
    if isName name && after.head? = some '\x7d' then
      goTo (after.drop 1)
      return .text (sign ++ name)
    else
      let e ← readLow fuel
      expect "\x7d"
      return e

/-- Reads what a mark stands before, up to the first subscript. -/
def readMarkedName (mark : Char) : Nat → Read Term
  | 0 => fail "syntax error"
  | fuel + 1 => do
    let s ← get
    let cs := s.rest
    if mark = '$' && cs.head? = some '#'
        && (cs.drop 1).head?.any (fun c => isNameStart c || c = '\x7b' || c = '$') then
      goTo (cs.drop 1)
      let h ← readHolder fuel
      return .held '#' h
    else
      let h ← readHolder fuel
      let after := (← get).rest
      if mark = '$' || mark = '@' then
        match after with
        | '[' :: rest =>
          let isName := match h with
            | .named name => name.head?.any fun c => isNameStart c
            | .behind _ => true
          if isName then
            goTo rest
            let i ← readComma fuel
            expect "]"
            return .part mark false h (severalTerm i)
          else return .held mark h
        | '\x7b' :: rest =>
          let isSpecial := match h with
            | .named name => !(name.head?.any fun c => isNameStart c || c = '+')
            | .behind _ => false
          if isSpecial then return .held mark h
          else
            goTo rest
            let k ← readKey fuel
            return .part mark true h k
        | _ => return .held mark h
      else return .held mark h

/-- Reads what holds values: a name, or a link. -/
def readHolder : Nat → Read Holder
  | 0 => fail "syntax error"
  | fuel + 1 => do
    let s ← get
    match s.rest with
    | '\x7b' :: rest =>
      let inside := skipBlanksFrom rest.length rest
      let name := match inside with
        | '^' :: more => '^' :: more.takeWhile isNameChar
        | inside =>
          let name := nameAt inside
          if name = [] then
            let digits := inside.takeWhile Char.isDigit
            if digits = [] && (inside.drop 1).head? = some '\x7d'
              && markNames.contains (inside.headD ' ')
            then inside.take 1 else digits
          else name
      let after := skipBlanksFrom inside.length (inside.drop name.length)
      if name ≠ [] && after.head? = some '\x7d' then
        goTo (after.drop 1)
        return .named (plainName name)
      else
        goTo rest
        let body ← readStatements fuel
        expect "\x7d"
        match body with
        | [.plain _ e] => return .behind e
        | body => return .behind (.block body)
    | '$' :: rest =>
      if rest.head?.any fun c => isNameStart c || c = '$' || c = '\x7b' || c = ':' then
        goTo rest
        let h ← readHolder fuel
        return .behind (.held '$' h)
      else
        goTo rest
        return .named ['$']
    | cs =>
      let cs := (stripPrefix? [':', ':'] cs).getD cs
      let name := nameAt cs
      if name ≠ [] then
        goTo (cs.drop name.length)
        if name = "ISA".toList then return .named (← qualified name)
        else return .named (plainName name)
      else
        let digits := cs.takeWhile Char.isDigit
        match cs with
        | '^' :: c :: rest =>
          if c.isUpper then
            goTo rest
            return .named ['^', c]
          else
            goTo (c :: rest)
            return .named ['^']
        | c :: rest =>
          if digits ≠ [] then
            goTo (cs.drop digits.length)
            return .named digits
          else if markNames.contains c then
            goTo rest
            return .named [c]
          else fail "syntax error"
        | [] => fail "syntax error"

/-- Reads the values between parentheses, after the opening one. -/
def readGiven : Nat → Read (List Term)
  | 0 => fail "syntax error"
  | fuel + 1 => do
    let es ← readComma fuel
    expect ")"
    return es

/-- Reads the values that a function is given, with parentheses or without. -/
def readArguments : Nat → Read (List Term)
  | 0 => fail "syntax error"
  | fuel + 1 => do
    if ← accept "(" then readGiven fuel
    else if startsTerm (← peek) then readComma fuel
    else return []

/-- Reads expressions between commas. -/
def readComma : Nat → Read (List Term)
  | 0 => fail "syntax error"
  | fuel + 1 => do
    let rest ← peek
    if rest = [] || !startsTerm rest then
      if (← isAhead ",") && !rest.isEmpty then
        let _ ← accept ","
        readComma fuel
      else return []
    else
      let e ← readAssigned fuel
      if (← accept "=>") || (!(← isAhead "=>") && (← accept ",")) then
        return e :: (← readComma fuel)
      else return [e]

/-- Reads statements between braces. -/
def readBlock : Nat → Read (List Statement)
  | 0 => fail "syntax error"
  | fuel + 1 => do
    expect "\x7b"
    let package := (← get).package
    let body ← readStatements fuel
    expect "\x7d"
    modify fun s => { s with package := package }
    return body

/-- Reads what writes something: perhaps a conduit, and values. -/
def readWriting (name : String) : Nat → Read Term
  | 0 => fail "syntax error"
  | fuel + 1 => do
    let isOpen ← accept "("
    let rest ← peek
    let word := nameAt rest
    let after := skipBlanksFrom rest.length (rest.drop word.length)
    let conduit : Option Term ← (do
      if rest.head? = some '\x7b' then
        let body ← readBlock fuel
        return some (.block body)
      else if word ≠ [] && word.all (fun c => c.isUpper || c.isDigit || c = '_')
          && !(after.head?.any fun c => c = ',' || c = '-' || c = '.')
          && !(after.head? = some '(' && !(["STDOUT", "STDERR"].contains (String.ofList word)))
          && !(stripPrefix? ['=', '>'] after).isSome then
        goTo after
        return some (.text word)
      else if rest.head? = some '$' then
        let variable' := nameAt (rest.drop 1)
        let next := rest.drop (1 + variable'.length)
        let value := next.dropWhile isBlankChar
        let starts := startsTerm value && !(unsureStarts.contains (value.headD ' '))
        if variable' ≠ [] && next.head?.any isBlankChar && starts then
          goTo value
          return some (.held '$' (.named variable'))
        else return none
      else return none : Read (Option Term))
    let es ← readComma fuel
    if isOpen then expect ")"
    return .write name conduit es

/-- Reads a function that is given statements and values. -/
def readThrough (name : String) : Nat → Read Term
  | 0 => fail "syntax error"
  | fuel + 1 => do
    let isOpen ← accept "("
    let rest ← peek
    let finish (body : List Statement) : Read Term := do
      let _ ← accept ","
      let es ← readComma fuel
      if isOpen then expect ")"
      return .through name body es
    match rest with
    | '\x7b' :: _ =>
      let body ← readBlock fuel
      finish body
    | _ =>
      if name = "sort" then
        let word := nameAt rest
        let after := skipBlanksFrom rest.length (rest.drop word.length)
        let isRoutine := word ≠ [] && startsTerm after && after.head? ≠ some '('
          && !(unaryNames ++ listNames ++ blockNames ++ plainNames).contains (String.ofList word)
        let isVariable := rest.head? = some '$'
          && startsTerm (((rest.drop 1).dropWhile isNameChar).dropWhile isBlankChar)
          && ((rest.drop 1).dropWhile isNameChar).head?.any isBlankChar
        if isRoutine then
          goTo after
          finish [.plain 0 (.call word [] false)]
        else if isVariable then
          goTo (rest.drop 1)
          let h ← readHolder fuel
          finish [.plain 0 (.perform (.held '$' h) [])]
        else
          let es ← readComma fuel
          if isOpen then expect ")"
          return .through name [] es
      else
        let e ← readAssigned fuel
        finish [.plain 0 e]

/-- Reads an expression for matching whose marks are read, with its flags. -/
def readMatching (mark : Char) (text : Bytes) : Nat → Read Pattern
  | 0 => fail "syntax error"
  | fuel + 1 => do
    let flags ← readFlags
    let t ← if mark = '\'' then pure (.text text) else readText true fuel text
    return .mk t flags

/-- Reads a replacement, after its name. -/
def readReplacement : Nat → Read Term
  | 0 => fail "syntax error"
  | fuel + 1 => do
    let (mark, text) ← readMarked
    let (second, new) ← if closing mark ≠ mark then readMarked else do
      let s ← get
      match untilMark mark mark (s.rest.length + 1) 0 [] s.rest with
      | some (new, rest) =>
        goTo rest
        pure (mark, new)
      | none => throw ⟨s.line, .unended "Substitution replacement not terminated".toList⟩
    let flags ← readFlags
    let t ← if mark = '\'' then pure (.text text) else readText true fuel text
    let evaluations := flags.count 'e'
    let r ← if evaluations ≠ 0 then do
        let (body, _) ← within new (readStatements fuel)
        let e : Term := .block body
        pure (if 1 < evaluations then .apply "eval" [e] else e)
      else if second = '\'' then pure (.text new)
      else readText false fuel new
    return .replaced (.mk t flags) r none

/-- Reads a document: its word, and its lines, which follow the present line. -/
def readDocument (cs : Bytes) : Nat → Read Term
  | 0 => fail "syntax error"
  | fuel + 1 => do
    let (isIndented, cs) := match cs with
      | '~' :: rest => (true, rest)
      | rest => (false, rest)
    let (mark, word, after) : Char × Bytes × Bytes := match cs with
      | '"' :: rest => let w := rest.takeWhile (· ≠ '"'); ('"', w, rest.drop (w.length + 1))
      | '\'' :: rest => let w := rest.takeWhile (· ≠ '\''); ('\'', w, rest.drop (w.length + 1))
      | rest => let w := rest.takeWhile isNameChar; ('"', w, rest.drop w.length)
    let first := after.takeWhile (· ≠ '\n')
    let below := after.drop (first.length + 1)
    let (lines, rest) := cutDocument word isIndented (below.length + 1) below []
    let lines := if isIndented then unindented lines else lines
    goTo (first ++ '\n' :: rest)
    let text := lines.flatMap line
    if mark = '\'' then return .text text else readText false fuel text

/-- Reads a name and what belongs to it. -/
def readNamed : Nat → Read Term
  | 0 => fail "syntax error"
  | fuel + 1 => do
    let s ← get
    let cs ← peek
    let name := nameAt cs
    let after := cs.drop name.length
    let following := skipBlanksFrom after.length after
    let word := String.ofList name
    let isKey := ['=', '>'].isPrefixOf following
    let quoting := !isKey && !(following.head?.any fun c => c = ',' || c = ';' || c = ')')
      && !(following.head? = some '=' && (following.drop 1).head?.any fun c => c = ' ' || c = '=')
    goTo after
    if isKey then return .text name
    else
      match word with
      | "q" =>
        if quoting then
          let (mark, text) ← readMarked
          return .text (withoutEscapes mark text)
        else return .text name
      | "qq" =>
        if quoting then
          let (_, text) ← readMarked
          readText false fuel text
        else return .text name
      | "qw" =>
        let (_, text) ← readMarked
        return .several (wordTerms text)
      | "qx" =>
        let (_, text) ← readMarked
        return .apply "qx" [← readText false fuel text]
      | "m" =>
        if quoting then
          let (mark, text) ← readMarked
          return .matched (← readMatching mark text fuel) none false
        else return .text name
      | "qr" =>
        let (mark, text) ← readMarked
        let .mk t flags ← readMatching mark text fuel
        return .apply "qr" [t, .text flags]
      | "s" => if quoting then readReplacement fuel else return .text name
      | "tr" => readExchange
      | "y" => if quoting then readExchange else return .text name
      | "my" => readDeclared word fuel
      | "our" => readDeclared word fuel
      | "local" => readDeclared word fuel
      | "state" => readDeclared word fuel
      | "print" => readWriting word fuel
      | "printf" => readWriting word fuel
      | "say" => readWriting word fuel
      | "do" =>
        if following.head? = some '\x7b' then return .block (← readBlock fuel)
        else return .apply "do" [← readBinary 8 fuel]
      | "eval" =>
        if following.head? = some '\x7b' then return .attempt (← readBlock fuel)
        else
          let es ← (do
            if ← accept "(" then readGiven fuel
            else if startsTerm following then return [← readBinary 8 fuel]
            else return [] : Read (List Term))
          return .apply "eval" (if es.isEmpty then [topic] else es)
      | "sub" =>
        let names ← readRoutineHead fuel
        return .closure (names ++ (← readBlock fuel))
      | "__PACKAGE__" =>
        let package := (← get).package
        return .text (if package = [] then "main".toList else package)
      | "__LINE__" => return .whole s.line
      | "__FILE__" => return .held '$' (.named ['0'])
      | "not" =>
        if following.head? = some '(' then
          let _ ← accept "("
          let es ← readGiven fuel
          return .apply "!" [.several es]
        else return .apply "!" [← readAssigned fuel]
      | "next" => readLeaving word
      | "last" => readLeaving word
      | "redo" => readLeaving word
      | "STDIN" => return .text name
      | "STDOUT" => return .text name
      | "STDERR" => return .text name
      | _ =>
        if blockNames.contains word
            && (!borrowedNames.contains word || following.head? = some '\x7b') then
              readThrough word fuel
        else if plainNames.contains word then
          if ← accept "(" then expect ")"
          return .apply word []
        else if unaryNames.contains word then
          if ← accept "(" then
            let es ← readGiven fuel
            return .apply word es
          else if startsTerm following
            && !(following.head?.any fun c => c = '/' || c = '<' && word ≠ "chomp"
            && word ≠ "defined" && word ≠ "lc" && word ≠ "uc" && word ≠ "length")
              && !(following.head? = some '\x7b' && (word = "shift" || word = "pop")) then
            return .apply word [← readBinary 8 fuel]
          else return .apply word []
        else if listNames.contains word && !borrowedNames.contains word then
          let es ← readArguments fuel
          let package := (← get).package
          if word = "bless" && es.length = 1 then
            return .apply word (es ++ [.text (if package = [] then "main".toList else package)])
          else return .apply word es
        else if ← accept "(" then
          let es ← readGiven fuel
          return .call (← qualified name) es false
        else if ['-', '>'].isPrefixOf following || [':', ':'].isPrefixOf following then
          return .text name
        else if borrowedNames.contains word then
          let es ← readArguments fuel
          return .call name es false
        else if startsTerm following
          && following.head?.any
            (fun c => c = '$' || c = '@' || c = '"' || c = '\'' || c.isDigit) then
          let es ← readComma fuel
          return .call (← qualified name) es false
        else return .call (← qualified name) [] false

/-- Reads variables that are declared. -/
def readDeclared (word : String) : Nat → Read Term
  | 0 => fail "syntax error"
  | fuel + 1 => do
    if ← accept "(" then
      let es ← readGiven fuel
      return .declared word (.several es)
    else if word = "local" then return .declared word (← readBinary 12 fuel)
    else
      match ← peek with
      | c :: rest =>
        if c = '$' || c = '@' || c = '%' then
          goTo rest
          let h ← readHolder fuel
          return .declared word (.held c h)
        else fail "syntax error"
      | [] => fail "syntax error"

/-- Reads what may stand between the name of a routine and its body; names of arguments become the
variables of the routine. -/
def readRoutineHead : Nat → Read (List Statement)
  | 0 => fail "syntax error"
  | fuel + 1 => do
    if ← isAhead "(" then
      let cs ← peek
      let inside := (cs.drop 1).takeWhile (· ≠ ')')
      if inside.any isNameStart then
        let _ ← accept "("
        let es ← readGiven fuel
        let targets := es.map fun
          | .store target _ => target
          | e => e
        let defaults := es.filterMap fun
          | .store target value => some (Statement.plain 0 (.update "//=" target value))
          | _ => none
        return .plain 0 (.store (.declared "my" (.several targets)) (.held '@' (.named ['_'])))
          :: defaults
      else
        goTo (cs.drop (inside.length + 2))
        return []
    else return []

/-- Reads one value, with what is taken from it. -/
def readTerm : Nat → Read Term
  | 0 => fail "syntax error"
  | fuel + 1 => do
    let cs ← peek
    match cs with
    | [] => fail "syntax error"
    | '$' :: rest =>
      goTo rest
      readPostfix fuel (← readMarkedName '$' fuel)
    | '@' :: rest =>
      goTo rest
      readMarkedName '@' fuel
    | '%' :: rest =>
      goTo rest
      let h ← readHolder fuel
      return .held '%' h
    | '&' :: rest =>
      goTo rest
      let h ← readHolder fuel
      match h with
      | .named name =>
        if ← accept "(" then readPostfix fuel (.call name (← readGiven fuel) false)
        else return .call name [] true
      | .behind e =>
        if ← accept "(" then readPostfix fuel (.perform e (← readGiven fuel))
        else return .perform e [.held '@' (.named ['_'])]
    | '"' :: _ => do
      let (_, text) ← readMarked
      readText false fuel text
    | '\'' :: _ => do
      let (_, text) ← readMarked
      return .text (withoutEscapes '\'' text)
    | '*' :: rest =>
      goTo rest
      let isOpen ← accept "\x7b"
      let name := nameAt (← peek)
      goTo ((← get).rest.drop name.length)
      if isOpen then expect "\x7d"
      if name = [] then fail "syntax error"
      readPostfix fuel (.text ('*' :: "main::".toList ++ plainName name))
    | '\x60' :: _ => do
      let (_, text) ← readMarked
      return .apply "qx" [← readText false fuel text]
    | '/' :: _ => do
      let (mark, text) ← readMarked
      return .matched (← readMatching mark text fuel) none false
    | '<' :: '<' :: rest =>
      if rest.head?.any fun c => c = '"' || c = '\'' || c = '~' || isNameStart c then
        readDocument rest fuel
      else if rest.take 2 = ['>', '>'] then
        goTo (rest.drop 2)
        return .input none
      else fail "syntax error"
    | '<' :: rest =>
      let inside := rest.takeWhile (· ≠ '>')
      goTo (rest.drop (inside.length + 1))
      match inside with
      | [] => return .input none
      | '$' :: name => return .input (some (.held '$' (.named name)))
      | name =>
        if isName name then return .input (some (.text name))
        else return .apply "glob" [.text inside]
    | '(' :: rest =>
      goTo rest
      let es ← readGiven fuel
      if ← accept "[" then
        let i ← readComma fuel
        expect "]"
        readPostfix fuel (.pick (.several es) (.several i))
      else readPostfix fuel (.several es)
    | '[' :: rest =>
      goTo rest
      let es ← readComma fuel
      expect "]"
      readPostfix fuel (.newList es)
    | '\x7b' :: rest =>
      goTo rest
      let es ← readComma fuel
      expect "\x7d"
      readPostfix fuel (.newTable es)
    | '-' :: c :: rest =>
      let next := skipBlanksFrom rest.length rest
      if "edfrwxszlpSbcMA".toList.contains c && !(rest.head?.any fun d => isNameChar d)
          && !(['=', '>'].isPrefixOf next) && (startsTerm next && next.head? ≠ some '-') then
        goTo rest
        return .apply ("-" ++ String.singleton c) [← readBinary 8 fuel]
      else fail "syntax error"
    | c :: rest =>
      if c.isDigit || (c = '.' && rest.head?.any Char.isDigit) then
        let (e, rest) := numberTerm cs
        goTo rest
        return e
      else if isNameStart c then readPostfix fuel (← readNamed fuel)
      else fail "syntax error"

/-- Reads what is taken from a value. -/
def readPostfix : Nat → Term → Read Term
  | 0, _ => fail "syntax error"
  | fuel + 1, e => do
    let isPart := match e with
      | .part _ _ _ _ => true
      | .perform _ _ => true
      | _ => false
    let s ← get
    if isPart && s.rest.head? = some '[' then
      let _ ← accept "["
      let i ← readLow fuel
      expect "]"
      readPostfix fuel (.part '$' false (.behind e) i)
    else if isPart && s.rest.head? = some '\x7b' then
      let _ ← accept "\x7b"
      readPostfix fuel (.part '$' true (.behind e) (← readKey fuel))
    else if isPart && s.rest.head? = some '(' then
      let _ ← accept "("
      readPostfix fuel (.perform e (← readGiven fuel))
    else if ← accept "->" then
      if ← accept "[" then
        let i ← readLow fuel
        expect "]"
        readPostfix fuel (.part '$' false (.behind e) i)
      else if ← accept "\x7b" then readPostfix fuel (.part '$' true (.behind e) (← readKey fuel))
      else if ← accept "(" then readPostfix fuel (.perform e (← readGiven fuel))
      else if ← accept "@*" then return .held '@' (.behind e)
      else if ← accept "%*" then return .held '%' (.behind e)
      else if ← accept "$*" then return .held '$' (.behind e)
      else if ← accept "$#*" then return .held '#' (.behind e)
      else if ← accept "@[" then
        let i ← readComma fuel
        expect "]"
        return .part '@' false (.behind e) (.several i)
      else if ← accept "@\x7b" then return .part '@' true (.behind e) (← readKey fuel)
      else
        let rest ← peek
        let name := nameAt rest
        let method : Term ← (do
          if name ≠ [] then
            goTo (rest.drop name.length)
            return .text name
          else if ← accept "$" then return .held '$' (← readHolder fuel)
          else fail "syntax error" : Read Term)
        let es : List Term ←
          (do if ← accept "(" then readGiven fuel else return [] : Read (List Term))
        readPostfix fuel (.apply "->" (e :: method :: es))
    else return e

/-- Reads a value with signs before it and steps after it. -/
def readUnary : Nat → Read Term
  | 0 => fail "syntax error"
  | fuel + 1 => do
    let cs ← peek
    match cs with
    | '!' :: rest =>
      goTo rest
      return .apply "!" [← readUnary fuel]
    | '~' :: rest =>
      goTo rest
      return .apply "~" [← readUnary fuel]
    | '\\' :: rest =>
      goTo rest
      return .apply "\\" [← readUnary fuel]
    | '+' :: '+' :: rest =>
      goTo rest
      return .apply "++_" [← readUnary fuel]
    | '-' :: '-' :: rest =>
      goTo rest
      return .apply "--_" [← readUnary fuel]
    | '+' :: rest =>
      goTo rest
      readUnary fuel
    | '-' :: c :: rest =>
      let next := skipBlanksFrom rest.length rest
      let word := nameAt (c :: rest)
      if "edfrwxszlpSbcMA".toList.contains c && !(rest.head?.any isNameChar)
          && !(['=', '>'].isPrefixOf next) && startsTerm next && next.head? ≠ some '-' then
            readTerm fuel
      else if word ≠ [] && !(unaryNames ++ listNames ++ plainNames).contains (String.ofList word)
          && ((c :: rest).drop word.length).head?.all (· ≠ '(') then
        goTo ((c :: rest).drop word.length)
        return .text ('-' :: word)
      else
        goTo (c :: rest)
        return .apply "-_" [← readUnary fuel]
    | _ => readPower fuel

/-- Reads a value with steps after it and powers. -/
def readPower : Nat → Read Term
  | 0 => fail "syntax error"
  | fuel + 1 => do
    let e ← readTerm fuel
    let e ← (do
      if ← accept "++" then return .apply "_++" [e]
      else if ← accept "--" then return .apply "_--" [e]
      else return e : Read Term)
    if (← isAhead "**") && !(← isAhead "**=") then
      let _ ← accept "**"
      return .apply "**" [e, ← readUnary fuel]
    else return e

/-- Reads what is joined by operators that bind at least so tightly. -/
def readBinary (level : Fin 20) : Nat → Read Term
  | 0 => fail "syntax error"
  | fuel + 1 => do
    let e ← readUnary fuel
    readOperators level fuel e

/-- Reads the operators after a value. -/
def readOperators (level : Fin 20) : Nat → Term → Read Term
  | 0, _ => fail "syntax error"
  | fuel + 1, a => do
    match operatorAt (← peek) with
    | none => return a
    | some (o, rest) =>
      match levelOf? o with
      | none => return a
      | some l =>
        if l < level then return a
        else
          goTo rest
          let b ← readBinary (l + 1) fuel
          let e : Term := match o, b with
            | "=~", b => aimedAt a false b
            | "!~", b => aimedAt a true b
            | "..", b => .apply ".." [a, b, .whole (rest.length : Nat)]
            | "...", b => .apply ".." [a, b, .whole (rest.length : Nat)]
            | o, b => .apply o [a, b]
          readOperators level fuel e

/-- Reads a choice. -/
def readChoice : Nat → Read Term
  | 0 => fail "syntax error"
  | fuel + 1 => do
    let c ← readBinary 0 fuel
    if ← accept "?" then
      let a ← readAssigned fuel
      expect ":"
      let b ← readAssigned fuel
      return .apply "?:" [c, a, b]
    else return c

/-- Reads an assignment. -/
def readAssigned : Nat → Read Term
  | 0 => fail "syntax error"
  | fuel + 1 => do
    let target ← readChoice fuel
    match operatorAt (← peek) with
    | some ("=", rest) =>
      goTo rest
      return .store target (← readAssigned fuel)
    | some (o, rest) =>
      if updateMarks.contains o then
        goTo rest
        return .update o target (← readAssigned fuel)
      else return target
    | none => return target

/-- Reads a list of expressions. -/
def readListed : Nat → Read Term
  | 0 => fail "syntax error"
  | fuel + 1 => do
    if ← acceptWord "not" then return .apply "!" [← readListed fuel]
    else
      let start ← peek
      if !startsTerm start then fail "syntax error"
      let e ← readAssigned fuel
      if (← accept "=>") || (!(← isAhead "=>") && (← accept ",")) then
        return .several (e :: (← readComma fuel))
      else return e

/-- Reads expressions joined by words. -/
def readLow : Nat → Read Term
  | 0 => fail "syntax error"
  | fuel + 1 => do
    let a ← readListed fuel
    readJoined fuel a

/-- Reads the words that join expressions, after one. -/
def readJoined : Nat → Term → Read Term
  | 0, _ => fail "syntax error"
  | fuel + 1, a => do
    if ← acceptWord "and" then
      let b ← readListed fuel
      readJoined fuel (.apply "&&" [a, b])
    else if ← acceptWord "or" then
      let b ← readListed fuel
      let b ← readConjoined fuel b
      readJoined fuel (.apply "||" [a, b])
    else if ← acceptWord "xor" then
      let b ← readListed fuel
      readJoined fuel (.apply "xor" [a, b])
    else return a

/-- Reads what is joined by `and`, after its first part. -/
def readConjoined : Nat → Term → Read Term
  | 0, _ => fail "syntax error"
  | fuel + 1, a => do
    if ← acceptWord "and" then
      let b ← readListed fuel
      readConjoined fuel (.apply "&&" [a, b])
    else return a

/-- Reads statements up to a closing brace or the end. -/
def readStatements : Nat → Read (List Statement)
  | 0 => fail "syntax error"
  | fuel + 1 => do
    let rest ← peek
    match rest with
    | [] => return []
    | '\x7d' :: _ => return []
    | ';' :: rest =>
      goTo rest
      readStatements fuel
    | _ =>
      let s ← readStatement [] fuel
      return s ++ (← readStatements fuel)

/-- Reads a condition in parentheses. -/
def readCondition : Nat → Read Term
  | 0 => fail "syntax error"
  | fuel + 1 => do
    expect "("
    let e ← readLow fuel
    expect ")"
    return e

/-- Reads what follows the first case of a branch. -/
def readCases : Nat → Read (List (Term × List Statement) × List Statement)
  | 0 => fail "syntax error"
  | fuel + 1 => do
    if ← acceptWord "elsif" then
      let c ← readCondition fuel
      let body ← readBlock fuel
      let (cases, otherwise) ← readCases fuel
      return ((c, body) :: cases, otherwise)
    else if ← acceptWord "else" then return ([], ← readBlock fuel)
    else return ([], [])

/-- Reads a loop over values or over steps, after its word. -/
def readRounds (label : Bytes) : Nat → Read Statement
  | 0 => fail "syntax error"
  | fuel + 1 => do
    let line := (← get).line
    let target : Option Term ← (do
      if ← acceptWord "my" then
        let _ ← accept "$"
        return some (.declared "my" (.held '$' (← readHolder fuel)))
      else if ← acceptWord "our" then
        let _ ← accept "$"
        return some (.held '$' (← readHolder fuel))
      else if ← accept "$" then return some (.held '$' (← readHolder fuel))
      else return none : Read (Option Term))
    expect "("
    let rest ← peek
    let first ← if rest.head? = some ';' || rest.head? = some ')' then pure none
      else do pure (some (← readLow fuel))
    if target.isNone && (← accept ";") then
      let condition ← if ← isAhead ";" then pure none else do pure (some (← readLow fuel))
      expect ";"
      let after ← if ← isAhead ")" then pure none else do pure (some (← readLow fuel))
      expect ")"
      let body ← readBlock fuel
      return .loop label line first (condition.map asCondition)
        (after.toList.map (.plain line)) body
    else
      expect ")"
      let body ← readBlock fuel
      return .each label line (target.getD topic) (first.getD (.several [])) body

/-- Reads one statement. -/
def readStatement (label : Bytes) : Nat → Read (List Statement)
  | 0 => fail "syntax error"
  | fuel + 1 => do
    let rest ← peek
    let s ← get
    let line := s.line
    let name := nameAt rest
    let after := rest.drop name.length
    let following := skipBlanksFrom after.length after
    let isLabel := name ≠ [] && following.head? = some ':' && following.take 2 ≠ [':', ':']
      && name.all (fun c => c.isUpper || c.isDigit || c = '_')
    if isLabel then
      goTo (following.drop 1)
      readStatement name fuel
    else if rest.head? = some '\x7b' && !startsTable (rest.drop 1) then
      return [.block label (← readBlock fuel)]
    else
      let taken : Read Unit := goTo after
      match String.ofList name with
      | "if" => do
        taken
        let c ← readCondition fuel
        let body ← readBlock fuel
        let (cases, otherwise) ← readCases fuel
        return [.branch line ((c, body) :: cases) otherwise]
      | "unless" => do
        taken
        let c ← readCondition fuel
        let body ← readBlock fuel
        let (cases, otherwise) ← readCases fuel
        return [.branch line ((.apply "!" [c], body) :: cases) otherwise]
      | "while" => do
        taken
        expect "("
        let c ← if ← isAhead ")" then pure none else do pure (some (asCondition (← readLow fuel)))
        expect ")"
        let body ← readBlock fuel
        let next ← if ← acceptWord "continue" then readBlock fuel else pure []
        return [.loop label line none c next body]
      | "until" => do
        taken
        let c ← readCondition fuel
        let body ← readBlock fuel
        return [.loop label line none (some (.apply "!" [c])) [] body]
      | "for" => do
        taken
        return [← readRounds label fuel]
      | "foreach" => do
        taken
        return [← readRounds label fuel]
      | "sub" =>
        if nameAt following ≠ [] then do
          let name := nameAt following
          goTo (following.drop name.length)
          let names ← readRoutineHead fuel
          let name ← qualified name
          return [.routine name (names ++ (← readBlock fuel))]
        else readPlain fuel
      | "BEGIN" => do
        taken
        return [.phase false (← readBlock fuel)]
      | "END" => do
        taken
        return [.phase true (← readBlock fuel)]
      | "package" => do
        let name := nameAt following
        goTo (following.drop name.length)
        let package := if name = "main".toList then [] else name
        if ← isAhead "\x7b" then
          let old := (← get).package
          modify fun s => { s with package := package }
          let body ← readBlock fuel
          modify fun s => { s with package := old }
          return [.block [] body]
        else
          modify fun s => { s with package := package }
          readEnd
          return []
      | "use" => do
        goTo following
        readUse line fuel
      | "no" => skipStatement
      | _ => readPlain fuel

/-- Reads what is asked for from a module. -/
def readUse (line : Nat) : Nat → Read (List Statement)
  | 0 => fail "syntax error"
  | fuel + 1 => do
    let rest ← peek
    let name := nameAt rest
    let once (e : Term) : List Statement := [.phase false [.plain line e]]
    if name = [] then skipStatement
    else if !isThere name && name ≠ "Time::HiRes".toList then throw ⟨line, .missing name⟩
    else if name = "constant".toList then
      goTo (rest.drop name.length)
      let es ← readComma fuel
      readEnd
      return once (.apply "constant" es)
    else if name = "parent".toList || name = "base".toList then
      goTo (rest.drop name.length)
      let es ← readComma fuel
      readEnd
      let list ← qualified "ISA".toList
      return once (.apply "push" (.held '@' (.named list) :: es))
    else skipStatement

/-- Reads an expression as a statement, with a word after it that says when it counts. -/
def readPlain : Nat → Read (List Statement)
  | 0 => fail "syntax error"
  | fuel + 1 => do
    let _ ← peek
    let line := (← get).line
    let e ← readLow fuel
    let isBlock := match e with
      | .block _ => true
      | _ => false
    let own : List Statement := match e with
      | .block body => [.block [] body]
      | e => [.plain line e]
    let result : List Statement ← (do
      if ← acceptWord "if" then return [.branch line [(← readLow fuel, own)] []]
      else if ← acceptWord "unless" then
        return [.branch line [(.apply "!" [← readLow fuel], own)] []]
      else if ← acceptWord "while" then
        let c := asCondition (← readLow fuel)
        return if isBlock then [.again line own c] else [.loop [] line none (some c) [] own]
      else if ← acceptWord "until" then
        let c : Term := .apply "!" [← readLow fuel]
        return if isBlock then [.again line own c] else [.loop [] line none (some c) [] own]
      else if (← acceptWord "for") || (← acceptWord "foreach") then
        return [.each [] line topic (← readLow fuel) own]
      else return [.plain line e] : Read (List Statement))
    readEnd
    return result

end

/-- Reads a whole program. -/
def readProgram (text : Bytes) : Except Mistake (List Statement) :=
  let s : Script := { rest := text, breaks := text.count '\n' }
  let whole : Read (List Statement) := do
    let body ← readStatements (60 * text.length + 2000)
    let rest ← peek
    if rest ≠ [] then fail "Unmatched right curly bracket"
    return body
  (whole.run s).map (·.1)

end LinkWatch.Host.Sigil
