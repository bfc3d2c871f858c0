import LinkWatch.Host.Utility.Regex

/-!
# Scripts that edit lines

A script is a list of commands, each for the lines that its addresses choose. Blocks and jumps are
given by the places of commands in the list.
-/

namespace LinkWatch.Host.Utility

open LinkWatch.Text

/-- What chooses a line. -/
inductive Address where
  | line (n : Nat)
  | last
  /-- Lines that match; without an expression, the one that was used last. -/
  | matching (r : Option Regex)
  /-- Every so many lines from one on. -/
  | every (first step : Nat)

/-- What ends a range of lines. -/
inductive RangeEnd where
  | at (a : Address)
  /-- So many lines further on. -/
  | more (n : Nat)
  /-- At the next multiple. -/
  | multiple (n : Nat)

/-- Which lines a command is for. -/
structure Scope where
  first : Option Address := none
  stop : Option RangeEnd := none
  negated : Bool := false

/-- How letters of a replacement are changed. -/
inductive CaseChange where
  | upper
  | lower
  | nextUpper
  | nextLower
  | none
  deriving DecidableEq

/-- A part of a replacement. -/
inductive ReplacementPart where
  | text (cs : Bytes)
  /-- What a group has matched; zero stands for the whole match. -/
  | group (n : Nat)
  | change (k : CaseChange)

/-- How matches are replaced. -/
structure Substitution where
  /-- The expression; without one, the one that was used last. -/
  regex : Option Regex
  parts : List ReplacementPart
  /-- The match from which on something is replaced. -/
  nth : Nat
  all : Bool
  /-- Whether the result is run as a command. -/
  runs : Bool
  printsBefore : Bool
  printsAfter : Bool
  file : Option Bytes

/-- What a command does. -/
inductive EditAction where
  | openBlock (after : Nat)
  | closeBlock
  | substitute (s : Substitution)
  | exchange (pairs : List (Char × Char))
  | append (text : Bytes)
  | insert (text : Bytes)
  | change (text : Bytes)
  | jump (target : Option Nat)
  | jumpIfChanged (target : Option Nat)
  | jumpUnlessChanged (target : Option Nat)
  | delete
  | deleteFirst
  | print
  | printFirst
  | next
  | appendNext
  | hold
  | holdMore
  | get
  | getMore
  | swap
  | number
  | name
  | quit (status : Nat)
  | quitSilently (status : Nat)
  | readFile (file : Bytes)
  | readLine (file : Bytes)
  | writeFile (file : Bytes)
  | writeFirst (file : Bytes)
  /-- Runs a command whose output comes before the line, or the line itself. -/
  | run (command : Option Bytes)
  | display (width : Option Nat)
  | clear
  | nothing

/-- A command. -/
structure EditCommand where
  scope : Scope
  action : EditAction

/-- A command as it is read, with the name of a place or of the target of a jump. -/
structure RawCommand where
  scope : Scope
  action : EditAction
  label : Option Bytes := none

/-- A place in a script: what is left, and how many characters have been read. -/
structure ScriptPlace where
  rest : Bytes
  position : Nat

/-- Why a script cannot be read. -/
inductive EditError where
  /-- Words about the script after so many of its characters. -/
  | after (position : Nat) (words : String)
  /-- Words about the script as a whole. -/
  | about (words : String)
  /-- Words that stand alone. -/
  | alone (words : Bytes)

/-- Reads something from a script. -/
abbrev EditRead (α : Type) := Except EditError (α × ScriptPlace)

/-- Moves on. -/
def ScriptPlace.drop (p : ScriptPlace) (n : Nat) : ScriptPlace :=
  ⟨p.rest.drop n, p.position + min n p.rest.length⟩

/-- Moves on over characters of some kind. -/
def ScriptPlace.skip (p : ScriptPlace) (f : Char → Bool) : ScriptPlace :=
  p.drop (p.rest.takeWhile f).length

/-- Moves on over blanks. -/
def ScriptPlace.skipBlanks (p : ScriptPlace) : ScriptPlace :=
  p.skip isBlankChar

/-- A mistake that is noticed at a place. -/
def ScriptPlace.fault {α : Type} (p : ScriptPlace) (words : String) : Except EditError α :=
  .error (.after p.position words)

/-- Reads digits. -/
def ScriptPlace.number (p : ScriptPlace) : Nat × ScriptPlace :=
  let (n, rest) := readBased 10 p.rest
  (n, p.drop (p.rest.length - rest.length))

/-! ## Delimited texts -/

/-- Reads up to a mark that is not protected, or up to the end of the line. In an expression, a mark
between brackets does not count. The text keeps its backslashes, except before the mark. The flag
tells whether the mark has been found. -/
def cutDelimited (mark : Char) (isRegex : Bool) : Nat → Bool → ScriptPlace →
    Bytes × Bool × ScriptPlace
  | 0, _, p => ([], false, p)
  | fuel + 1, inBracket, p =>
    let more (text : Bytes) (inBracket : Bool) (size : Nat) : Bytes × Bool × ScriptPlace :=
      let q := cutDelimited mark isRegex fuel inBracket (p.drop size)
      (text ++ q.1, q.2)
    match p.rest with
    | [] => ([], false, p)
    | ['\\'] => ([], false, p.drop 1)
    | '\\' :: c :: _ =>
      if inBracket then
        if c = 'n' then more ['\n'] true 2 else more ['\\'] true 1
      else if c = mark then more (if !isRegex && c = '&' then ['\\', '&'] else [c]) false 2
      else if c = 'n' && isRegex then more ['\n'] false 2
      else if c = '\n' && isRegex then more ['\n'] false 2
      else more ['\\', c] false 2
    | c :: rest =>
      if inBracket then
        match c, rest with
        | '[', ':' :: _ =>
          match cut? [':', ']'] rest with
          | some (name, _) => more ('[' :: name ++ [':', ']']) true (name.length + 3)
          | none => more [c] true 1
        | _, _ => if c = '\n' then ([], false, p) else more [c] (c ≠ ']') 1
      else if c = mark then ([], true, p.drop 1)
      else if c = '\n' then ([], false, p)
      else if isRegex && c = '[' then
        let start : Bytes := match rest with
          | '^' :: ']' :: _ => ['^', ']']
          | '^' :: _ => ['^']
          | ']' :: _ => [']']
          | _ => []
        more (c :: start) true (start.length + 1)
      else more [c] false 1

/-- Reads a text up to its mark. -/
def ScriptPlace.delimited (p : ScriptPlace) (mark : Char) (isRegex : Bool) (words : String) :
    EditRead Bytes :=
  match cutDelimited mark isRegex (p.rest.length + 1) false p with
  | (text, true, q) => .ok (text, q)
  | (_, false, q) => q.fault words

/-- The parts of a replacement. -/
def replacementParts : Nat → Bytes → List ReplacementPart
  | 0, _ => []
  | fuel + 1, cs =>
    match cs with
    | [] => []
    | '&' :: rest => .group 0 :: replacementParts fuel rest
    | '\\' :: c :: rest =>
      let more := replacementParts fuel rest
      if c.isDigit then .group (c.toNat - '0'.toNat) :: more
      else
        match c with
        | 'U' => .change .upper :: more
        | 'L' => .change .lower :: more
        | 'u' => .change .nextUpper :: more
        | 'l' => .change .nextLower :: more
        | 'E' => .change .none :: more
        | c =>
          match readScriptEscape? (c :: rest) with
          | some (d, rest) => .text [d] :: replacementParts fuel rest
          | none => .text [c] :: more
    | c :: rest =>
      let run := c :: rest.takeWhile fun d => d ≠ '&' && d ≠ '\\'
      .text run :: replacementParts fuel (cs.drop run.length)

/-- The characters of a text for an exchange. -/
def exchangeText : Nat → Bytes → Bytes
  | 0, _ => []
  | fuel + 1, cs =>
    match cs with
    | [] => []
    | '\\' :: '\\' :: rest => '\\' :: exchangeText fuel rest
    | '\\' :: rest =>
      match readScriptEscape? rest with
      | some (c, rest) => c :: exchangeText fuel rest
      | none => exchangeText fuel rest
    | c :: rest => c :: exchangeText fuel rest

/-- How expressions of a script are read. -/
def editStyle (extended ignoresCase byLines : Bool) : RegexStyle :=
  { extended := extended, ignoresCase := ignoresCase, byLines := byLines, matchesEndings := true
    hasEscapes := true }

/-- The expression of a text with the number of its groups; the empty text stands for the one that
was used last. -/
def editRegex (extended ignoresCase byLines : Bool) (cs : Bytes) :
    Except String (Option Regex × Nat) :=
  if cs = [] then
    if ignoresCase || byLines then .error "cannot specify modifiers on empty regexp"
    else .ok (none, 9)
  else ((editStyle extended ignoresCase byLines).read cs).map fun p => (some p.1, p.2)

/-! ## Addresses -/

/-- Reads the letters after the expression of an address: whether case matters, and whether lines
do. -/
def addressFlags : Nat → Bool → Bool → ScriptPlace → (Bool × Bool) × ScriptPlace
  | 0, i, m, p => ((i, m), p)
  | fuel + 1, i, m, p =>
    let q := p.skipBlanks
    match q.rest with
    | 'I' :: _ => addressFlags fuel true m (q.drop 1)
    | 'M' :: _ => addressFlags fuel i true (q.drop 1)
    | _ => ((i, m), q)

/-- Reads an address. -/
def readAddress (extended : Bool) (p : ScriptPlace) : EditRead (Option Address) :=
  let delimited (mark : Char) (size : Nat) : EditRead (Option Address) :=
    ((p.drop size).delimited mark true "unterminated address regex").bind fun (text, q) =>
      let ((ignoresCase, byLines), q) := addressFlags (q.rest.length + 1) false false q
      match editRegex extended ignoresCase byLines text with
      | .error words => q.fault words
      | .ok (r, _) => .ok (some (.matching r), q)
  match p.rest with
  | '$' :: _ => .ok (some .last, p.drop 1)
  | '/' :: _ => delimited '/' 1
  | '\\' :: c :: _ => delimited c 2
  | ['\\'] => (p.drop 1).fault "unterminated address regex"
  | c :: _ =>
    if c.isDigit then
      let (n, q) := p.number
      let blank := q.skipBlanks
      match blank.rest with
      | '~' :: _ =>
        let (step, q) := (blank.drop 1).skipBlanks.number
        .ok (some (.every n step), q)
      | _ => .ok (some (.line n), blank)
    else .ok (none, p)
  | [] => .ok (none, p)

/-- Reads the end of a range after its comma. -/
def readRangeEnd (extended : Bool) (p : ScriptPlace) : EditRead (Option RangeEnd) :=
  let counted (make : Nat → RangeEnd) : EditRead (Option RangeEnd) :=
    let (n, q) := (p.drop 1).skipBlanks.number
    .ok (some (make n), q)
  match p.rest with
  | '+' :: _ => counted .more
  | '~' :: _ => counted .multiple
  | _ => (readAddress extended p).map fun (a, q) => (a.map .at, q)

/-- Whether an address is the line before the first one. -/
def Address.isZero : Address → Bool
  | .line 0 => true
  | _ => false

/-- Whether a range ends where something matches. -/
def RangeEnd.isMatching : RangeEnd → Bool
  | .at (.matching _) => true
  | _ => false

/-- Reads the addresses of a command, up to its letter. -/
def readScope (extended : Bool) (p : ScriptPlace) : Except EditError (Scope × ScriptPlace) := do
  match p.rest with
  | '+' :: _ => ((p.drop 1).number.2).fault "invalid usage of +N or ~N as first address"
  | '~' :: _ => ((p.drop 1).number.2).fault "invalid usage of +N or ~N as first address"
  | _ =>
    let (first, p) ← readAddress extended p
    let (scope, p) : Scope × ScriptPlace ← match first with
      | none => pure ({}, p)
      | some a => do
        let p := p.skipBlanks
        let (stop, p) : Option RangeEnd × ScriptPlace ← match p.rest with
          | ',' :: _ => do
            let p := (p.drop 1).skipBlanks
            match ← readRangeEnd extended p with
            | (some stop, p) => pure (some stop, p.skipBlanks)
            | (none, p) => (p.drop 1).fault "unexpected \x60,'"
          | _ => pure (none, p)
        let mayBeZero := stop.any RangeEnd.isMatching || (stop.isNone && p.rest.head? = some 'r')
        if a.isZero && !mayBeZero then
          (p.drop 1).fault "invalid usage of line address 0"
        else pure ({ first := some a, stop := stop }, p)
    match p.rest with
    | '!' :: _ =>
      let p := (p.drop 1).skipBlanks
      if p.rest.head? = some '!' then (p.drop 1).fault "multiple \x60!'s"
      else return ({ scope with negated := true }, p)
    | _ => return (scope, p)

/-! ## Commands -/

/-- The text of a command that adds text, up to the end of a line that is not protected. -/
def addedText : Nat → ScriptPlace → Bytes × ScriptPlace
  | 0, p => ([], p)
  | fuel + 1, p =>
    let more (text : Bytes) (size : Nat) : Bytes × ScriptPlace :=
      let q := addedText fuel (p.drop size)
      (text ++ q.1, q.2)
    match p.rest with
    | [] => ([], p)
    | '\n' :: _ => ([], p.drop 1)
    | ['\\'] => ([], p.drop 1)
    | '\\' :: c :: rest =>
      match readScriptEscape? (c :: rest) with
      | some (d, after) => more [d] (1 + ((c :: rest).length - after.length))
      | none => more [c] 2
    | c :: _ => more [c] 1

/-- Reads a text to be added, after the letter of its command. -/
def readAddedText (p : ScriptPlace) : EditRead Bytes :=
  let p := p.skipBlanks
  let finish (p : ScriptPlace) : EditRead Bytes :=
    let (text, q) := addedText (p.rest.length + 1) p
    .ok (line text, q)
  match p.rest with
  | [] => p.fault "expected \\ after \x60a', \x60c' or \x60i'"
  | ['\\'] => .ok ([], p.drop 1)
  | '\\' :: '\n' :: _ => finish (p.drop 2)
  | '\\' :: c :: _ =>
    if isBlankChar c then finish (p.drop 1)
    else
      let (text, q) := addedText (p.rest.length + 1) (p.drop 2)
      match c with
      | '\\' => finish (p.drop 1)
      | c => .ok (line (c :: text), q)
  | _ => finish p

/-- Reads the name of a file up to the end of the line. -/
def readFileName (p : ScriptPlace) : EditRead Bytes :=
  let p := p.skipBlanks
  let file := p.rest.takeWhile (· ≠ '\n')
  if file = [] then p.fault "missing filename in r/R/w/W commands"
  else .ok (file, p.drop file.length)

/-- Reads the flags of a substitution: whether case matters, and whether lines do. -/
def readFlags :
    Nat → Bool × Bool → Substitution → ScriptPlace → EditRead ((Bool × Bool) × Substitution)
  | 0, k, s, p => .ok ((k, s), p)
  | fuel + 1, k, s, p =>
    match p.rest with
    | [] => .ok ((k, s), p)
    | c :: _ =>
      let q := p.drop 1
      if c.isDigit then
        let (n, q) := p.number
        if n = 0 then q.fault "number option to \x60s' command may not be zero"
        else if s.nth ≠ 0 then q.fault "multiple number options to \x60s' command"
        else readFlags fuel k { s with nth := n } q
      else
        match c with
        | ' ' => readFlags fuel k s q
        | '\t' => readFlags fuel k s q
        | 'i' => readFlags fuel (true, k.2) s q
        | 'I' => readFlags fuel (true, k.2) s q
        | 'm' => readFlags fuel (k.1, true) s q
        | 'M' => readFlags fuel (k.1, true) s q
        | 'e' => readFlags fuel k { s with runs := true } q
        | 'g' =>
          if s.all then q.fault "multiple \x60g' options to \x60s' command"
          else readFlags fuel k { s with all := true } q
        | 'p' =>
          if s.printsBefore || s.printsAfter then
            q.fault "multiple \x60p' options to \x60s' command"
          else if s.runs then readFlags fuel k { s with printsAfter := true } q
          else readFlags fuel k { s with printsBefore := true } q
        | 'w' => (readFileName q).map fun (file, q) => ((k, { s with file := some file }), q)
        | '\n' => .ok ((k, s), q)
        | ';' => .ok ((k, s), q)
        | '\r' =>
          if q.rest.head? = some '\n' then .ok ((k, s), q.drop 1)
          else q.fault "unknown option to \x60s'"
        | '\x7d' => .ok ((k, s), p)
        | '#' => .ok ((k, s), p)
        | _ => q.fault "unknown option to \x60s'"

/-- Reads a substitution after its letter. -/
def readSubstitution (extended : Bool) (p : ScriptPlace) :
    Except EditError (Substitution × ScriptPlace) := do
  let words := "unterminated \x60s' command"
  match p.rest with
  | [] => p.fault words
  | mark :: _ =>
    let (pattern, p) ← (p.drop 1).delimited mark true words
    let (replacement, p) ← p.delimited mark false words
    let parts := replacementParts (replacement.length + 1) replacement
    let ((kind, s), p) ← readFlags (p.rest.length + 1) (false, false)
      ⟨none, parts, 0, false, false, false, false, none⟩ p
    match editRegex extended kind.1 kind.2 pattern with
    | .error words => p.fault words
    | .ok (r, groups) =>
      let used := parts.filterMap fun
        | .group n => some n
        | _ => none
      match used.find? (groups < ·) with
      | some n => p.fault ("invalid reference \\" ++ toString n ++ " on \x60s' command's RHS")
      | none => return ({ s with regex := r, nth := max 1 s.nth }, p)

/-- Reads what may follow a command: a closing brace, a comment or the end of the command. -/
def readCommandEnd (p : ScriptPlace) : Except EditError ScriptPlace :=
  let p := p.skipBlanks
  match p.rest with
  | [] => .ok p
  | '\x7d' :: _ => .ok p
  | '#' :: _ => .ok p
  | '\n' :: _ => .ok (p.drop 1)
  | ';' :: _ => .ok (p.drop 1)
  | _ => (p.drop 1).fault "extra characters after command"

/-- Reads the name of a place in the script. -/
def readLabel (p : ScriptPlace) : Bytes × ScriptPlace :=
  let p := p.skipBlanks
  let name := p.rest.takeWhile fun c => !isSpaceChar c && c ≠ ';' && c ≠ '\x7d'
  (name, p.drop name.length)

/-- Reads the action of a command after its letter. -/
def readAction (extended : Bool) (scope : Scope) (letter : Char) (p : ScriptPlace) :
    Except EditError ((EditAction × Option Bytes) × ScriptPlace) := do
  let simple (a : EditAction) : EditRead (EditAction × Option Bytes) :=
    (readCommandEnd p).map fun p => ((a, none), p)
  let labelled (a : EditAction) : EditRead (EditAction × Option Bytes) :=
    let (name, p) := readLabel p
    .ok ((a, some name), p)
  let counted (make : Option Nat → EditAction) : EditRead (EditAction × Option Bytes) :=
    let p := p.skipBlanks
    let (n, p) : Option Nat × ScriptPlace :=
      if p.rest.head?.any Char.isDigit then let q := p.number; (some q.1, q.2) else (none, p)
    (readCommandEnd p).map fun p => ((make n, none), p)
  let quitting (make : Nat → EditAction) : EditRead (EditAction × Option Bytes) :=
    if scope.stop.isSome then p.fault "command only uses one address"
    else counted fun n => make (n.getD 0)
  let named (make : Bytes → EditAction) : EditRead (EditAction × Option Bytes) :=
    (readFileName p).map fun (file, p) => ((make file, none), p)
  let adding (make : Bytes → EditAction) : EditRead (EditAction × Option Bytes) :=
    (readAddedText p).map fun (text, p) => ((make text, none), p)
  match letter with
  | '\x7b' => return ((.openBlock 0, none), p)
  | '\x7d' =>
    if scope.first.isSome then p.fault "\x60\x7d' doesn't want any addresses"
    else simple .closeBlock
  | 's' => (readSubstitution extended p).map fun (s, p) => ((.substitute s, none), p)
  | 'y' =>
    let words := "unterminated \x60y' command"
    match p.rest with
    | [] => p.fault words
    | mark :: _ =>
      let (a, p) ← (p.drop 1).delimited mark false words
      let (b, p) ← p.delimited mark false words
      let a := exchangeText (a.length + 1) a
      let b := exchangeText (b.length + 1) b
      if a.length ≠ b.length then p.fault "strings for \x60y' command are different lengths"
      else (readCommandEnd p).map fun p => ((.exchange (a.zip b), none), p)
  | 'a' => adding .append
  | 'i' => adding .insert
  | 'c' => adding .change
  | 'e' =>
    let q := p.skipBlanks
    match q.rest with
    | [] => return ((.run none, none), q)
    | '\n' :: _ => return ((.run none, none), q.drop 1)
    | _ => adding fun text => .run (some text)
  | ':' =>
    if scope.first.isSome then p.fault ": doesn't want any addresses"
    else
      let q := p.skipBlanks
      let name := q.rest.takeWhile fun c => !isSpaceChar c && c ≠ ';'
      if name = [] then q.fault "\":\" lacks a label"
      else return ((.nothing, some name), q.drop name.length)
  | 'b' => labelled (.jump none)
  | 't' => labelled (.jumpIfChanged none)
  | 'T' => labelled (.jumpUnlessChanged none)
  | 'd' => simple .delete
  | 'D' => simple .deleteFirst
  | 'p' => simple .print
  | 'P' => simple .printFirst
  | 'n' => simple .next
  | 'N' => simple .appendNext
  | 'h' => simple .hold
  | 'H' => simple .holdMore
  | 'g' => simple .get
  | 'G' => simple .getMore
  | 'x' => simple .swap
  | '=' => simple .number
  | 'F' => simple .name
  | 'z' => simple .clear
  | 'q' => quitting .quit
  | 'Q' => quitting .quitSilently
  | 'l' => counted .display
  | 'r' => named .readFile
  | 'R' => named .readLine
  | 'w' => named .writeFile
  | 'W' => named .writeFirst
  | 'v' =>
    let (version, p) := readLabel p
    let isNewer := match (pieces '.' version).map fun n => (readBased 10 n).1 with
      | major :: minor :: _ => 4 < major || (major = 4 && 9 < minor)
      | [major] => 4 < major
      | [] => false
    if isNewer then p.fault "expected newer version of sed" else return ((.nothing, none), p)
  | c => p.fault ("unknown command: \x60" ++ String.ofList [c] ++ "'")

/-- Reads the commands of a script; so many blocks are open. -/
def readCommands (extended : Bool) : Nat → Nat → ScriptPlace → Except EditError (List RawCommand)
  | 0, _, _ => .ok []
  | fuel + 1, depth, p => do
    let p := p.skip fun c => isSpaceChar c || c = ';'
    match p.rest with
    | [] => if depth = 0 then return [] else .error (.about "unmatched \x60\x7b'")
    | _ =>
      let (scope, p) ← readScope extended p
      match p.rest with
      | [] => p.fault "missing command"
      | '#' :: _ =>
        if scope.first.isSome then (p.drop 1).fault "comments don't accept any addresses"
        else readCommands extended fuel depth (p.skip (· ≠ '\n'))
      | letter :: _ =>
        let p := p.drop 1
        if letter = '\x7d' && depth = 0 then p.fault "unexpected \x60\x7d'"
        else
          let ((action, label), p) ← readAction extended scope letter p
          let depth := if letter = '\x7b' then depth + 1 else if letter = '\x7d' then depth - 1
            else depth
          let rest ← readCommands extended fuel depth p
          return ⟨scope, action, label⟩ :: rest

/-- For each command that opens a block, the place after its end. -/
def blockEnds (commands : List RawCommand) : List (Nat × Nat) :=
  let p := (commands.mapIdx fun i c => (i, c)).foldl
    (fun (acc : List Nat × List (Nat × Nat)) (i, c) =>
      match c.action, acc.1 with
      | .openBlock _, opened => (i :: opened, acc.2)
      | .closeBlock, o :: opened => (opened, (o, i + 1) :: acc.2)
      | _, _ => acc) ([], [])
  p.2

/-- The script that a text stands for. -/
def readEditScript (extended : Bool) (cs : Bytes) : Except EditError (List EditCommand) :=
  (readCommands extended (cs.length + 1) 0 ⟨cs, 0⟩).bind fun raw =>
    let ends := blockEnds raw
    let targets := (raw.mapIdx fun i c => (i, c)).filterMap fun (i, c) =>
      match c.action, c.label with
      | .nothing, some name => some (name, i)
      | _, _ => none
    (raw.mapIdx fun i c => (i, c)).mapM fun (i, c) =>
      let target : Except EditError (Option Nat) := match c.label with
        | none => .ok none
        | some [] => .ok none
        | some name =>
          match targets.lookup name with
          | some t => .ok (some t)
          | none => .error (.alone ("can't find label for jump to \x60".toList ++ name ++ ['\'']))
      target.map fun t =>
        let action := match c.action with
          | .openBlock _ => .openBlock ((ends.lookup i).getD 0)
          | .jump _ => .jump t
          | .jumpIfChanged _ => .jumpIfChanged t
          | .jumpUnlessChanged _ => .jumpUnlessChanged t
          | a => a
        ⟨c.scope, action⟩

end LinkWatch.Host.Utility
