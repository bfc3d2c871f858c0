import LinkWatch.Host.Shell.Quoting
import LinkWatch.Host.Shell.Syntax

/-!
# Commands as texts

A command is written as a script from which it could be read again: with lines of their own for the
parts of commands that are made of others, and in the usual order of words and redirections.
-/

namespace LinkWatch.Host.Shell

open LinkWatch.Text LinkWatch.Host.Kernel

/-- How commands are laid out. -/
structure Layout where
  /-- How far lines are moved to the right. -/
  indent : Nat := 0
  /-- Whether the commands of a list stand on lines of their own. -/
  isTall : Bool := false

/-- The layout of what stands within a command. -/
def Layout.within (l : Layout) : Layout :=
  { l with indent := l.indent + 4 }

/-- The start of another line. -/
def Layout.newLine (l : Layout) : Bytes :=
  '\n' :: List.replicate l.indent ' '

/-- What stands between two commands of a list. -/
def Layout.separator (l : Layout) : Bytes :=
  if l.isTall then ';' :: l.newLine else [';', ' ']

/-- The operator of a form, and whether it comes twice. -/
def Form.mark (f : Form) (colon : Bool) : Bytes :=
  let start := if colon then [':'] else []
  match f with
  | .missing => start ++ ['-']
  | .assigned => start ++ ['=']
  | .present => start ++ ['+']
  | .demanded => start ++ ['?']
  | .trimmed true longest => if longest then ['%', '%'] else ['%']
  | .trimmed false longest => if longest then ['#', '#'] else ['#']
  | .sliced => [':']
  | .replaced .first => ['/']
  | .replaced .every => ['/', '/']
  | .replaced .atStart => ['/', '#']
  | .replaced .atEnd => ['/', '%']
  | .recased .upper every => if every then ['^', '^'] else ['^']
  | .recased .lower every => if every then [',', ','] else [',']
  | .recased .swapped every => if every then ['~', '~'] else ['~']
  | .shown letter => ['@', letter]
  | _ => []

/-- The word that opens a redirection, without the usual descriptor. -/
def openingMark (descriptor : Nat) (opening : Opening) (isForced : Bool) : Bytes :=
  let mark := match opening with
    | .read => "<"
    | .write => if isForced then ">|" else ">"
    | .append => ">>"
    | .both => "<>"
  let usual := if opening = .read || opening = .both then 0 else 1
  (if descriptor = usual && opening ≠ .both then [] else digitsOf descriptor) ++ mark.toList

mutual

/-- The text of a part of a word. -/
def Part.source : Nat → Bool → Part → Bytes
  | 0, _, _ => []
  | fuel + 1, isQuoted, p =>
    let inside (ps : List Part) : Bytes := ps.flatMap (Part.source fuel isQuoted)
    match p with
    | .text cs => cs
    | .quoted cs =>
      match cs with
      | [c] => if isQuoted || !c.isAlphanum && c ≠ '\n' then ['\\', c] else betweenQuotes cs
      | cs => if isQuoted then cs else betweenQuotes cs
    | .group ps => '"' :: ps.flatMap (Part.source fuel true) ++ ['"']
    | .parameter name form colon word =>
      match form with
      | .plain =>
        if name.length = 1 || isName name then '$' :: name else "$\x7b".toList ++ name ++ ['\x7d']
      | .length => "$\x7b#".toList ++ name ++ ['\x7d']
      | form => "$\x7b".toList ++ name ++ form.mark colon ++ inside word ++ ['\x7d']
    | .chosen name isIndirect place form colon word other =>
      let key := match place with
        | .usual => []
        | .all isJoined => (if isJoined then "[*]" else "[@]").toList
        | .key ps => '[' :: inside ps ++ [']']
      let start := match form with
        | .length => ['#']
        | .keys => ['!']
        | .named => ['!']
        | _ => if isIndirect then ['!'] else []
      let second := match other, form with
        | some ps, .sliced => ':' :: inside ps
        | some ps, _ => '/' :: inside ps
        | none, _ => []
      "$\x7b".toList ++ start ++ name ++ key ++ form.mark colon ++ inside word ++ second ++ ['\x7d']
    | .output c none => "$(".toList ++ c.source fuel {} ++ [')']
    | .output _ (some text) => '\x60' :: text ++ ['\x60']
    | .arithmetic ps => "$((".toList ++ inside ps ++ [')', ')']
    | .improper text => text
    | .place ps => '[' :: inside ps ++ [']']
    | .list ws => '(' :: joinWords (ws.map (Word.source fuel)) ++ [')']
    | .stream isOutput c => (if isOutput then '<' else '>') :: '(' :: c.source fuel {} ++ [')']

/-- The text of a word. -/
def Word.source : Nat → Word → Bytes
  | 0, _ => []
  | fuel + 1, w => w.parts.flatMap (Part.source fuel false)

/-- The text of a redirection. -/
def Redirection.source : Nat → Redirection → Bytes
  | 0, _ => []
  | fuel + 1, r =>
    let word (ps : List Part) : Bytes := ps.flatMap (Part.source fuel false)
    match r with
    | .file d opening isForced path => openingMark d opening isForced ++ ' ' :: word path
    | .copy d isInput path =>
      let isInput := isInput && plainText? path ≠ some ['-']
      digitsOf d ++ (if isInput then ['<', '&'] else ['>', '&']) ++ word path
    | .document d _ => (if d = 0 then [] else digitsOf d) ++ ['<', '<']
    | .supply d text => (if d = 0 then [] else digitsOf d) ++ "<<< ".toList ++ word text
    | .both opening path => (if opening = .append then "&>> " else "&> ").toList ++ word path
    | .named name r => '\x7b' :: name ++ '\x7d' :: (r.source fuel).dropWhile Char.isDigit

/-- The text of a condition. -/
def Query.source : Nat → Query → Bytes
  | 0, _ => []
  | fuel + 1, q =>
    match q with
    | .sole operator w =>
      if operator = "-n" then "-n ".toList ++ w.source fuel
      else operator.toList ++ ' ' :: w.source fuel
    | .pair operator a b => a.source fuel ++ ' ' :: operator.toList ++ ' ' :: b.source fuel
    | .not q => '!' :: ' ' :: q.source fuel
    | .both a b => a.source fuel ++ " && ".toList ++ b.source fuel
    | .either a b => a.source fuel ++ " || ".toList ++ b.source fuel
    | .group q => "( ".toList ++ q.source fuel ++ " )".toList

/-- The text of a command. -/
def Command.source : Nat → Layout → Command → Bytes
  | 0, _, _ => []
  | fuel + 1, l, c =>
    let word (w : Word) : Bytes := w.source fuel
    let parts (ps : List Part) : Bytes := ps.flatMap (Part.source fuel false)
    let body (start : String) (c : Command) (stop : String) : Bytes :=
      start.toList ++ l.within.newLine ++ c.source fuel l.within ++ ';' :: l.newLine ++ stop.toList
    let changes (rs : List Redirection) : Bytes := rs.flatMap fun r => ' ' :: r.source fuel
    match c with
    | .nothing => []
    | .simple _ assignments words redirections =>
      let assigned := assignments.map fun a =>
        match a with
        | .mk name key isAdded value =>
          name ++ key.elim [] (fun ps => '[' :: parts ps ++ [']'])
            ++ (if isAdded then ['+', '='] else ['=']) ++ parts value
      let text := joinWords (assigned ++ words.map word)
      let rest := changes redirections
      if text = [] then rest.drop 1 else text ++ rest
    | .redirected _ c rs => c.source fuel l ++ changes rs
    | .sequence (.background a) b => a.source fuel l ++ " & ".toList ++ b.source fuel l
    | .sequence a b => a.source fuel l ++ l.separator ++ b.source fuel l
    | .both a b => a.source fuel l ++ " && ".toList ++ b.source fuel l
    | .either a b => a.source fuel l ++ " || ".toList ++ b.source fuel l
    | .negated c => '!' :: ' ' :: c.source fuel l
    | .background c => c.source fuel l ++ [' ', '&']
    | .pipeline cs => joinWith " | ".toList (cs.map (Command.source fuel l))
    | .aside c => "( ".toList ++ c.source fuel l ++ " )".toList
    | .group c =>
      if l.isTall then Command.enclosed fuel l c
      else
        let stop := match c with
          | .background _ => " "
          | _ => "; "
        "\x7b ".toList ++ c.source fuel l ++ stop.toList ++ ['\x7d']
    | .partner _ name c => "coproc ".toList ++ name ++ ' ' :: c.source fuel l
    | .choice condition yes no =>
      let start := "if ".toList ++ condition.source fuel l ++ body "; then" yes ""
      match no with
      | .nothing => start ++ "fi".toList
      | no => start ++ body "else" no "fi"
    | .loop wanted condition c =>
      (if wanted then "while " else "until ").toList ++ condition.source fuel l
        ++ body "; do" c "done"
    | .each _ name ws c =>
      "for ".toList ++ name ++ " in ".toList ++ joinWords (ws.map word) ++ ';' :: l.newLine
        ++ body "do" c "done"
    | .menu _ name ws c =>
      "select ".toList ++ name ++ " in ".toList ++ joinWords (ws.map word) ++ ';' :: l.newLine
        ++ body "do" c "done"
    | .select _ w branches =>
      let inner := l.within
      let branch (b : Branch) : Bytes :=
        match b with
        | .mk patterns c after =>
          let stop := match after with
            | .leaves => ";;"
            | .falls => ";&"
            | .resumes => ";;&"
          let text := c.source fuel inner.within
          inner.newLine ++ joinWith " | ".toList (patterns.map word) ++ ')'
            :: (if text = [] then ['\n'] else inner.within.newLine) ++ text ++ inner.newLine
            ++ stop.toList
      "case ".toList ++ word w ++ " in ".toList ++ branches.flatMap branch ++ l.newLine
        ++ "esac".toList
    | .define name c =>
      "function ".toList ++ name ++ " () ".toList ++ l.newLine ++ Command.bodySource fuel l c
    | .rounds _ start condition step c =>
      "for ((".toList ++ parts start ++ "; ".toList ++ parts condition ++ "; ".toList ++ parts step
        ++ "))".toList ++ l.newLine ++ body "do" c "done"
    | .calculation _ ps => "((".toList ++ parts ps ++ "))".toList
    | .query _ q => "[[ ".toList ++ q.source fuel ++ " ]]".toList
    | .timed isShort c => (if isShort then "time -p " else "time ").toList ++ c.source fuel l

/-- The text of a command between braces. -/
def Command.enclosed : Nat → Layout → Command → Bytes
  | 0, _, _ => []
  | fuel + 1, l, c =>
    let tall := { l with isTall := true }
    "\x7b ".toList ++ l.within.newLine ++ c.source fuel tall.within ++ l.newLine ++ ['\x7d']

/-- The text of the body of a function. -/
def Command.bodySource : Nat → Layout → Command → Bytes
  | 0, _, _ => []
  | fuel + 1, l, c =>
    match c with
    | .group c => c.enclosed fuel l
    | .redirected _ (.group c) rs =>
      c.enclosed fuel l ++ rs.flatMap fun r => ' ' :: r.source fuel
    | c => c.enclosed fuel l

end

/-- More than the depth of any command. -/
def printingFuel : Nat := 1000000

/-- A function as it is shown. -/
def functionText (name : Bytes) (body : Command) : Bytes :=
  line (name ++ " () ".toList ++ '\n' :: body.bodySource printingFuel {})

/-- A command on one line as far as that is possible. -/
def commandText (c : Command) : Bytes :=
  c.source printingFuel {}

end LinkWatch.Host.Shell
