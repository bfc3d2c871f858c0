import LinkWatch.Host.Utility.Launching

/-!
# Programs on variables

A program is run with other variables, or the variables are shown. The arguments may come in one
text, which is divided into words much as a shell does it.
-/

namespace LinkWatch.Host.Utility

open LinkWatch.Text LinkWatch.Host.Kernel

/-! ## Arguments in one text -/

/-- Where words are divided. -/
inductive SplitPlace where
  | plain
  | single
  | double
  deriving DecidableEq

/-- What dividing a text has come to: the words in reverse, and the one that has begun in reverse.
-/
structure Splitting where
  words : List Bytes := []
  word : Option Bytes := none

/-- Adds a text to the word that has begun. -/
def Splitting.add (s : Splitting) (text : Bytes) : Splitting :=
  { s with word := some (text.reverse ++ s.word.getD []) }

/-- Ends the word that has begun. -/
def Splitting.close (s : Splitting) : Splitting :=
  match s.word with
  | some w => { words := w.reverse :: s.words }
  | none => s

/-- The character that a letter after a backslash stands for. -/
def splitEscape? (c : Char) : Option Char :=
  match c with
  | 'f' => some '\x0c'
  | 'n' => some '\n'
  | 'r' => some '\r'
  | 't' => some '\t'
  | 'v' => some '\x0b'
  | '"' => some '"'
  | '#' => some '#'
  | '$' => some '$'
  | '\'' => some '\''
  | '\\' => some '\\'
  | _ => none

/-- Divides a text into words. Quotes protect blanks, a backslash starts an escape, and names of
variables stand between braces after a dollar sign. -/
def splitWords (environment : Environment) : Nat → SplitPlace → Bytes → Splitting →
    Except Bytes (List Bytes)
  | 0, _, _, s => .ok s.close.words.reverse
  | fuel + 1, place, cs, s =>
    match place, cs with
    | .plain, [] => .ok s.close.words.reverse
    | _, [] => .error "no terminating quote in -S string".toList
    | .single, '\'' :: rest => splitWords environment fuel .plain rest (s.add [])
    | .single, '\\' :: '\\' :: rest => splitWords environment fuel .single rest (s.add ['\\'])
    | .single, '\\' :: '\'' :: rest => splitWords environment fuel .single rest (s.add ['\''])
    | .single, c :: rest => splitWords environment fuel .single rest (s.add [c])
    | .double, '"' :: rest => splitWords environment fuel .plain rest (s.add [])
    | .plain, '\'' :: rest => splitWords environment fuel .single rest (s.add [])
    | .plain, '"' :: rest => splitWords environment fuel .double rest (s.add [])
    | place, '\\' :: rest =>
      match rest with
      | [] => .error "invalid backslash at end of string in -S".toList
      | 'c' :: _ =>
        if place = .double then .error "'\\c' must not appear in double-quoted -S string".toList
        else .ok s.close.words.reverse
      | '_' :: rest =>
        if place = .double then splitWords environment fuel place rest (s.add [' '])
        else splitWords environment fuel place rest s.close
      | c :: rest =>
        match splitEscape? c with
        | some d => splitWords environment fuel place rest (s.add [d])
        | none => .error ("invalid sequence '\\".toList ++ c :: "' in -S".toList)
    | place, '$' :: rest =>
      let name := (rest.drop 1).takeWhile isNameChar
      let after := rest.drop (name.length + 1)
      if rest.head? = some '\x7b' && isName name && after.head? = some '\x7d' then
        let value := (environment.lookup name).getD []
        splitWords environment fuel place (after.drop 1)
          (if value = [] && place = .plain then s else s.add value)
      else .error ("only $\x7bVARNAME\x7d expansion is supported, error at: ".toList ++ cs)
    | .plain, c :: rest =>
      if isSpaceChar c then splitWords environment fuel .plain rest s.close
      else if c = '#' && s.word.isNone then .ok s.words.reverse
      else splitWords environment fuel .plain rest (s.add [c])
    | .double, c :: rest => splitWords environment fuel .double rest (s.add [c])

/-- The arguments with those in the place of a text that hold its words. Only options stand before
such a text. -/
def withSplitTexts (environment : Environment) : Nat → List Bytes → Except Bytes (List Bytes)
  | 0, arguments => .ok arguments
  | fuel + 1, arguments =>
    let go (before text : Bytes) (rest : List Bytes) : Except Bytes (List Bytes) :=
      (splitWords environment (text.length + 1) .plain text {}).bind fun words =>
        (withSplitTexts environment fuel (words ++ rest)).map fun all =>
          if before = ['-'] then all else before :: all
    let keep (count : Nat) : Except Bytes (List Bytes) :=
      (withSplitTexts environment fuel (arguments.drop count)).map (arguments.take count ++ ·)
    match arguments with
    | ['-'] :: _ => .ok arguments
    | ['-', '-'] :: _ => .ok arguments
    | ('-' :: '-' :: name) :: rest =>
      match cutAt? '=' name with
      | some (name, value) => if isSplitName name then go ['-'] value rest else keep 1
      | none =>
        if isSplitName name then
          match rest with
          | value :: rest => go ['-'] value rest
          | [] => .ok arguments
        else keep (if name = "unset".toList || name = "chdir".toList then 2 else 1)
    | ('-' :: letters) :: rest =>
      let plain := letters.takeWhile (· ∈ ['i', '0', 'v'])
      match letters.drop plain.length, rest with
      | 'S' :: [], value :: rest => go ('-' :: plain) value rest
      | 'S' :: value, _ => if value = [] then .ok arguments else go ('-' :: plain) value rest
      | [_], _ => keep 2
      | _, _ => keep 1
    | _ => .ok arguments
where
  /-- Whether a name means the option for a text. -/
  isSplitName (name : Bytes) : Bool := name ≠ [] && name.isPrefixOf "split-string".toList

/-! ## Variables -/

/-- The variables with another value of one of them. -/
def setVariable (e : Environment) (name value : Bytes) : Environment :=
  if e.any fun v => v.1 = name then e.map fun v => if v.1 = name then (name, value) else v
  else e ++ [(name, value)]

/-- Runs a program with other variables, or shows them. -/
def withEnvironment (perform : Performer) (c : Call) : Program Nat :=
  let t : OptionTable :=
    { plain := ['i', '0', 'v'], valued := ['u', 'C', 'S']
      long := [("ignore-environment", 'i'), ("null", '0'), ("unset", 'u'), ("chdir", 'C'),
        ("debug", 'v'), ("split-string", 'S')]
      isStrict := true }
  match withSplitTexts c.environment (c.arguments.length + 1) c.arguments with
  | .error words => c.refuse 125 words
  | .ok arguments =>
    let c := { c with arguments := arguments }
    c.withOptions t 125 fun o => do
      let isEmpty := o.has 'i' || o.operands.head? = some ['-']
      let operands := if o.operands.head? = some ['-'] then o.operands.drop 1 else o.operands
      let start := if isEmpty then [] else c.environment
      match (o.values 'u').find? fun name => name = [] || name.contains '=' with
      | some name =>
        c.refuse 125 ("cannot unset ".toList ++ inQuotes name ++ ": Invalid argument".toList)
      | none =>
        let start := start.filter fun v => !(o.values 'u').contains v.1
        let given := operands.takeWhile fun a => a.contains '='
        let environment := given.foldl (fun e a =>
          match cutAt? '=' a with
          | some (name, value) => setVariable e name value
          | none => e) start
        let ending := if o.has '0' then ['\x00'] else ['\n']
        match operands.drop given.length with
        | [] =>
          if o.has 'C' then c.misuse 125 "must specify command with --chdir (-C)".toList
          else c.deliver (environment.flatMap fun v => v.1 ++ '=' :: v.2 ++ ending) 0
        | words =>
          if o.has '0' then c.misuse 125 "cannot specify --null (-0) with command".toList
          else
            let directory := (o.value? 'C').getD []
            let entered : Except OsError Unit ← request (.files fun d =>
              if directory = [] then (.ok (), d)
              else
                match d.find directory with
                | .ok ⟨l, _, ⟨.directory, _, _⟩⟩ => (.ok (), { d with working := l })
                | .ok _ => (.error .notDirectory, d)
                | .error e => (.error e, d))
            match entered with
            | .error e =>
              c.refuse 125 ("cannot change directory to ".toList ++ inQuotes directory ++ ':' :: ' '
                :: wordsOf e)
            | .ok _ => becomeProgram perform c inQuotes (callOf environment words)

/-- Shows the values of variables. -/
def showEnvironment (c : Call) : Program Nat :=
  c.withOptions { plain := ['0'], long := [("null", '0')], isStrict := true } 2 fun o =>
    let ending := if o.has '0' then ['\x00'] else ['\n']
    match o.operands with
    | [] => c.deliver (c.environment.flatMap fun v => v.1 ++ '=' :: v.2 ++ ending) 0
    | names =>
      let values := names.map fun n => c.environment.lookup n
      c.deliver (values.flatMap fun v => v.elim [] fun text => text ++ ending)
        (if values.all Option.isSome then 0 else 1)

end LinkWatch.Host.Utility
