import LinkWatch.Host.Sigil.Run
import LinkWatch.Host.Utility.Environment

/-!
# Starting programs with marked names

The program stands in the arguments, in a file or in the input. Options may put it into a loop over
the lines of the input, cut these lines into fields, and write them afterwards.
-/

namespace LinkWatch.Host.Sigil

open LinkWatch.Text LinkWatch.Host.Kernel LinkWatch.Host.Utility

/-- How a program is to be run. -/
structure Setup where
  texts : List Bytes := []
  isLoop : Bool := false
  prints : Bool := false
  /-- Whether line ends are taken away and put back. -/
  endsLines : Bool := false
  splits : Bool := false
  divider : Option Bytes := none
  /-- What divides lines, if that has been said: nothing if all is one. -/
  separator : Option (Option Bytes) := none
  /-- What is written after each print. -/
  ending : Option Bytes := none
  inPlace : Option Bytes := none
  checks : Bool := false
  showsVersion : Bool := false
  /-- Statements before the program, from modules. -/
  modules : List Bytes := []
  words : List Bytes := []

/-- What is wrong with the options. -/
inductive OptionFault where
  | unknown (option : Bytes)
  | noCode
  | missing (letter : Char)

/-- The words for what is wrong with the options. -/
def OptionFault.text : OptionFault → Bytes
  | .unknown option =>
    line ("Unrecognized switch: -".toList ++ option ++ "  (-h will show valid options).".toList)
  | .noCode => line "No code specified for -e.".toList
  | .missing letter => line ("Missing argument to -".toList ++ [letter, '.'])

/-- What divides lines by a number in octal digits. -/
def separatorOf (digits : Bytes) : Option Bytes :=
  let n := (readBased 8 digits).1
  if digits = ['0'] then some []
  else if 255 < n then none
  else some [Char.ofNat n]

/-- Reads the letters of an argument of options; the answer is whether the next argument is used up.
-/
def Setup.letters (s : Setup) (next : Option Bytes) :
    Nat → Bytes → Except OptionFault (Setup × Bool)
  | 0, _ => .ok (s, false)
  | fuel + 1, cs =>
    match cs with
    | [] => .ok (s, false)
    | c :: rest =>
      let octal := (rest.takeWhile fun d => '0' ≤ d && d ≤ '7').take 4
      let code : Except OptionFault (Setup × Bool) :=
        if rest ≠ [] then .ok ({ s with texts := s.texts ++ [line rest] }, false)
        else match next with
          | some text => .ok ({ s with texts := s.texts ++ [line text] }, true)
          | none => .error .noCode
      let loaded : Except OptionFault (Setup × Bool) :=
        if rest ≠ [] then .ok ({ s with modules := s.modules ++ [rest] }, false)
        else .error (.missing c)
      match c with
      | 'e' => code
      | 'E' => code
      | 'n' => { s with isLoop := true }.letters next fuel rest
      | 'p' => { s with isLoop := true, prints := true }.letters next fuel rest
      | 'a' => { s with isLoop := true, splits := true }.letters next fuel rest
      | 'F' =>
        if rest ≠ [] then
          .ok ({ s with isLoop := true, splits := true, divider := some rest }, false)
        else .error (.missing 'F')
      | 'l' =>
        let digits := octal.take 3
        let ending : Bytes :=
          if digits ≠ [] then [Char.ofNat ((readBased 8 digits).1 % 256)]
          else match s.separator with
            | some (some []) => ['\n', '\n']
            | some (some mark) => mark
            | some none => []
            | none => ['\n']
        { s with endsLines := true, ending := some ending }.letters next fuel
          (rest.drop digits.length)
      | '0' =>
        let (mark, after) : Option Bytes × Bytes :=
          if rest.head? = some 'x' || rest.head? = some 'X' then
            let p := readBased 16 (rest.drop 1)
            (if p.1 < 256 then some [Char.ofNat p.1] else none, p.2)
          else (separatorOf octal, rest.drop octal.length)
        let mark := if octal = [] && rest.head? ≠ some 'x' then some ['\x00'] else mark
        { s with separator := some mark }.letters next fuel after
      | 'g' => { s with separator := some none }.letters next fuel rest
      | 'i' =>
        let ending := rest.takeWhile fun d => !isSpaceChar d
        .ok ({ s with inPlace := some ending }, false)
      | 'M' => loaded
      | 'm' => loaded
      | 'I' =>
        if rest ≠ [] then .ok (s, false)
        else if next.isSome then .ok (s, true) else .error (.missing 'I')
      | 'c' => { s with checks := true }.letters next fuel rest
      | 'v' => { s with showsVersion := true }.letters next fuel rest
      | '-' => .ok (s, false)
      | 'C' => s.letters next fuel (rest.dropWhile fun d => d.isDigit || d.isUpper)
      | c =>
        if "wWXtTuUSsf".toList.contains c then s.letters next fuel rest
        else .error (.unknown (c :: rest))

/-- Reads the arguments of a call. -/
def Setup.read : Setup → List Bytes → Nat → Except OptionFault Setup
  | s, _, 0 => .ok s
  | s, [], _ => .ok s
  | s, word :: words, fuel + 1 =>
    match word with
    | ['-', '-'] => .ok { s with words := words }
    | '-' :: c :: letters =>
      match s.letters words.head? (letters.length + 2) (c :: letters) with
      | .error e => .error e
      | .ok (s, usesNext) => s.read (if usesNext then words.drop 1 else words) fuel
    | _ => .ok { s with words := word :: words }

/-! ## The program -/

/-- The expression that cuts lines into fields. -/
def Setup.dividerTerm (s : Setup) : Term :=
  match s.divider with
  | none => .text [' ']
  | some text =>
    let mark := text.headD ' '
    let isMarked := ['/', '"', '\''].contains mark && 1 < text.length && text.getLast? = some mark
    let inside := if isMarked then (text.drop 1).dropLast else text
    if inside = [' '] then .text [' '] else .matched (.mk (.text inside) []) none false

/-- The statements of a program with the loop that options ask for. -/
def Setup.wrapped (s : Setup) (body : List Statement) : List Statement :=
  if !s.isLoop then body
  else
    let isOuter : Statement → Bool
      | .routine _ _ => true
      | .phase _ _ => true
      | _ => false
    let before : List Statement :=
      (if s.endsLines then [.plain 0 (.apply "chomp" [])] else [])
        ++ (if s.splits then
          [.plain 0 (.store (.held '@' (.named ['F'])) (.apply "split" [s.dividerTerm, topic]))]
        else [])
    let after : List Statement := if s.prints then [.plain 0 (.write "print" none [])] else []
    body.filter isOuter
      ++ [.loop "LINE".toList 0 none (some (asCondition (.input none))) after
        (before ++ body.filter fun b => !isOuter b)]

/-- A program without what follows its end, and what follows. -/
def withoutData : Nat → Bytes → Bytes → Bytes × Option Bytes
  | 0, out, cs => (out.reverse ++ cs, none)
  | fuel + 1, out, cs =>
    if cs = [] then (out.reverse, none)
    else
      let first := cs.takeWhile (· ≠ '\n')
      let rest := cs.drop (first.length + 1)
      if first = "__END__".toList || first = "__DATA__".toList then (out.reverse, some rest)
      else withoutData fuel ('\n' :: (first.reverse ++ out)) rest

/-- The memory before a program has done anything. -/
def Memory.start (title : Bytes) : Memory :=
  { title := title
    conduits := (([(0, "STDIN"), (1, "STDOUT"), (2, "STDERR")] : List (Nat × String)).map fun p =>
      (p.1, ({ title := p.2.toList, descriptor := some p.1 } : Conduit))).foldl
        (fun (t : Std.HashMap Nat Conduit) p => t.insert p.1 p.2) {}
    conduitNames := [("STDIN".toList, 0), ("STDOUT".toList, 1), ("STDERR".toList, 2)] }

/-- Gives the variables that every program has their values. -/
def prepare (s : Setup) (c : Call) (title : Bytes) (data : Option Bytes) (words : List Bytes) :
    Act Unit := do
  let (self, _) ← ask (request .identity)
  let (now, _) ← ask presentTime
  let settings : List (String × Scalar) :=
    [("/", .text ['\n']), ("\"", .text [' ']), (";", .text ['\x1c']), ("@", .text []),
      ("!", .text []), ("0", .text title), ("$", .ofNat self), ("^O", .text "linux".toList),
      ("^T", .whole now), ("^X", .text "/usr/bin/perl".toList), ("^V", .text "v5.36.0".toList),
      ("^W", .whole 0), ("]", .text "5.036000".toList), ("?", .whole 0), ("|", .whole 0)]
  for p in settings do setSetting p.1 p.2
  match s.separator with
  | some (some mark) => setSetting "/" (.text mark)
  | some none => setSetting "/" .none
  | none => pure ()
  match s.ending with
  | some mark => setSetting "\\" (.text mark)
  | none => pure ()
  setList (← addressOf "@ARGV".toList) (words.map Scalar.text).toArray
  let environment : List Scalar := c.environment.flatMap fun v => [.text v.1, .text v.2]
  setTable (← addressOf "%ENV".toList) (registerOf environment {})
  match data with
  | some text =>
    setConduit dataConduit
      { title := "DATA".toList, descriptor := none, buffer := text, isAtEnd := true }
    modify fun m => { m with conduitNames := ("DATA".toList, dataConduit) :: m.conduitNames }
  | none => pure ()

/-- The status of a program that has come to its end in some way, after the message about it. -/
def statusAfter (result : Except Halt Unit) : Act Nat := do
  let failed (text : Bytes) : Act Nat := do
    let _ ← putText 2 text
    let m ← get
    let last := (m.setting "?").int.toNat / 256
    return if m.errorNumber % 256 ≠ 0 then m.errorNumber % 256
      else if last % 256 ≠ 0 then last % 256 else 255
  let outside (word : String) : Act Nat := do
    let m ← get
    failed ("Can't \"".toList ++ word.toList ++ "\" outside a loop block".toList ++ m.place)
  match result with
  | .ok _ => return 0
  | .error (.give _) => return 0
  | .error (.exit status) => return status
  | .error (.die v) => failed v.asText
  | .error (.next _) => outside "next"
  | .error (.last _) => outside "last"
  | .error .redo => outside "redo"

/-- Runs what is meant for the end, and gives up all conduits. -/
def finishAll (k : Plan) (status : Nat) : Act Nat := do
  let mut status := status
  for (body, names) in (← get).endings do
    modify fun m => { m with names := names }
    setSetting "?" (.ofNat status)
    match ← tried (inBraces (runAll k streamFuel body)) with
    | .ok _ => status := (((← get).setting "?").int % 256).toNat
    | .error h => status := ← statusAfter (.error h)
  flushAll
  for (number, p) in (← get).conduits.toList do
    if p.child.isSome then
      let _ ← closeConduit number
  return status

/-- The routines and the statements for the start and the end that stand outside of all braces. -/
def settle (k : Plan) (body : List Statement) : Act Unit := do
  for s in body do
    match s with
    | .routine name inside =>
      modify fun m => { m with routines := m.routines.insert name ⟨inside, []⟩ }
    | _ => pure ()
  for s in body do
    match s with
    | .phase isEnd inside => runStatement k streamFuel (.phase isEnd inside)
    | _ => pure ()

/-- Whether a statement is left for its own time. -/
def isLater : Statement → Bool
  | .routine _ _ => false
  | .phase _ _ => false
  | _ => true

/-- Runs the text of a program. -/
def runText (perform : Performer) (c : Call) (s : Setup) (title text : Bytes) (words : List Bytes) :
    Program Nat := do
  let (text, data) := withoutData (text.length + 1) [] text
  match readProgram text with
  | .error mistake =>
    let (ending, status) : Bytes × Nat := match mistake.flaw with
      | .unexpected _ _ =>
        (if s.checks then line (title ++ " had compilation errors.".toList)
          else line ("Execution of ".toList ++ title
            ++ " aborted due to compilation errors.".toList), 255)
      | .unended _ => ([], 255)
      | .missing _ => ([], 2)
    let _ ← writeTo 2 (mistake.text title ++ ending)
    return status
  | .ok body =>
    if s.checks then
      let _ ← writeTo 2 (line (title ++ " syntax OK".toList))
      return 0
    else
      let body := s.wrapped body
      let k : Plan := { call := c, perform := perform }
      let whole : Act Nat := do
        prepare s c title data words
        let isFine := isInfix "Time::HiRes".toList text
          || s.modules.any fun m => isInfix "Time::HiRes".toList m
        modify fun m => { m with inPlace := s.inPlace, isFine := isFine }
        let result ← tried (do
          settle k body
          runAll k streamFuel (body.filter isLater))
        let status ← statusAfter result
        finishAll k status
      let (result, _) ← whole.run (Memory.start title)
      match result with
      | .ok status => return status
      | .error (.exit status) => return status
      | .error _ => return 255

/-- Runs a program with marked names. -/
def runScript (perform : Performer) (c : Call) : Program Nat := do
  match ({} : Setup).read c.arguments (c.arguments.length + 1) with
  | .error e =>
    let _ ← writeTo 2 e.text
    return 29
  | .ok s =>
    let asked := s.modules.map fun m => nameAt ((stripPrefix? ['-'] m).getD m)
    let absent := asked.find? fun m => !isThere m && m ≠ "Time::HiRes".toList
    if let some name := absent then
      let _ ← writeTo 2
        (line (missingWords name ++ ['.']) ++ line "BEGIN failed--compilation aborted.".toList)
      return 2
    else if s.showsVersion then
      let words :=
        "This is perl 5, version 36, subversion 0 (v5.36.0) built for x86_64-linux-gnu-thread-multi"
      c.deliver ('\n' :: line words.toList) 0
    else if s.texts ≠ [] then runText perform c s "-e".toList s.texts.flatten s.words
    else
      match s.words with
      | [] =>
        let text ← readAll 0
        runText perform c s ['-'] (text.toOption.getD []) []
      | path :: words =>
        match ← readFile path with
        | .ok text =>
          let first := text.takeWhile (· ≠ '\n')
          let options : Setup := match cut? "perl".toList first with
            | some (before, rest) =>
              if ['#', '!'].isPrefixOf before then
                match s.read ((pieces ' ' rest).filter (· ≠ [])) 10 with
                | .ok s => s
                | .error _ => s
              else s
            | none => s
          runText perform c options path text words
        | .error e =>
          let _ ← writeTo 2
            (line ("Can't open perl script \"".toList ++ path ++ "\": ".toList ++ wordsOf e))
          return 2

end LinkWatch.Host.Sigil
