import LinkWatch.Host.Shell.Intake
import LinkWatch.Host.Shell.Jobs
import LinkWatch.Host.Shell.Limits
import LinkWatch.Host.Shell.Lookup
import LinkWatch.Host.Shell.Stack
import LinkWatch.Host.Shell.Switches
import LinkWatch.Host.Shell.Testing

/-!
# Running commands

A command changes the shell that runs it. Commands that run as processes of their own work on a copy
of the shell, of which only the status comes back. Fuel bounds the depth of commands within
commands; a shell that goes deeper has run out of space.
-/

namespace LinkWatch.Host.Shell

open LinkWatch.Text LinkWatch.Host.Kernel LinkWatch.Host.Utility LinkWatch.Child

/-- In what place a command is run. -/
structure Mode where
  /-- Whether a failure has no further effect. -/
  isTested : Bool := false
  /-- Whether the shell ends after the command. -/
  isLast : Bool := false

/-- Runs a command. -/
abbrev Runner := Mode → Command → Act Unit

/-- Sets the status. -/
def setStatus (status : Nat) : Act Unit :=
  modify fun s => { s with status := status }

/-! ## Texts of scripts -/

/-- The reader at the start of the next line, with what the shell knows by now. -/
def Reader.prepared (r : Reader) (s : State) : Reader :=
  { r with
    aliases := if s.isRich && !s.switched "expand_aliases" then [] else s.aliases
    count := s.documentCount, documents := [], isRich := s.isRich,
    hasGroups := s.switched "extglob" }

/-- Reports that a text cannot be read from some place on. -/
def reportMistake (start : Reader) (m : Mistake) : Act Unit := do
  let s ← get
  if !s.isRich then
    modify fun s => { s with line := m.line }
    fail m.flaw.commonWords
  else
    let title := if s.title = [] then [] else s.title ++ [':', ' ']
    let isEnd := match m.flaw with
      | .unexpected .ending _ => true
      | _ => false
    let n := if isEnd then m.line + 1 else m.line
    let place := s.place ++ ':' :: ' ' :: title ++ "line ".toList ++ digitsOf n ++ [':', ' ']
    let (words, isShown) := m.flaw.richWords
    let source := ((pieces '\n' start.rest)[m.line - start.line]?).getD []
    let shown := if isShown then line (place ++ '\x60' :: source ++ ['\'']) else []
    let _ ← ask (.write 2 (line (place ++ words) ++ shown))
    modify fun s => { s with status := 2 }

/-- Shows what has been read between two states of a reader, if that is wished. -/
def showRead (before after : Reader) : Act Unit := do
  let s ← get
  if s.isRich && s.has 'v' then
    let text := before.rest.take (before.rest.length - after.rest.length)
    let _ ← ask (.write 2 (if text.getLast? = some '\n' then text else line text))

/-- Runs the commands of a text line by line. The status is that of the last command. -/
def runLines (run : Runner) (mode : Mode) : Nat → Reader → Nat → Act Nat
  | 0, _, status => return status
  | fuel + 1, r, status => do
    if r.isDone then return status
    else
      let s ← get
      let r := r.prepared s
      match r.next with
      | .error m =>
        reportMistake r m
        return 2
      | .ok reading =>
        set { s with
          documents := reading.reader.documents ++ s.documents
          documentCount := reading.reader.count }
        showRead r reading.reader
        match reading.command with
        | .nothing => runLines run mode fuel reading.reader status
        | c =>
          match ← attempt (run { mode with isLast := mode.isLast && reading.isLast } c) with
          | .ok _ => pure ()
          | .error (.give status) =>
            if (← get).copies = 0 then modify fun s => { s with status := status }
            else throw (.give status)
          | .error d => throw d
          let s ← get
          runLines run mode fuel reading.reader s.status

/-- Runs a text whose first line has a number. -/
def runTextFrom (run : Runner) (mode : Mode) (start : Nat) (text : Bytes) : Act Nat :=
  runLines run mode (text.length + 1) { rest := text, line := start } 0

/-- Runs a text. -/
def runText (run : Runner) (mode : Mode) (text : Bytes) : Act Nat := do
  let s ← get
  runTextFrom run mode (if s.isRich && s.title ≠ "-c".toList then s.line else 1) text

/-- Does something with a text that is run within another one. -/
def nested {α : Type} (a : Act α) : Act α := do
  modify fun s => { s with nesting := s.nesting + 1 }
  afterwards a (modify fun s => { s with nesting := s.nesting - 1 })

/-- Does what is to be done on a signal or an event. -/
def trapped {α : Type} (a : Act α) : Act α := do
  let s ← get
  set { s with isTrapped := true }
  afterwards (nested a) (modify fun t => { t with isTrapped := s.isTrapped })

/-! ## The end of a shell -/

/-- The status with which a shell ends. -/
def State.endStatus (s : State) : Except Departure Unit → Nat
  | .ok _ => s.status
  | .error (.exit status) => status
  | .error (.fault status) => status
  | .error (.return status) => status
  | .error (.give status) => status
  | .error (.leave _) => s.status
  | .error (.skip _) => s.status

/-- Runs something as the last thing that a shell does, and then what is to be done at its end. -/
def conclude (run : Runner) (a : Act Unit) (s : State) : Program Nat := do
  let (result, s) ← a.run s
  let status := s.endStatus result
  match s.traps.lookup 0 with
  | none => return status
  | some text =>
    let last := { s with
      status := status, traps := s.traps.filter fun t => t.1 ≠ 0, loops := 0
      statusBefore := some status }
    let (result, _) ← (runText run {} text).run last
    match result with
    | .error (.exit status) => return status
    | .error (.fault status) => return status
    | _ => return status

/-- Starts a copy of the shell that does something and ends; its number is the answer. -/
def fork (run : Runner) (a : Act Unit) : Act Nat := do
  let s ← get
  ask (.fork (conclude run (becomeCopy >>= fun _ => a) s).action)

/-- Runs a command for its output, without the line ends after it. -/
def readOutput (run : Runner) (c : Command) : Act Bytes := do
  match c with
  | .nothing => return []
  | c =>
    let (source, sink) ← ask .pipe
    let _ ← openJob
    let child ← fork run do
      ask (.close source)
      let _ ← ask (.copy sink 1)
      ask (.close sink)
      modify fun s => { s with
        nesting := s.nesting + 1
        options := if s.isRich && !s.switched "inherit_errexit" then s.options.filter (· ≠ 'e')
          else s.options }
      run { isLast := true } c
    ask (.close sink)
    let text ← within (readAll source)
    ask (.close source)
    let status ← awaitCommand [child]
    modify fun s => { s with outputStatus := status }
    let text := (text.toOption.getD []).filter (· ≠ '\x00')
    return (text.reverse.dropWhile (· = '\n')).reverse

/-- Starts a command whose output is read, or input written, by the path that comes back. -/
def openStream (run : Runner) (isOutput : Bool) (c : Command) : Act Bytes := do
  let (source, sink) ← ask .pipe
  let (kept, given, target) := if isOutput then (source, sink, 1) else (sink, source, 0)
  let child ← fork run do
    ask (.close kept)
    let _ ← ask (.copy given target)
    ask (.close given)
    run { isLast := true } c
  ask (.close given)
  let s ← get
  let descriptor := 63 - s.streams.length
  let _ ← ask (.copy kept descriptor)
  ask (.close kept)
  set { s with
    streams := descriptor :: s.streams, streamProcesses := s.streamProcesses ++ [child] }
  return "/dev/fd/".toList ++ digitsOf descriptor

/-- Does something, after which the streams that it has opened are closed. -/
def withStreams {α : Type} (a : Act α) : Act α := do
  let s ← get
  if !s.isRich then a
  else
    afterwards a do
      let t ← get
      (t.streams.filter fun d => !s.streams.contains d).forM fun d => ask (.close d)
      modify fun t => { t with streams := s.streams }

/-- The text of the file that a command only reads. -/
def readFileText (sub : Substitute) (word : List Part) : Act Bytes := do
  let path := glyphText (← expandWhole sub word)
  match ← within (readFile path) with
  | .ok text => return (text.reverse.dropWhile (· = '\n')).reverse
  | .error e =>
    warn (path ++ ':' :: ' ' :: wordsOf e)
    modify fun s => { s with outputStatus := 1 }
    return []

/-- How commands within words are run. -/
def substitute (run : Runner) : Substitute :=
  let plain : Substitute := { output := readOutput run, stream := openStream run }
  { plain with
    output := fun c => do
      match (← get).isRich, c with
      | true, .simple _ [] [] [.file 0 .read _ word] => readFileText plain word
      | _, c => readOutput run c }

/-! ## Redirections -/

/-- A change of one descriptor. -/
inductive Change where
  | file (descriptor : Nat) (opening : Opening) (isNew : Bool) (path : Bytes)
  | copy (descriptor source : Nat)
  | close (descriptor : Nat)
  | supply (descriptor : Nat) (text : Bytes)
  /-- A change that cannot be made, with the reason. -/
  | refused (words : Bytes)

/-- Makes a change, or tells why it cannot be made. -/
def Change.apply : Change → Act Bool
  | .file d opening isNew path => do
    match ← ask (.open d path opening isNew) with
    | .ok _ => return true
    | .error e =>
      let isRich := (← get).isRich
      let reason := if isNew && e = .exists then "cannot overwrite existing file".toList
        else wordsOf e
      warn (if isRich then path ++ ':' :: ' ' :: reason
        else if opening = .read then "cannot open ".toList ++ path ++ ':' :: ' ' :: openWords e
        else "cannot create ".toList ++ path ++ ':' :: ' ' :: createWords e)
      return false
  | .copy d source => do
    match ← ask (.copy source d) with
    | .ok _ => return true
    | .error e =>
      warn (digitsOf source ++ ':' :: ' ' :: wordsOf e)
      return false
  | .close d => do
    ask (.close d)
    return true
  | .supply d text => do
    ask (.supply d text)
    return true
  | .refused words => do
    if words ≠ [] then warn words
    return false

/-- The path that a redirection names. In the rich language it has to be one field. -/
def pathOf (sub : Substitute) (word : List Part) : Act (Except Bytes Bytes) := do
  if (← get).isRich then
    match ← expandWords sub [.mk word] with
    | [path] => return .ok path
    | _ => return .error (literalText word ++ ": ambiguous redirect".toList)
  else return .ok (glyphText (← expandWhole sub word))

/-- The first descriptor from some number on that is not open. -/
def freeDescriptor : Nat → Nat → Act Nat
  | 0, d => return d
  | fuel + 1, d => do
    match ← ask (.inspect d) with
    | some _ => freeDescriptor fuel (d + 1)
    | none => return d

/-- The changes that a redirection asks for, perhaps of another descriptor than it names. -/
def changesOf (run : Runner) (other : Option Nat) (r : Redirection) : Act (List Change) := do
  let output := substitute run
  let isRich := (← get).isRich
  match r with
  | .file d opening isForced word =>
    let d := other.getD d
    match ← pathOf output word with
    | .error words => return [.refused words]
    | .ok path =>
      let s ← get
      return [.file d opening (s.has 'C' && opening = .write && !isForced) path]
  | .named name r =>
    let chosen ← match r with
      | .copy _ _ [.text ['-']] => do
        let s ← get
        pure ((s.stored? name).bind natural?)
      | _ => pure none
    match chosen with
    | some d => return [.close d]
    | none =>
      let d ← freeDescriptor 1000 10
      let changes ← changesOf run (some d) r
      let isDone ← changes.foldlM (fun isDone c => if isDone then c.apply else pure false) true
      if isDone then
        assign name (digitsOf d)
        return []
      else return [.refused []]
  | .copy d _ word =>
    let d := other.getD d
    let text := glyphText (← expandWhole output word)
    match text with
    | ['-'] => return [.close d]
    | text =>
      let moves := isRich && text.getLast? = some '-'
      let digits := if moves then text.dropLast else text
      match natural? digits with
      | some n =>
        if isRich then return .copy d n :: (if moves then [.close n] else [])
        else if digits.length = 1 then return [.copy d n]
        else fail badNumber
      | none =>
        if isRich then return [.refused (text ++ ": ambiguous redirect".toList)] else fail badNumber
  | .document d n =>
    let s ← get
    return [.supply (other.getD d) (← expandDocument output ((s.documents.lookup n).getD []))]
  | .supply d word =>
    return [.supply (other.getD d) (glyphText (← expandWhole output word) ++ ['\n'])]
  | .both opening word =>
    match ← pathOf output word with
    | .error words => return [.refused words]
    | .ok path =>
      let s ← get
      return [.file 1 opening (s.has 'C' && opening = .write) path, .copy 2 1]
where
  /-- The words for something that is no descriptor. -/
  badNumber : Bytes := "Syntax error: Bad fd number".toList

/-- The changes that some redirections ask for. -/
def allChanges (run : Runner) (rs : List Redirection) : Act (List Change) := do
  let changes ← rs.mapM (changesOf run none)
  return changes.flatten

/-- Makes changes as far as they can be made. -/
def applyAll : List Change → Act Bool
  | [] => return true
  | c :: cs => do if ← c.apply then applyAll cs else return false

/-- Does something with changed descriptors, which come back unless they stay for good. The answer
is whether the changes could be made. -/
def withChanges (changes : List Change) (stays : Bool) (a : Act Unit) : Act Bool := do
  if changes.isEmpty then
    a
    return true
  else
    ask .keep
    afterwards (do
      if ← applyAll changes then
        a
        return true
      else return false)
      (if stays then ask (.forget false) else ask .recall)

/-! ## Programs -/

/-- A program that has been found, with how it is called, or why it cannot be started. -/
abbrev FoundCall := Except OsError (String × Call)

/-- The words for a program that cannot be run, in the rich language. -/
def richRunWords (name : Bytes) (e : OsError) : Act Bytes := do
  match e with
  | .notFound => return if name.contains '/' then wordsOf e else "command not found".toList
  | .permissionDenied =>
    let isDirectory ← ask (.files fun d => (d.isDirectory name, d))
    return wordsOf (if isDirectory then .isDirectory else e)
  | e => return wordsOf e

/-- Runs a program in the place of the shell. -/
def becomeFound (perform : Performer) (found : FoundCall) (name : Bytes) : Act Nat := do
  match found with
  | .ok (program, c) =>
    ask .become
    modify fun s => { s with traps := [] }
    within (perform program c)
  | .error e =>
    if (← get).isRich then
      warn (name ++ ':' :: ' ' :: (← richRunWords name e))
      return if e = .notFound then 127 else 126
    else
      warn (name ++ ':' :: ' ' :: runWords e)
      return if e ∈ [.notFound, .notDirectory, .nameTooLong] then 127 else 126

/-- What words call, and the program that is found for it. In the rich language it is told its
path. -/
def findCall (words : List Bytes) (standard : Bool) : Act (Bytes × FoundCall) := do
  let s ← get
  let c := callOf s.environment words
  let directories := if standard then usualDirectories else s.searchPath
  let place := if standard then none else s.places.lookup c.name
  let found ← ask (.files fun d =>
    let path := place.elim ((programPath? d directories c.name).getD c.name) Prod.fst
    let own : Bytes × Bytes := (['_'], path)
    let c := if s.isRich then { c with environment := c.environment ++ [own] } else c
    let found := match place with
      | some (path, _) =>
        ({ c with name := path }.resolve directories true d).map fun (p : String × Call) =>
          (p.1, if p.2.name = path then { p.2 with name := c.name } else p.2)
      | none => c.resolve directories true d
    (found, d))
  match place, found with
  | some (path, _), .error _ => return (path, found)
  | _, _ => return (c.name, found)

/-- Notes that a program has been called that had to be looked for. -/
def noteCall (name : Bytes) : Act Unit := do
  let s ← get
  if s.isRich then
    match s.places.lookup name with
    | some (path, calls) => set (s.remember name path (calls + 1))
    | none =>
      match ← ask (.files fun d => (programPath? d s.searchPath name, d)) with
      | some path => set (s.remember name path 1)
      | none => return ()
  else if !s.known.contains name then set { s with known := s.known ++ [name] }

/-- The variables as a program sees them that runs in the place of the shell. -/
def lowerLevel : Act Unit := do
  let s ← get
  let name : Bytes := "SHLVL".toList
  if s.isRich then
    match (s.stored? name).bind natural? with
    | some n => set (s.put name (.text (digitsOf (n - 1))))
    | none => pure ()

/-- Whether something is to be done when a signal comes or the shell ends. -/
def State.hasTraps (s : State) : Bool :=
  s.traps.any fun t => t.2 ≠ []

/-- Runs a program, in the place of the shell if nothing follows. -/
def runProgram (perform : Performer) (run : Runner) (mode : Mode) (words : List Bytes)
    (standard : Bool) : Act Unit := do
  let (name, found) ← findCall words standard
  let s ← get
  let hasSlash := name.contains '/'
  match hasSlash, found with
  | false, .error .notFound =>
    let e : OsError := if name = [] then .permissionDenied else .notFound
    if s.isRich then warn (name ++ ": command not found".toList)
    else warn (name ++ ':' :: ' ' :: runWords e)
    setStatus 127
  | _, _ =>
    if !hasSlash then noteCall name
    if mode.isLast && !s.hasTraps then
      lowerLevel
      let found ← if s.isRich then do pure (← findCall words standard).2 else pure found
      throw (.exit (← becomeFound perform found name))
    else
      let _ ← openJob
      let child ← fork run do
        setStatus (← becomeFound perform found name)
      setStatus (← awaitCommand [child])

/-- Runs a program in the place of the shell for good. -/
def replaceShell (perform : Performer) : Builtin := fun arguments =>
  withGiven [] [] arguments fun g => do
    if g.operands = [] then return 0
    else
      lowerLevel
      let (name, found) ← findCall g.operands false
      match (← get).isRich, found with
      | true, .error .notFound =>
        warn (name ++ ": not found".toList)
        throw (.exit 127)
      | _, found => throw (.exit (← becomeFound perform found name))

/-! ## Commands that run others -/

/-- Does something with a text whose place messages name in a certain way. -/
def withTitle {α : Type} (title : Bytes) (a : Act α) : Act α := do
  let s ← get
  set { s with title := title, command := if s.isRich then none else s.command }
  afterwards a (modify fun t => { t with title := s.title })

/-- Runs the arguments as a text. -/
def evaluateText (run : Runner) (mode : Mode) : Builtin := fun arguments =>
  withTitle "eval".toList
    (nested (runText run { isTested := mode.isTested } (joinWords arguments)))

/-- Does something that may be left with a status. -/
def untilReturn (a : Act Nat) : Act Nat := do
  match ← attempt a with
  | .ok status => return status
  | .error (.return status) => return status
  | .error d => throw d

/-- The event that a function or a file has come to its end. -/
def returnEvent : Nat := 67

/-- Does what is to be done after a function or a file. -/
def afterReturn (run : Runner) (status : Nat) : Act Unit := do
  let s ← get
  match if s.isRich then s.traps.lookup returnEvent else none with
  | some text =>
    set { s with traps := s.traps.filter fun t => t.1 ≠ returnEvent }
    let _ ← trapped (runTextFrom run {} s.line text)
    modify fun t => { t with status := status, traps := s.traps }
  | none => pure ()

/-- Runs the text of a file. -/
def runFile (run : Runner) : Builtin := fun arguments =>
  withGiven [] [] arguments fun g => do
    match g.operands with
    | [] =>
      if (← get).isRich then failUsage [] (some "filename argument required".toList) else return 0
    | name :: arguments =>
      let s ← get
      let isFile (d : Disk) (path : Bytes) : Bool :=
        match d.find path with
        | .ok ⟨_, _, ⟨.file _, _, _⟩⟩ => true
        | _ => false
      let candidates := s.searchPath.map fun d => d ++ '/' :: name
      let found? ← if name.contains '/' then pure (some name)
        else ask (.files fun d => (candidates.find? (isFile d), d))
      let path? := if s.isRich then some (found?.getD name) else found?
      match path? with
      | none => fail (name ++ ": not found".toList)
      | some path =>
        match s.isRich, ← within (readFile path) with
        | false, .error .isDirectory => return 0
        | isRich, .error e =>
          if isRich then modify fun s => { s with command := none }
          failAs 1 ("cannot open ".toList ++ path ++ ':' :: ' ' :: openWords e)
            (path ++ ':' :: ' ' :: wordsOf e)
        | false, .ok text =>
          modify fun s => { s with command := some path }
          untilReturn (runText run {} text)
        | true, .ok text =>
          let old ← get
          if arguments ≠ [] then set (old.withArguments arguments)
          let frame : Frame := { name := "source".toList, line := old.line, source := path }
          modify fun s => { s with callers := frame :: old.callers, origin := path, line := 1 }
          let body : Act Nat := do
            let status ← withTitle [] (nested (untilReturn (runText run {} text)))
            afterReturn run status
            return status
          afterwards body (modify fun s =>
            { s with
              callers := old.callers, origin := old.origin, line := old.line
              arguments := if arguments ≠ [] then old.arguments else s.arguments })

/-- The number of loops to be left: at most as many as there are. -/
def loopsLeft (arguments : List Bytes) : Act Nat := do
  let s ← get
  if s.isRich && s.loops = 0 then
    warn "only meaningful in a \x60for', \x60while', or \x60until' loop".toList
    return 0
  else
    let n ← match arguments with
      | [] => pure 1
      | a :: _ => do
        if s.isRich then
          match integer? a with
          | some n =>
            if n < 1 then failAs 1 [] (a ++ ": loop count out of range".toList) else pure n.toNat
          | none =>
            warn (a ++ ": numeric argument required".toList)
            throw (.exit 129)
        else
          let n ← number a
          if n = 0 then fail ("Illegal number: ".toList ++ a) else pure n
    return min n s.loops

/-- Leaves loops or goes on with their next round. -/
def departLoops (how : Nat → Departure) : Builtin := fun arguments => do
  let n ← loopsLeft arguments
  setStatus 0
  if 0 < n then throw (how n) else return 0

/-- The status that an argument gives in the rich language, where only its last eight bits count. -/
def wideStatus (text : Bytes) : Act Nat := do
  match integer? text with
  | some n => return (n % 256).toNat
  | none =>
    warn (text ++ ": numeric argument required".toList)
    let s ← get
    if s.command = some "exit".toList then throw (.exit 2) else throw (.return 2)

/-- Leaves a function or a file. -/
def returnStatus : Builtin := fun arguments => do
  let s ← get
  if s.isRich && s.depth = 0 && s.title ≠ [] then
    failAs 2 [] "can only \x60return' from a function or sourced script".toList
  else
    match arguments with
    | [] => throw (.return s.status)
    | a :: _ =>
      let n ← if s.isRich then wideStatus a else number a
      if !s.isRich then setStatus n
      throw (.return n)

/-- Ends the shell. -/
def exitShell : Builtin := fun arguments => do
  let s ← get
  match arguments with
  | [] => throw (.exit (s.statusBefore.getD s.status))
  | a :: others =>
    if s.isRich then
      let n ← wideStatus a
      if others ≠ [] then
        warn "too many arguments".toList
        throw (.give 1)
      else throw (.exit n)
    else throw (.exit (← number a))

/-- Runs a command of the shell by its name only. -/
def runOnly (builtin : String → Builtin) : Builtin := fun arguments => do
  match arguments with
  | [] => return 0
  | name :: rest =>
    if String.ofList name ∈ richCommands then builtin (String.ofList name) rest
    else
      warn (name ++ ": not a shell builtin".toList)
      return 1

/-- Tells from where a function or a file has been called. -/
def tellCaller : Builtin := fun arguments => do
  let frames := (← get).callers
  match arguments, frames with
  | _, [] => return 1
  | [], f :: rest =>
    let source := rest.head?.elim "NULL".toList Frame.source
    say (line (digitsOf f.line ++ ' ' :: source)) 0
  | word :: _, frames =>
    match natural? word with
    | none =>
      warn (word ++ ": invalid number".toList)
      let _ ← ask (.write 2 (line "caller: usage: caller [expr]".toList))
      return 2
    | some n =>
      match frames[n]?, frames[n + 1]? with
      | some f, some g => say (line (digitsOf f.line ++ ' ' :: g.name ++ ' ' :: g.source)) 0
      | _, _ => return 1

/-- What a command of a shell does that only the rich language has, or that works differently
there. -/
def richBuiltin? (builtin : String → Builtin) (run : Runner) (name : String) : Option Builtin :=
  match name with
  | "declare" => some fun arguments => do
    let s ← get
    declareNames (0 < s.depth) arguments
  | "typeset" => some fun arguments => do
    let s ← get
    declareNames (0 < s.depth) arguments
  | "local" => some declareOwn
  | "export" => some (declareMarked 'x')
  | "readonly" => some (declareMarked 'r')
  | "unset" => some removeNamed
  | "set" => some setRich
  | "shopt" => some turnSwitches
  | "let" => some calculateAll
  | "read" => some readRich
  | "mapfile" => some readRow
  | "readarray" => some readRow
  | "pushd" => some pushDirectory
  | "popd" => some popDirectory
  | "dirs" => some listStack
  | "type" => some tellRich
  | "source" => some (runFile run)
  | "builtin" => some (runOnly builtin)
  | "test" => some (testRich false)
  | "[" => some (testRich true)
  | "caller" => some tellCaller
  | "enable" => some enableCommands
  | "compgen" => some listCandidates
  | "disown" => some disownJobs
  | "logout" => some fun _ => failAs 1 [] "not login shell: use \x60exit'".toList
  | "suspend" => some fun _ => failAs 1 [] "cannot suspend: no job control".toList
  | "hash" => some rememberPlaces
  | name =>
    if name ∈ ["history", "complete", "compopt", "bind", "help", "fc"] then
      some fun _ => return 0
    else none

/-- What a command of the shell does. -/
def builtin (perform : Performer) (run : Runner) (mode : Mode) (name : String) : Builtin :=
  match name with
  | ":" => fun _ => return 0
  | "true" => fun _ => return 0
  | "false" => fun _ => return 1
  | "echo" => echo
  | "printf" => fill
  | "test" => testWords false
  | "[" => testWords true
  | "export" => markVariables "export" Binding.exported fun b => { b with exported := true }
  | "readonly" => markVariables "readonly" Binding.fixed fun b => { b with fixed := true }
  | "unset" => removeNames
  | "local" => makeLocal
  | "set" => setShell
  | "shift" => shift
  | "getopts" => readNextOption
  | "read" => readVariables
  | "cd" => changeDirectory
  | "chdir" => changeDirectory
  | "pwd" => tellDirectory
  | "umask" => setMask
  | "ulimit" => setLimit
  | "times" => tellTimes
  | "wait" => waitJobs
  | "jobs" => listJobs
  | "kill" => sendSignals
  | "trap" => setTraps
  | "type" => tellMeanings
  | "command" => tellCommand
  | "hash" => rememberPrograms
  | "alias" => setAliases
  | "unalias" => removeAliases
  | "exec" => replaceShell perform
  | "eval" => evaluateText run mode
  | "." => runFile run
  | "break" => departLoops .leave
  | "continue" => departLoops .skip
  | "return" => returnStatus
  | "exit" => exitShell
  | _ => fun _ => failAs 1 "No current job".toList "no job control".toList

/-- What a command of the shell does, in the language of the shell. -/
def ownCommand (perform : Performer) (run : Runner) (mode : Mode) (name : String) : Builtin :=
  fun arguments => do
    let common := builtin perform run mode
    if (← get).isRich then ((richBuiltin? common run name).getD (common name)) arguments
    else common name arguments

/-- The commands that go on if a variable cannot be given a value. -/
def fillingNames : List String :=
  ["read", "mapfile", "readarray", "printf", "getopts"] ++ declaringNames

/-- Runs a command of the shell. A fault in it ends the shell only where it is a special one. -/
def runBuiltin (b : Builtin) (name : Bytes) (arguments : List Bytes) (isSpecial : Bool) :
    Act Unit := do
  let outer := (← get).command
  modify fun s => { s with command := some name }
  match ← attempt (afterwards (b arguments) (modify fun s => { s with command := outer })) with
  | .ok status => setStatus status
  | .error (.fault status) => if isSpecial then throw (.fault status) else setStatus status
  | .error (.give status) =>
    if String.ofList name ∈ fillingNames then setStatus status else throw (.give status)
  | .error d => throw d

/-- The greatest number of functions within functions. -/
def deepest : Nat := 1000

/-- Runs a function. -/
def runFunction (run : Runner) (mode : Mode) (name : Bytes) (body : Command)
    (arguments : List Bytes) : Act Unit := do
  let s ← get
  if deepest ≤ s.depth && !s.isRich then
    fail ("Maximum function recursion depth (".toList ++ digitsOf deepest ++ ") reached".toList)
  else
    let index := if s.isRich then s.optionIndex else 1
    let source := (s.origins.lookup name).getD s.origin
    let frame : Frame := { name := name, line := s.line, source := source }
    let usual := if s.isRich && !s.has 'T' then s.traps.lookup returnEvent else none
    set { s.withArguments arguments with
      depth := s.depth + 1, loops := 0, callers := frame :: s.callers, optionIndex := index
      traps := if usual.isSome then s.traps.filter fun t => t.1 ≠ returnEvent else s.traps }
    let status ← afterwards
      (do
        let status ← untilReturn do
          run { isTested := mode.isTested } body
          return (← get).status
        afterReturn run status
        return status)
      (modify fun t => { t with
        traps := match usual with
          | some text => (returnEvent, text) :: t.traps.filter fun t => t.1 ≠ returnEvent
          | none => t.traps
        arguments := s.arguments
        optionIndex := if s.isRich then t.optionIndex else s.optionIndex
        optionOffset := if s.isRich then t.optionOffset else s.optionOffset
        depth := s.depth, loops := s.loops, callers := s.callers })
    setStatus status

/-! ## Simple commands -/

/-- The words that are called, and how. -/
structure Invocation where
  words : List Bytes
  /-- Whether a fault ends the shell and assignments last. -/
  isSpecial : Bool := false
  /-- Whether functions are passed over. -/
  isPrefixed : Bool := false
  /-- Whether programs are looked for in the usual directories. -/
  isStandard : Bool := false

/-- The words after the options of `command` if they are to be run, and whether in the usual
directories. -/
def wordsAfterCommand (standard : Bool) : List Bytes → Option (List Bytes × Bool)
  | [] => none
  | ['-', '-'] :: rest => if rest = [] then none else some (rest, standard)
  | ('-' :: c :: cs) :: rest =>
    if (c :: cs).all (· = 'p') then wordsAfterCommand true rest else none
  | word :: rest => some (word :: rest, standard)

/-- The invocation that words stand for. -/
def State.invocation (s : State) : Nat → Invocation → Invocation
  | 0, i => i
  | fuel + 1, i =>
    match i.words with
    | [] => i
    | name :: rest =>
      let isFunction := !i.isPrefixed && (s.functions.lookup name).isSome
      if name = "command".toList && !isFunction then
        match wordsAfterCommand i.isStandard rest with
        | some (words, standard) =>
          s.invocation fuel { words := words, isPrefixed := true, isStandard := standard }
        | none => i
      else
        { i with isSpecial := !i.isPrefixed && !s.isRich && String.ofList name ∈ specialCommands }

/-- Whether the arguments after some words may be assignments. -/
def State.takesAssignments (s : State) (words : List Bytes) : Bool :=
  let i := s.invocation (words.length + 1) { words := words }
  match i.words with
  | name :: _ =>
    String.ofList name ∈ (if s.isRich then declaringNames else assigningCommands)
      && (i.isSpecial || i.isPrefixed || (s.functions.lookup name).isNone)
  | [] => false

/-- The fields of the words of a command. -/
def expandCommand (output : Substitute) : List Bytes → List Word → Act (List Bytes)
  | before, [] => return before
  | before, w :: ws => do
    let s ← get
    match if s.takesAssignments before then assignment? s.isRich w.parts else none with
    | some a => do
      let field ← assignmentField output a
      expandCommand output (before ++ [field]) ws
    | none =>
      let fields ← expandWords output [w]
      expandCommand output (before ++ fields) ws

/-- The descriptor by which commands are traced while the error stream is changed. -/
def traceDescriptor : Nat := 62

/-- Writes a command before it is run. -/
def trace (output : Substitute) (descriptor : Nat) (words : List Bytes) : Act Unit := do
  let s ← get
  let mark := (s.stored? "PS4".toList).getD []
  let start ← if mark.all isOrdinary then pure mark else expandDocument output (readText mark)
  let start := if s.isRich then List.replicate s.nesting (start.headD '+') ++ start else start
  let _ ← ask (.write descriptor (line (start ++ joinWords words)))

/-- Writes a simple command before it is run: in the rich language each assignment by itself. -/
def traceSimple (output : Substitute) (descriptor : Nat) (assigned fields : List Bytes) :
    Act Unit := do
  if (← get).isRich then
    assigned.forM fun a => trace output descriptor [a]
    let command := String.ofList (fields.headD [])
    let shown := fields.map fun f =>
      if declaringNames.contains command then tracedArgument f else (none, tracedWord f)
    shown.forM fun p => p.1.elim (return ()) fun l => trace output descriptor [l]
    if fields ≠ [] then trace output descriptor (shown.map Prod.snd)
    if ["export", "readonly"].contains command then
      (fields.zip shown).forM fun (f, p) =>
        match p.1, cutAt? '=' f with
        | none, some (name, value) =>
          trace output descriptor [name ++ '=' :: tracedValue value]
        | _, _ => return ()
  else trace output descriptor (assigned ++ fields)

/-- Writes the head of a command of the rich language before it is run. -/
def traceHead (output : Substitute) (text : Bytes) : Act Unit := do
  let s ← get
  if s.isRich && s.has 'x' then trace output 2 [text]

/-- The head of a loop over words. -/
def headOf (mark : String) (name : Bytes) (words : List Word) : Bytes :=
  mark.toList ++ ' ' :: name ++ " in ".toList
    ++ joinWords (words.map (Word.source printingFuel))

/-- Runs the words of a command. -/
def runWordsOf (perform : Performer) (run : Runner) (mode : Mode) (i : Invocation) :
    Act Unit := do
  let s ← get
  match i.words with
  | [] => setStatus s.outputStatus
  | name :: arguments =>
    let text := String.ofList name
    let own (isSpecial : Bool) : Act Unit :=
      runBuiltin (ownCommand perform run mode text) name arguments isSpecial
    if !s.isRich && text ∈ specialCommands then own i.isSpecial
    else
      match if i.isPrefixed then none else s.functions.lookup name with
      | some body => runFunction run mode name body arguments
      | none =>
        if s.ownCommands.contains text then own false
        else runProgram perform run mode i.words i.isStandard

/-- Notes the text of a command, and does what is to be done before every command, if something is.
-/
def beforeCommand (run : Runner) (text : Unit → Bytes) : Act Unit := do
  modify fun s => if s.isRich && !s.isTrapped then { s with running := text } else s
  let s ← get
  if s.isRich && (s.depth = 0 || s.has 'T') then
    match s.traps.lookup 65 with
    | some text =>
      set { s with traps := s.traps.filter fun t => t.1 ≠ 65 }
      let _ ← trapped (runTextFrom run {} s.line text)
      modify fun t =>
        { t with status := s.status, traps := s.traps, statuses := s.statuses, line := s.line }
    | none => pure ()

/-- Runs a simple command: its words are expanded first, then its redirections, then its
assignments. -/
def runSimple (perform : Performer) (run : Runner) (mode : Mode)
    (assignments : List Assignment) (words : List Word) (redirections : List Redirection) :
    Act Unit := do
  modify fun s => { s with outputStatus := 0 }
  let output := substitute run
  let fields ← expandCommand output [] words
  let s ← get
  let i := s.invocation (fields.length + 1) { words := fields }
  let isFunction := !i.isPrefixed && i.words.head?.any fun name => (s.functions.lookup name).isSome
  let isExec := i.words.head? = some "exec".toList && (i.isSpecial || i.isPrefixed || s.isRich)
    && !isFunction
  let isLocal := fields ≠ [] && !i.isSpecial
    && (!s.isRich || isFunction || (!assignments.isEmpty && !isExec))
  let changes ← allChanges run redirections
  let note : Act Unit :=
    match fields.getLast? with
    | some last => modify fun s => { s with lastArgument := last }
    | none => pure ()
  let isTraced := s.has 'x' && !changes.isEmpty
  if isTraced then
    let _ ← ask (.copy 2 traceDescriptor)
  let assignAll : Act (List Bytes) := assignments.mapM fun a => do
    let ⟨name, _, _, _⟩ := a
    if isLocal then saveBinding name
    performAssignment output (isLocal || (isExec && 1 < i.words.length)) a
  let body : Act Unit := do
    match ← attempt assignAll with
    | .error (.give status) =>
      if fields = [] then throw (.give status) else setStatus status
    | .error d => throw d
    | .ok assigned =>
      if (← get).has 'x' then
        let descriptor := if isTraced then traceDescriptor else 2
        traceSimple output descriptor assigned fields
      if isTraced then ask (.close traceDescriptor)
      note
      runWordsOf perform run mode i
      if s.isRich then note
  let isDone ← withChanges changes isExec (if isLocal then withSaved body else body)
  if !isDone then
    if isTraced then ask (.close traceDescriptor)
    setStatus (if s.isRich then 1 else 2)
    if i.isSpecial then throw (.fault 2)

/-! ## Processes -/

/-- Runs a command as the last thing that a process does, with its redirections for good. -/
def runInPlace (run : Runner) (mode : Mode) (c : Command) : Act Unit := do
  let last := { mode with isLast := true }
  match c with
  | .redirected line c redirections =>
    modify fun s => { s with line := line }
    let changes ← allChanges run redirections
    if ← applyAll changes then run last c
    else throw (.exit (if (← get).isRich then 1 else 2))
  | c => run last c

/-- Starts the commands of a pipeline, of which each one reads what the one before writes. -/
def startAll (run : Runner) (prepare : Act Unit) (mode : Mode) :
    Option Nat → List Command → Act (List Nat)
  | _, [] => return []
  | before, c :: cs => do
    let ends ← if cs.isEmpty then pure none else do pure (some (← ask .pipe))
    let child ← fork run do
      prepare
      match ends with
      | some (source, _) => ask (.close source)
      | none => pure ()
      match before with
      | some source =>
        let _ ← ask (.copy source 0)
        ask (.close source)
      | none => pure ()
      match ends with
      | some (_, sink) =>
        let _ ← ask (.copy sink 1)
        ask (.close sink)
      | none => pure ()
      run { mode with isLast := true } c
    match before with
    | some source => ask (.close source)
    | none => pure ()
    match ends with
    | some (_, sink) => ask (.close sink)
    | none => pure ()
    let others ← startAll run (return ()) mode (ends.map (·.1)) cs
    return child :: others

/-- Starts the commands of a pipeline but the last one, and gives the end from which that one is to
read. -/
def startButLast (run : Runner) (mode : Mode) : Option Nat → List Command → Act (List Nat × Nat)
  | before, [] => return ([], before.getD 0)
  | before, [_] => return ([], before.getD 0)
  | before, c :: cs => do
    let (source, sink) ← ask .pipe
    let child ← fork run do
      ask (.close source)
      match before with
      | some d =>
        let _ ← ask (.copy d 0)
        ask (.close d)
      | none => pure ()
      let _ ← ask (.copy sink 1)
      ask (.close sink)
      run { mode with isLast := true } c
    match before with
    | some d => ask (.close d)
    | none => pure ()
    ask (.close sink)
    let (others, last) ← startButLast run mode (some source) cs
    return (child :: others, last)

/-- Starts a command in the background. It reads nothing, and cannot be interrupted. -/
def runBackground (run : Runner) (c : Command) : Act Unit := do
  let prepare : Act Unit := do
    ask (.handle 2 .ignored)
    ask (.handle 3 .ignored)
    let _ ← ask (.open 0 "/dev/null".toList .read false)
  let number ← openJob
  let children ← match c with
    | .pipeline cs => startAll run prepare {} none cs
    | c => do
      let child ← fork run do
        prepare
        runInPlace run {} c
      pure [child]
  let last := children.getLast?.getD 0
  modify fun s =>
    let text := if s.isRich then commandText c else []
    let job : Job := { number := number, processes := children, last := last, text := text }
    { s with lastJob := some last, jobs := s.jobs ++ [job], status := 0 }

/-- Starts a command in the background that is written to and read from by descriptors that a
variable tells. -/
def runPartner (run : Runner) (name : Bytes) (c : Command) : Act Unit := do
  let (source, out) ← ask .pipe
  let (input, sink) ← ask .pipe
  let number ← openJob
  let child ← fork run do
    ask (.close source)
    ask (.close sink)
    let _ ← ask (.copy input 0)
    let _ ← ask (.copy out 1)
    ask (.close input)
    ask (.close out)
    run { isLast := true } c
  ask (.close out)
  ask (.close input)
  let _ ← ask (.copy source 63)
  let _ ← ask (.copy sink 60)
  ask (.close source)
  ask (.close sink)
  modify fun s =>
    let job : Job :=
      { number := number, processes := [child], last := child, text := commandText c }
    { s.put name (rowOf ["63".toList, "60".toList]) with
      lastJob := some child, jobs := s.jobs ++ [job], status := 0 }
  assign (name ++ "_PID".toList) (digitsOf child)

/-- Runs something in a copy of the shell, or in the shell itself if it ends afterwards. -/
def runAside (run : Runner) (mode : Mode) (a : Act Unit) : Act Unit := do
  let s ← get
  if mode.isLast && !s.hasTraps then
    set { s with copies := s.copies + 1 }
    a
    throw (.exit (← get).status)
  else
    let _ ← openJob
    let child ← fork run a
    setStatus (← awaitCommand [child])

/-! ## Loops -/

/-- How a part of a round of a loop ends. -/
inductive RoundEnd where
  | through
  /-- The loop goes on with its next round. -/
  | skipped
  | left

/-- Does a part of a round of a loop. -/
def inRound (a : Act Unit) : Act RoundEnd := do
  modify fun s => { s with loops := s.loops + 1 }
  match ← attempt (afterwards a (modify fun s => { s with loops := s.loops - 1 })) with
  | .ok _ => return .through
  | .error (.leave n) => if n ≤ 1 then return .left else throw (.leave (n - 1))
  | .error (.skip n) => if n ≤ 1 then return .skipped else throw (.skip (n - 1))
  | .error d => throw d

/-- More rounds than any loop makes. -/
def roundFuel : Nat := 1000000000000000

/-- Repeats a body while a condition comes out as wanted. The status is that of the last body. -/
def runLoop (run : Runner) (mode : Mode) (wanted : Bool) (condition body : Command) :
    Nat → Nat → Act Unit
  | 0, status => setStatus status
  | fuel + 1, status => do
    match ← inRound (run { isTested := true } condition) with
    | .left => setStatus status
    | .skipped => runLoop run mode wanted condition body fuel status
    | .through =>
      let s ← get
      if (s.status == 0) != wanted then setStatus status
      else
        match ← inRound (run mode body) with
        | .left => return ()
        | _ =>
          let s ← get
          runLoop run mode wanted condition body fuel s.status

/-- Runs a body for each of some values of a variable, each time after something else. -/
def runEach (run : Runner) (mode : Mode) (first : Act Unit) (name : Bytes) (body : Command) :
    List Bytes → Act Unit
  | [] => return ()
  | v :: values => do
    first
    assign name v
    match ← inRound (run mode body) with
    | .left => return ()
    | _ => runEach run mode first name body values

/-- The branches from the first one on that has a pattern that matches. -/
def branchFor (output : Substitute) (text : Bytes) : List Branch → Act (List Branch)
  | [] => return []
  | .mk patterns body after :: branches => do
    let rec go : List Word → Act Bool
      | [] => return false
      | w :: ws => do
        let pattern ← expandWhole output w.parts
        let s ← get
        let fits := if s.isRich then (matcherOf s.shapeStyle pattern).isMatch text
          else matchesPattern pattern text
        if fits then return true else go ws
    if ← go patterns then return .mk patterns body after :: branches
    else branchFor output text branches

/-- Runs the commands of branches, of which the first one has been chosen. -/
def runBranches (run : Runner) (mode : Mode) (output : Substitute) (text : Bytes) :
    Nat → List Branch → Act Unit
  | 0, _ => return ()
  | _ + 1, [] => return ()
  | fuel + 1, .mk _ body after :: branches => do
    match after with
    | .leaves =>
      match body with
      | .nothing => setStatus 0
      | body => run mode body
    | .falls =>
      run { mode with isLast := false } body
      runBranches run mode output text fuel branches
    | .resumes =>
      run { mode with isLast := false } body
      runBranches run mode output text fuel (← branchFor output text branches)

/-! ## All commands -/

/-- Does what is to be done on the signals that have been noticed, in their order. -/
def heed (run : Runner) : Act Unit := do
  let s ← get
  if !s.pending.isEmpty then
    set { s with pending := [] }
    let signals := (s.pending.mergeSort fun a b => a ≤ b).eraseReps
    signals.forM fun n => do
      let s ← get
      match s.traps.lookup n with
      | none => pure ()
      | some text =>
        set { s with statusBefore := some s.status }
        let _ ← trapped (runText run {} text)
        modify fun t => { t with status := s.status, statusBefore := s.statusBefore }

/-- Notes the status of a command, and does what is to be done after a failure: the shell may end.
-/
def checkStatus (run : Runner) (mode : Mode) : Act Unit := do
  let s ← get
  if s.status ≠ 0 && !mode.isTested then
    let seesErrors := s.isRich && (s.depth = 0 || s.has 'E')
    match if seesErrors then s.traps.lookup 66 else none with
    | some text =>
      set { s with traps := s.traps.filter fun t => t.1 ≠ 66 }
      let _ ← trapped (runTextFrom run {} s.line text)
      modify fun t =>
        { t with status := s.status, traps := s.traps, statuses := s.statuses, line := s.line }
    | none => pure ()
    if s.has 'e' then throw (.exit s.status)

/-- Notes that a command has been run by itself. -/
def noteAlone : Act Unit :=
  modify fun s => { s with statuses := [s.status] }

/-- The status of a pipeline by those of its commands. -/
def State.pipelineStatus (s : State) (statuses : List Nat) : Nat :=
  if s.switched "pipefail" then ((statuses.filter (· ≠ 0)).getLast?).getD 0
  else statuses.getLast?.getD 0

/-- Evaluates an expression that is a command: it fails if the value is zero. -/
def runCalculation (sub : Substitute) (parts : List Part) : Act (Option Int) := do
  let text := glyphText (← expandText sub wordFuel true parts)
  traceHead sub ("(( ".toList ++ text ++ " ))".toList)
  match ← reckonRich text with
  | .ok n => return some n
  | .error f =>
    warn ("((: ".toList ++ flawWords text f)
    return none

/-- Evaluates one of the expressions of a loop; an empty one is not zero. -/
def runStep (sub : Substitute) (parts : List Part) : Act (Option Int) :=
  runCalculation sub (if parts.isEmpty then [.text ['1']] else parts)

/-- Runs a body as long as an expression is not zero, with a step after each round. -/
def runRounds (run : Runner) (mode : Mode) (sub : Substitute) (condition step : List Part)
    (body : Command) : Nat → Act Unit
  | 0 => return ()
  | fuel + 1 => do
    match ← runStep sub condition with
    | none => setStatus 1
    | some 0 => return ()
    | some _ =>
      match ← inRound (run mode body) with
      | .left => return ()
      | _ =>
        match ← runStep sub step with
        | none => setStatus 1
        | some _ => runRounds run mode sub condition step body fuel

/-- The lines of a menu. -/
def menuLines (values : List Bytes) : Bytes :=
  let rows := (List.range values.length).zip values
  let width := (digitsOf values.length).length
  rows.flatMap fun p =>
    let n := digitsOf (p.1 + 1)
    line (List.replicate (width - n.length) ' ' ++ n ++ ')' :: ' ' :: p.2)

/-- Lets one of some values be chosen again and again, and runs a body for it. -/
def runMenu (run : Runner) (mode : Mode) (name : Bytes) (values : List Bytes) (body : Command) :
    Nat → Bool → Act Unit
  | 0, _ => return ()
  | fuel + 1, shows => do
    if shows then
      let _ ← ask (.write 2 (menuLines values))
    let s ← get
    let _ ← ask (.write 2 ((s.stored? "PS3".toList).getD ['#', '?', ' ']))
    let (gs, isEnded) ← readLine false streamFuel []
    let reply := gs.map Glyph.char
    if !isEnded && reply = [] then
      let _ ← ask (.write 1 ['\n'])
      setStatus 1
    else
      assign "REPLY".toList reply
      if reply = [] then runMenu run mode name values body fuel true
      else
        let chosen := (natural? (reply.filter fun c => !isBlankChar c)).bind fun n => if n = 0 then
          none else values[n - 1]?
        assign name (chosen.getD [])
        match ← inRound (run mode body) with
        | .left => return ()
        | _ => runMenu run mode name values body fuel false

/-- Runs a command. -/
def run (perform : Performer) : Nat → Runner
  | 0, _, _ => do
    let (self, _) ← ask .identity
    let _ ← ask (.send self 11)
    throw (.exit 139)
  | fuel + 1, mode, c => do
    let inner : Runner := fun mode c => run perform fuel mode c
    let tested : Mode := { isTested := mode.isTested }
    let step : Act Unit := do
      pass stepTime
      heed inner
    if (← get).has 'n' then return ()
    else
      match c with
      | .nothing => return ()
      | .simple line assignments words redirections =>
        step
        modify fun s => { s with line := line }
        beforeCommand inner fun _ => commandText c
        withStreams (runSimple perform inner mode assignments words redirections)
        noteAlone
        checkStatus inner mode
      | .redirected line (.aside c) redirections =>
        step
        withStreams (runAside inner mode (runInPlace inner mode (.redirected line c redirections)))
        noteAlone
        checkStatus inner mode
      | .redirected line c redirections =>
        step
        modify fun s => { s with line := line }
        withStreams do
          let changes ← allChanges inner redirections
          if !(← withChanges changes false (inner tested c)) then
            setStatus (if (← get).isRich then 1 else 2)
            noteAlone
            checkStatus inner mode
      | .sequence a b =>
        inner tested a
        inner mode b
      | .both a b =>
        inner { isTested := true } a
        if (← get).status = 0 then inner mode b
      | .either a b =>
        inner { isTested := true } a
        if (← get).status ≠ 0 then inner mode b
      | .negated c =>
        inner { isTested := true } c
        let s ← get
        setStatus (if s.status = 0 then 1 else 0)
      | .background c =>
        step
        runBackground inner c
      | .pipeline cs =>
        step
        let _ ← openJob
        let s ← get
        if s.isRich && s.switched "lastpipe" then
          let (children, source) ← startButLast inner tested none cs
          ask .keep
          let _ ← ask (.copy source 0)
          ask (.close source)
          afterwards (inner tested (cs.getLast?.getD .nothing)) (ask .recall)
          let last := (← get).status
          let statuses ← awaitEach children
          let s ← get
          let statuses := statuses ++ [last]
          set { s with statuses := statuses, status := s.pipelineStatus statuses }
        else
        let children ← startAll inner (return ()) tested none cs
        if (← get).isRich then
          let statuses ← awaitEach children
          let s ← get
          set { s with statuses := statuses, status := s.pipelineStatus statuses }
        else setStatus (← awaitCommand children)
        checkStatus inner mode
      | .group c => inner mode c
      | .aside c =>
        step
        runAside inner mode (inner { mode with isLast := true } c)
        noteAlone
        checkStatus inner mode
      | .choice condition yes no =>
        inner { isTested := true } condition
        if (← get).status = 0 then inner mode yes
        else
          setStatus 0
          inner mode no
      | .loop wanted condition body => runLoop inner tested wanted condition body roundFuel 0
      | .each line name words body =>
        step
        modify fun s => { s with line := line }
        withStreams do
          let values ← expandWords (substitute inner) words
          let s ← get
          if s.isRich && ((s.meant? name).any Binding.fixed) then
            warn (name ++ ": readonly variable".toList)
            setStatus 1
          else
            setStatus 0
            let first := do
              modify fun s => { s with line := line }
              beforeCommand inner fun _ => headOf "for" name words
              traceHead (substitute inner) (headOf "for" name words)
            runEach inner tested first name body values
      | .select line word branches =>
        step
        modify fun s => { s with line := line }
        let output := substitute inner
        let head (_ : Unit) : Bytes := "case ".toList ++ word.source printingFuel ++ " in".toList
        beforeCommand inner fun u => head u ++ [' ']
        traceHead output (head ())
        let text := glyphText (← expandWhole output word.parts)
        match ← branchFor output text branches with
        | [] => setStatus 0
        | chosen => runBranches inner mode output text (branches.length + 1) chosen
      | .rounds line start condition step body =>
        modify fun s => { s with line := line }
        let sub := substitute inner
        match ← runStep sub start with
        | none => setStatus 1
        | some _ =>
          setStatus 0
          runRounds inner tested sub condition step body roundFuel
      | .calculation line expression =>
        step
        modify fun s => { s with line := line }
        beforeCommand inner fun _ => commandText c
        match ← runCalculation (substitute inner) expression with
        | some n => setStatus (if n = 0 then 1 else 0)
        | none => setStatus 1
        noteAlone
        checkStatus inner mode
      | .query line q =>
        step
        modify fun s => { s with line := line }
        beforeCommand inner fun _ => commandText c
        let output := substitute inner
        let note (text : Bytes) : Act Unit :=
          traceHead output ("[[ ".toList ++ text ++ " ]]".toList)
        match ← attempt (withStreams (decides output note false q)) with
        | .ok b => setStatus (if b then 0 else 1)
        | .error (.fault status) => setStatus status
        | .error d => throw d
        noteAlone
        checkStatus inner mode
      | .timed isShort c =>
        inner tested c
        let row (name : String) : Bytes :=
          line (name.toList ++ (if isShort then " 0.00" else "\t0m0.000s").toList)
        let _ ← ask (.write 2 ((if isShort then [] else ['\n'])
          ++ row "real" ++ row "user" ++ row "sys"))
      | .menu line name words body =>
        step
        modify fun s => { s with line := line }
        beforeCommand inner fun _ => headOf "select" name words
        traceHead (substitute inner) (headOf "select" name words)
        let values ← expandWords (substitute inner) words
        setStatus 0
        if !values.isEmpty then runMenu inner tested name values body roundFuel true
      | .partner line name c =>
        step
        modify fun s => { s with line := line }
        runPartner inner name c
      | .define name body =>
        modify fun s =>
          { s with
            functions := (name, body) :: s.functions.filter fun f => f.1 ≠ name
            origins := (name, s.origin) :: s.origins.filter fun f => f.1 ≠ name
            status := 0 }

end LinkWatch.Host.Shell
