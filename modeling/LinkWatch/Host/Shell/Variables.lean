import LinkWatch.Host.Kernel.Installed
import LinkWatch.Host.Shell.Assigning
import LinkWatch.Host.Shell.Pattern
import LinkWatch.Host.Utility.Condition
import LinkWatch.Host.Utility.Date
import LinkWatch.Host.Utility.Holdings
import LinkWatch.Host.Utility.Template

/-!
# Commands on the shell itself

The commands that set variables, arguments and options, read lines into variables, and change the
working directory.
-/

namespace LinkWatch.Host.Shell

open LinkWatch.Text LinkWatch.Host.Kernel LinkWatch.Host.Utility

/-! ## Output -/

/-- Writes the arguments. -/
def echo : Builtin := fun arguments => do
  let s ← get
  say (if s.isRich then echoRich arguments else echoResolved arguments) 0

/-- Fills a template. -/
def fill : Builtin := fun arguments => do
  let isRich := (← get).isRich
  withGiven [] (if isRich then ['v'] else []) arguments fun g => do
    match g.operands with
    | [] => failUsage "usage: printf format [arg ...]".toList none
    | template :: values =>
      if !isRich then
        let f := fillTemplate .own template values
        f.complaints.reverse.forM warn
        say f.text f.status
      else
        let zone := Environment.zone (← get).environment
        let present ← within presentTime
        let dating (format : Bytes) (seconds : Option Int) : Bytes :=
          (zone.moment (seconds.getD present.1) 0).inFormat format
        let f := fillRich asWord dating template values
        f.complaints.reverse.forM warn
        f.lengths.reverse.forM fun n => do
          if isName n.1 then assign n.1 (digitsOf n.2)
          else warn ('\x60' :: n.1 ++ "': not a valid identifier".toList)
        match g.options.getLast? with
        | none => say f.text f.status
        | some (_, target) =>
          match targetOf? target with
          | some (name, .usual) =>
            assignAt false name none false f.text
            return f.status
          | some (name, .key [.text key]) =>
            assignAt false name (some key) false f.text
            return f.status
          | _ =>
            warn ('\x60' :: target ++ "': not a valid identifier".toList)
            return 2

/-- Whether a variable, or a place in it, has a value. -/
def isSet (text : Bytes) : Act Bool := do
  match targetOf? text with
  | some (name, .usual) =>
    refresh name
    let s ← get
    return if isName name then (s.contents name).usual?.isSome else (s.value? name).isSome
  | some (name, .key [.text key]) =>
    let s ← get
    let c := s.contents name
    return (c.get? (← keyIn name c key)).isSome
  | some (name, _) => return (← get).contents name |>.values |>.isEmpty |> not
  | none => return false

/-- Tests the condition that arguments are. -/
def testWords (isBracket : Bool) : Builtin := fun arguments => do
  if isBracket && arguments.getLast? ≠ some [']'] then fail "missing ]".toList
  else
    let words := if isBracket then arguments.dropLast else arguments
    match ← ask (.files fun t => (judge .own t words, t)) with
    | .ok true => return 0
    | .ok false => return 1
    | .error message => fail message

/-! ## Variables -/

/-- The lines that show variables. -/
def bindingLines (start : String) (bs : List Binding) : Bytes :=
  let sorted := bs.mergeSort fun a b => !isBefore b.name a.name
  sorted.flatMap fun b =>
    line (start.toList ++ b.name ++ b.value.elim [] fun v => '=' :: singleQuoted v)

/-- The name and the value that a word assigns, if its name can be one. -/
def assignedBy (word : Bytes) : Act (Bytes × Option Bytes) := do
  let (name, value) := match cutAt? '=' word with
    | some (name, value) => (name, some value)
    | none => (word, none)
  if isName name then return (name, value)
  else fail (name ++ ": bad variable name".toList)

/-- Marks variables, which may be given values, or shows those that are marked. -/
def markVariables (title : String) (isMarked : Binding → Bool) (mark : Binding → Binding) :
    Builtin := fun arguments =>
  withGiven ['p'] [] arguments fun g => do
    if g.has 'p' || g.operands = [] then
      let s ← get
      say (bindingLines (title ++ " ") (s.bindings.filter isMarked)) 0
    else
      g.operands.forM fun word => do
        let (name, value) ← assignedBy word
        match value with
        | some v => assign name v
        | none => pure ()
        modify fun s =>
          s.bind (mark ((s.binding? name).getD { name := name }))
      return 0

/-- Removes variables or functions. -/
def removeNames : Builtin := fun arguments =>
  withGiven ['v', 'f'] [] arguments fun g => do
    g.operands.forM fun name => do
      if g.has 'f' then
        modify fun s => { s with functions := s.functions.filter fun f => f.1 ≠ name }
      else if !isName name then fail (name ++ ": bad variable name".toList)
      else
        let s ← get
        if (s.binding? name).any Binding.fixed then fail (name ++ ": is read only".toList)
        else set (s.unbind name)
    return 0

/-- Makes variables belong to the function that is running. -/
def makeLocal : Builtin := fun arguments => do
  let s ← get
  if s.depth = 0 then fail "not in a function".toList
  else
    arguments.forM fun word => do
      if word = ['-'] then
        modify fun s =>
          match s.saved with
          | frame :: frames =>
            let kept : Binding := { name := ['-'], contents := .text s.options }
            { s with saved := ((['-'], some kept) :: frame) :: frames }
          | [] => s
      else
        let (name, value) ← assignedBy word
        saveBinding name
        match value with
        | some v => assign name v
        | none => pure ()
    return 0

/-! ## Options and arguments -/

/-- The names of the options with their letters. -/
def optionNames : List (String × Char) :=
  [("errexit", 'e'), ("noglob", 'f'), ("ignoreeof", 'I'), ("interactive", 'i'), ("monitor", 'm'),
    ("noexec", 'n'), ("stdin", 's'), ("xtrace", 'x'), ("verbose", 'v'), ("vi", 'V'), ("emacs", 'E'),
    ("noclobber", 'C'), ("allexport", 'a'), ("notify", 'b'), ("nounset", 'u')]

/-- Sets an option or takes it back. -/
def setOption (letter : Char) (value : Bool) : Act Unit := do
  let known := if (← get).isRich then richLetters else optionLetters
  if !known.contains letter then
    failUsage ("Illegal option -".toList ++ [letter])
      (some ((if value then '-' else '+') :: letter :: ": invalid option".toList))
  else
    modify fun s =>
      let others := s.options.filter (· ≠ letter)
      { s with options := if value then letter :: others else others }

/-- The lines that show all options. -/
def optionLines (isPlain : Bool) (s : State) : Bytes :=
  if isPlain then
    line "Current option settings".toList ++ optionNames.flatMap fun o =>
      let name := o.1.toList
      line (name ++ List.replicate (16 - name.length) ' '
        ++ (if s.has o.2 then "on" else "off").toList)
  else
    optionNames.flatMap fun o =>
      line ((if s.has o.2 then "set -o " else "set +o ").toList ++ o.1.toList)

/-- Reads the letters of one argument that sets options. Letters that only the start of a shell
knows come back. -/
def readOptionLetters (atStart value : Bool) :
    Bytes → List Bytes → Act (List Char × List Bytes)
  | [], rest => return ([], rest)
  | c :: cs, rest => do
    if atStart && (c = 'c' || c = 'l') then
      let (found, rest) ← readOptionLetters atStart value cs rest
      return (c :: found, rest)
    else if c = 'o' then
      match rest with
      | [] =>
        let s ← get
        let _ ← say (optionLines value s) 0
        readOptionLetters atStart value cs []
      | name :: rest =>
        match optionNames.lookup (String.ofList name) with
        | some letter => setOption letter value
        | none => fail ("Illegal option -o ".toList ++ name)
        readOptionLetters atStart value cs rest
    else
      setOption c value
      readOptionLetters atStart value cs rest

/-- What the options of a shell leave over. -/
structure Leftover where
  /-- Letters that only the start of a shell knows. -/
  letters : List Char := []
  operands : List Bytes := []
  /-- Whether the operands are to be the arguments even if there are none. -/
  isEnded : Bool := false

/-- Reads arguments that set options. -/
def readOptions (atStart : Bool) : Nat → List Bytes → Act Leftover
  | 0, arguments => return { operands := arguments }
  | fuel + 1, arguments => do
    let go (value : Bool) (letters : Bytes) (rest : List Bytes) : Act Leftover := do
      let (found, rest) ← readOptionLetters atStart value letters rest
      let l ← readOptions atStart fuel rest
      return { l with letters := found ++ l.letters }
    match arguments with
    | ['-'] :: rest =>
      if !atStart then
        setOption 'x' false
        setOption 'v' false
      return { operands := rest }
    | ['-', '-'] :: rest => return { operands := rest, isEnded := true }
    | ('-' :: letters) :: rest => go true letters rest
    | ('+' :: letters) :: rest => go false letters rest
    | _ => return { operands := arguments }

/-- The shell with other arguments. -/
def State.withArguments (s : State) (arguments : List Bytes) : State :=
  { s with arguments := arguments, optionIndex := 1, optionOffset := 0 }

/-- Sets options and arguments, or shows the variables. -/
def setShell : Builtin := fun arguments => do
  if arguments = [] then
    let s ← get
    say (bindingLines "" (s.bindings.filter fun b => b.value.isSome)) 0
  else
    let l ← readOptions false (arguments.length + 1) arguments
    if l.operands ≠ [] || l.isEnded then modify (·.withArguments l.operands)
    return 0

/-- Drops the first arguments. -/
def shift : Builtin := fun arguments => do
  let n : Int ← match arguments with
    | [] => pure 1
    | a :: others => do
      if (← get).isRich then
        match integer? a with
        | none => failAs 1 [] (a ++ ": numeric argument required".toList)
        | some n =>
          if others ≠ [] then
            warn "too many arguments".toList
            throw (.give 1)
          else pure n
      else do pure ((← number a : Nat) : Int)
  let s ← get
  if s.isRich && n < 0 then failAs 1 [] (numeralOf n ++ ": shift count out of range".toList)
  else if s.isRich && n > s.arguments.length then return 1
  else if n > s.arguments.length then fail "can't shift that many".toList
  else
    let index := if s.isRich then s.optionIndex else 1
    set { s.withArguments (s.arguments.drop n.toNat) with optionIndex := index }
    return 0

/-- What is found at the next option among some arguments. -/
inductive NextOption where
  | none
  | unknown (letter : Char)
  | noValue (letter : Char)
  | found (letter : Char) (value : Option Bytes)

/-- Reads the next option of some arguments: what it is, the argument that is next, and the place
within the argument before it. -/
def nextOption (letters : Bytes) (arguments : List Bytes) (index offset : Nat) :
    NextOption × Nat × Nat :=
  let inside := match arguments[index - 2]? with
    | some a => if 2 ≤ index && 0 < offset then a.drop offset else []
    | _ => []
  let start : Option (Bytes × Nat × Nat) :=
    if inside ≠ [] then some (inside, index, offset)
    else
      match arguments[index - 1]? with
      | some ('-' :: c :: cs) => if c :: cs = ['-'] then none else some (c :: cs, index + 1, 1)
      | _ => none
  match start with
  | none =>
    (.none, if arguments[index - 1]? = some ['-', '-'] then index + 1 else index, 0)
  | some ([], index, _) => (.none, index, 0)
  | some (c :: cs, index, offset) =>
    let next := if cs = [] then 0 else offset + 1
    match letters.idxOf? c with
    | none => (.unknown c, index, next)
    | some i =>
      if c = ':' then (.unknown c, index, next)
      else if letters[i + 1]? = some ':' then
        if cs ≠ [] then (.found c (some cs), index, 0)
        else
          match arguments[index - 1]? with
          | some value => (.found c (some value), index + 1, 0)
          | none => (.noValue c, index, 0)
      else (.found c none, index, next)

/-- Reads the next option of the arguments into a variable. -/
def readNextOption : Builtin := fun arguments => do
  match arguments with
  | letters :: name :: given =>
    let s ← get
    let all := if given = [] then s.arguments else given
    let (index, offset) :=
      if s.optionIndex > all.length + 1 then (1, 0) else (s.optionIndex, s.optionOffset)
    let isQuiet := letters.head? = some ':'
    let (what, index, offset) := nextOption letters all index offset
    let value : Bytes := "OPTARG".toList
    let (letter, status) : Bytes × Nat ← match what with
      | .none => pure (['?'], 1)
      | .found c v => do
        if s.isRich && v.isNone then modify (·.unbind value) else assign value (v.getD [])
        pure ([c], 0)
      | .unknown c => do
        if isQuiet then assign value [c]
        else
          if s.isRich then sayError (s.name ++ ": illegal option -- ".toList ++ [c])
          else sayError ("Illegal option -".toList ++ [c])
          modify (·.unbind value)
        pure (['?'], 0)
      | .noValue c => do
        if isQuiet then
          assign value [c]
          pure ([':'], 0)
        else
          if s.isRich then sayError (s.name ++ ": option requires an argument -- ".toList ++ [c])
          else sayError ("No arg for -".toList ++ c :: " option".toList)
          modify (·.unbind value)
          pure (['?'], 0)
    assign "OPTIND".toList (digitsOf index)
    modify fun s => { s with optionIndex := index, optionOffset := offset }
    assign name letter
    return status
  | _ => failUsage "usage: getopts optstring var [arg]".toList none

/-! ## Reading lines -/

/-- Reads a line from the input, byte by byte. A backslash protects what follows, and joins lines,
unless the line is read as it is; the second value tells whether the line is ended. -/
def readLine (asItIs : Bool) : Nat → List Glyph → Act (List Glyph × Bool)
  | 0, gs => return (gs.reverse, false)
  | fuel + 1, gs => do
    match ← ask (.read 0 1) with
    | .ok [c] =>
      if c = '\n' then return (gs.reverse, true)
      else if c = '\x00' then readLine asItIs fuel gs
      else if c = '\\' && !asItIs then
        match ← ask (.read 0 1) with
        | .ok [d] => readLine asItIs fuel (if d = '\n' then gs else ⟨d, true⟩ :: gs)
        | _ => return (gs.reverse, false)
      else readLine asItIs fuel (⟨c, false⟩ :: gs)
    | _ => return (gs.reverse, false)

/-- Whether a character divides fields. -/
def isDivider (dividers : Bytes) (g : Glyph) : Bool :=
  !g.literal && dividers.contains g.char

/-- Whether a character is a blank that divides fields. -/
def isBlankDivider (dividers : Bytes) (g : Glyph) : Bool :=
  isDivider dividers g && g.char ∈ [' ', '\t', '\n']

/-- A line divided into as many fields as wanted, of which the last one takes the rest. A divider
after the rest counts only if it is not the only one. -/
def divideLine (dividers : Bytes) : Nat → List Glyph → List Bytes
  | 0, _ => []
  | 1, gs =>
    let field := gs.takeWhile (!isDivider dividers ·)
    let after := gs.drop field.length
    let marks := after.filter fun g => !isBlankDivider dividers g
    if after.all (isDivider dividers) && marks.length ≤ 1 then [field.map Glyph.char]
    else [((gs.reverse.dropWhile (isBlankDivider dividers)).reverse).map Glyph.char]
  | n + 1, gs =>
    let field := gs.takeWhile (!isDivider dividers ·)
    let after := (gs.drop field.length).dropWhile (isBlankDivider dividers)
    let after := match after with
      | g :: rest => if isDivider dividers g then rest else g :: rest
      | [] => []
    field.map Glyph.char :: divideLine dividers n (after.dropWhile (isBlankDivider dividers))

/-- Reads a line into variables. -/
def readVariables : Builtin := fun arguments =>
  withGiven ['r'] ['p'] arguments fun g => do
    if g.operands = [] then fail "arg count".toList
    else
      let (gs, isEnded) ← readLine (g.has 'r') streamFuel []
      let dividers := (← get).dividers
      let fields := divideLine dividers g.operands.length
        (gs.dropWhile (isBlankDivider dividers))
      (g.operands.zip fields).forM fun p => do
        if isName p.1 then assign p.1 p.2
        else fail (p.1 ++ ": bad variable name".toList)
      return if isEnded then 0 else 1

/-! ## Directories and limits -/

/-- The path of a directory, given one in which it is looked for. Names are joined as texts, so that
a step upwards undoes the last name. -/
def joinedPath (directory path : Bytes) : Bytes :=
  let step (names : List Bytes) (name : Bytes) : List Bytes :=
    if name = [] || name = ['.'] then names
    else if name = ['.', '.'] then names.drop 1
    else name :: names
  let isAbsolute := path.head? = some '/'
  let whole := if isAbsolute then path else directory ++ '/' :: path
  let isDouble := "//".toList.isPrefixOf whole && !"///".toList.isPrefixOf whole
    && whole ≠ ['/', '/']
  let names := ((pieces '/' whole).foldl step []).reverse
  (if isDouble && (isAbsolute || directory ≠ ['/']) then ['/', '/'] else ['/'])
    ++ joinWith ['/'] names

/-- Changes the working directory, if there is such a directory. The path by which it has been
entered is kept unless links are to be resolved. -/
def enter (resolves : Bool) (path : Bytes) : Act Bool := do
  let s ← get
  let path := if resolves then path else joinedPath s.directory path
  let found ← ask (.files fun d =>
    match d.find path with
    | .ok ⟨l, _, ⟨.directory, _, _⟩⟩ => (some l, { d with working := l })
    | _ => (none, d))
  match found with
  | none => return false
  | some l =>
    modify fun s => { s with directory := if resolves then locationText l else path }
    return true

/-- Looks for a directory to be entered in the directories of a list. The answer is its path and
whether that is shown. -/
def searchedDirectory (list : Option Bytes) (target : Bytes) : Act (Bytes × Bool) := do
  let isPlain := target.head? = some '/' || target = ['.'] || target = ['.', '.']
    || "./".toList.isPrefixOf target || "../".toList.isPrefixOf target
  match isPlain, list with
  | false, some list =>
    let candidates : List (Bytes × Bool) := (pieces ':' list).map fun directory =>
      if directory = [] then (target, false) else (directory ++ '/' :: target, true)
    ask (.files fun d => ((candidates.find? fun c => d.isDirectory c.1).getD (target, false), d))
  | _, _ => return (target, false)

/-- Changes the working directory and remembers the one before. -/
def changeDirectory : Builtin := fun arguments =>
  withGiven ['L', 'P'] [] arguments fun g => do
    let s ← get
    let (target, isShown) : Bytes × Bool := match g.operands with
      | [] => ((s.stored? "HOME".toList).getD [], false)
      | ['-'] :: _ => ((s.stored? "OLDPWD".toList).getD [], true)
      | path :: _ => (path, false)
    if s.isRich then
      match g.operands with
      | [] =>
        if (s.stored? "HOME".toList).isNone then failAs 1 [] "HOME not set".toList else pure ()
      | [['-']] =>
        if (s.stored? "OLDPWD".toList).isNone then failAs 1 [] "OLDPWD not set".toList else pure ()
      | [_] => pure ()
      | _ => failAs 1 [] "too many arguments".toList
    let (path, isFound) ← searchedDirectory (s.stored? "CDPATH".toList)
      (if target = [] then ['.'] else target)
    let resolves := g.options.getLast?.any fun o => o.1 = 'P'
    if ← enter resolves path then
      let new := (← get).directory
      assignAs true "OLDPWD".toList s.directory
      assignAs true "PWD".toList new
      if isShown || isFound then say (line new) 0 else return 0
    else
      let reason ← ask (.files fun d =>
        (match d.find (if path.head? = some '/' then path else s.directory ++ '/' :: path) with
          | .ok _ => OsError.notDirectory
          | .error e => e, d))
      failAs 1 ("can't cd to ".toList ++ target) (target ++ ':' :: ' ' :: wordsOf reason)

/-- Writes the working directory. -/
def tellDirectory : Builtin := fun arguments =>
  withGiven ['L', 'P'] [] arguments fun g => do
    if g.options.getLast?.any fun o => o.1 = 'P' then
      say (line (← ask (.files fun d => (locationText d.working, d)))) 0
    else say (line (← get).directory) 0

/-- The letters of the permissions that a mask leaves to one class. -/
def maskLetters (bits : Nat) : Bytes :=
  (if bits / 4 % 2 = 0 then ['r'] else []) ++ (if bits / 2 % 2 = 0 then ['w'] else [])
    ++ (if bits % 2 = 0 then ['x'] else [])

/-- Sets the mask for the permissions of new files, or shows it. -/
def setMask : Builtin := fun arguments => do
  withGiven (if (← get).isRich then ['S', 'p'] else ['S']) [] arguments fun g => do
    let isRich := (← get).isRich
    let start := if g.has 'p' then (if g.has 'S' then "umask -S " else "umask ").toList else []
    let mask : Nat ← ask (.files fun d => (d.mask, d))
    let become (mask : Nat) : Act Nat := do
      ask (.files fun d => ((), { d with mask := mask % 512 }))
      if isRich && g.has 'S' then
        say (line ("u=".toList ++ maskLetters (mask / 64) ++ ",g=".toList ++ maskLetters (mask / 8)
          ++ ",o=".toList ++ maskLetters mask)) 0
      else return 0
    match g.operands with
    | [] =>
      if g.has 'S' then
        say (line (start ++ "u=".toList ++ maskLetters (mask / 64) ++ ",g=".toList
          ++ maskLetters (mask / 8) ++ ",o=".toList ++ maskLetters mask)) 0
      else
        let digits := Nat.toDigits 8 mask
        say (line (start ++ List.replicate (4 - digits.length) '0' ++ digits)) 0
    | text :: _ =>
      if text = [] then return 0
      else if text.all isOctal then become (readBased 8 text).1
      else if text.head?.any Char.isDigit then
        failAs 1 ("Illegal number: ".toList ++ text) (text ++ ": octal number out of range".toList)
      else
        match ModeChange.ofText? text with
        | some change => become (511 - change.apply 0 false (511 - mask % 512) % 512)
        | none =>
          failAs 1 ("Illegal mode: ".toList ++ text)
            ('\x60' :: text ++ "': invalid symbolic mode operator".toList)

/-- Shows the times that have been used. -/
def tellTimes : Builtin := fun _ => do
  let zero := if (← get).isRich then "0m0.000s" else "0m0.000000s"
  let row := line (zero ++ " " ++ zero).toList
  say (row ++ row) 0

end LinkWatch.Host.Shell
