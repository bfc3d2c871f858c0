import LinkWatch.Host.Shell.Printing
import LinkWatch.Host.Shell.Variables

/-!
# Declarations

The commands of the rich language that declare variables: what kind of values they have, whether
they are exported or fixed, and whether they belong to the function that is running.
-/

namespace LinkWatch.Host.Shell

open LinkWatch.Text LinkWatch.Host.Kernel LinkWatch.Host.Utility

/-! ## Arguments -/

/-- A variable as an argument names it, perhaps with a place and with a value. -/
structure Named where
  name : Bytes
  key : Option Bytes := none
  isAdded : Bool := false
  value : Option Bytes := none

/-- The variable that an argument names. -/
def namedBy? (word : Bytes) : Option Named :=
  let name := word.takeWhile isNameChar
  let finish (key : Option Bytes) (rest : Bytes) : Option Named :=
    match rest with
    | [] => some { name := name, key := key }
    | '=' :: value => some { name := name, key := key, value := some value }
    | '+' :: '=' :: value => some { name := name, key := key, isAdded := true, value := some value }
    | _ => none
  if !isName name then none
  else
    match word.drop name.length with
    | '[' :: rest =>
      match cutBracket 0 none rest with
      | some (key, after) => finish (some key) after
      | none => none
    | rest => finish none rest

/-- The letters that are given with a minus and with a plus, and the other arguments. -/
def readMarks (known : List Char) : List Bytes → Act (List Char × List Char × List Bytes)
  | [] => return ([], [], [])
  | word :: rest => do
    let check (letters : Bytes) : Act Unit :=
      match letters.find? fun c => !known.contains c with
      | some c => failUsage [] (some ('-' :: c :: ": invalid option".toList))
      | none => pure ()
    match word with
    | ['-', '-'] => return ([], [], rest)
    | '-' :: c :: cs =>
      check (c :: cs)
      let (set, cleared, operands) ← readMarks known rest
      return (c :: cs ++ set, cleared, operands)
    | '+' :: c :: cs =>
      check (c :: cs)
      let (set, cleared, operands) ← readMarks known rest
      return (set, c :: cs ++ cleared, operands)
    | word => return ([], [], word :: rest)

/-- Reports something about a variable that is no fault of the command. -/
def warnOf (words : Bytes) : Act Unit := do
  let s ← get
  set { s with command := none }
  warn words
  modify fun t => { t with command := s.command }

/-- Reports that a text is no name. -/
def warnName (word : Bytes) : Act Unit :=
  warn ('\x60' :: word ++ "': not a valid identifier".toList)

/-! ## Showing -/

/-- The line that declares a variable as it is. -/
def declarationLine (b : Binding) : Bytes :=
  let letters := declaredLetters b
  line ("declare -".toList ++ (if letters = [] then ['-'] else letters) ++ ' ' :: b.name
    ++ (if b.traits.contains bareTrait then [] else declaredValue b.contents))

/-- The variables in the order of their names. -/
def State.sortedBindings (s : State) : List Binding :=
  s.bindings.mergeSort fun a b => !isBefore b.name a.name

/-- The line that shows what a variable holds. -/
def listingLine (b : Binding) : Bytes :=
  match b.contents with
  | .nothing => []
  | .text value => line (b.name ++ '=' :: inListing value)
  | c => line (b.name ++ '=' :: listed c)

/-- Brings all variables up to date that change by themselves. -/
def refreshAll : Act Unit :=
  (["LINENO", "PIPESTATUS", "BASH_SUBSHELL", "_", "RANDOM"] : List String).forM fun name =>
    refresh name.toList

/-- Shows what all variables hold. -/
def showListing : Act Nat := do
  refreshAll
  let s ← get
  say (s.sortedBindings.flatMap listingLine) 0

/-- Shows how some variables are declared. -/
def showDeclared (names : List Bytes) : Act Nat := do
  let found ← names.mapM fun name => do
    refresh name
    match (← get).binding? name with
    | some b => return (declarationLine b, true)
    | none =>
      warn (name ++ ": not found".toList)
      return ([], false)
  say (found.flatMap Prod.fst) (if found.all Prod.snd then 0 else 1)

/-! ## Declaring -/

/-- Makes a variable belong to the function that is running. It has no value then. -/
def makeOwn (name : Bytes) : Act Unit := do
  let s ← get
  let isOwn := match s.saved with
    | frame :: _ => frame.any fun p => p.1 = name
    | [] => false
  if !isOwn then
    saveBinding name
    modify (·.bind { name := name })

/-- Why the kind of a variable cannot be changed. -/
def kindConflict (marks : List Char) (c : Contents) : Option String :=
  match c with
  | .row _ =>
    if marks.contains 'A' then some "cannot convert indexed to associative array" else none
  | .table _ =>
    if marks.contains 'a' then some "cannot convert associative to indexed array" else none
  | _ => none

/-- The contents of a variable of which a kind is declared. -/
def ofKind (marks : List Char) (c : Contents) : Contents :=
  match c with
  | .nothing =>
    if marks.contains 'A' then .table [] else if marks.contains 'a' then .row [] else .nothing
  | .text value =>
    if marks.contains 'A' then .table [(['0'], value)]
    else if marks.contains 'a' then .row [(0, value)]
    else .text value
  | c => c

/-- What else is declared of a variable after some of it has been set and some taken back. -/
def newTraits (marks cleared old : List Char) : List Char :=
  let others := if marks.contains 'l' then ['u'] else if marks.contains 'u' then ['l'] else []
  let kept := old.filter fun c => !cleared.contains c && !others.contains c && !marks.contains c
  (marks.filter (· ∈ ['i', 'l', 'n', 't', 'u'])).eraseDups ++ kept

/-- Declares one variable. The answer is whether that has been possible. -/
def declareOne (marks cleared : List Char) (isOwn : Bool) (word : Bytes) : Act Bool := do
  match namedBy? word with
  | none =>
    warnName word
    return false
  | some n =>
    if isOwn then makeOwn n.name
    let s ← get
    let name := if marks.contains 'n' || cleared.contains 'n' then n.name else s.resolved 10 n.name
    let old := (s.binding? name).getD { name := name }
    match kindConflict marks old.contents with
    | some words =>
      warn (name ++ ':' :: ' ' :: words.toList)
      return false
    | none =>
      if old.fixed && (n.value.isSome || cleared.contains 'r') then
        warnOf (name ++ ": readonly variable".toList)
        return false
      else
        let isNew := old.contents = .nothing && (marks.contains 'a' || marks.contains 'A')
        set (s.bind { old with
          contents := ofKind marks old.contents
          traits := (if isNew then [bareTrait] else []) ++ newTraits marks cleared old.traits
          exported := (old.exported || marks.contains 'x') && !cleared.contains 'x' })
        match n.value with
        | none => pure ()
        | some value =>
          match decodeElements? value with
          | some es => assignElements false name n.isAdded es
          | none =>
            if marks.contains 'n' then modify (·.put name (.text value))
            else assignAt false name n.key n.isAdded value
        if marks.contains 'r' then
          modify fun s => s.bind { (s.binding? name).getD { name := name } with fixed := true }
        return true

/-- Declares variables, or shows them. -/
def declareNames (isOwn : Bool) : Builtin := fun arguments => do
  let (marks, cleared, operands) ← readMarks "aAfFgiIlnprtux".toList arguments
  let s ← get
  if marks.contains 'f' || marks.contains 'F' then
    let names := if operands = [] then (s.functions.map Prod.fst).mergeSort fun a b => !isBefore b a
      else operands
    let isKnown (name : Bytes) : Bool := (s.functions.lookup name).isSome
    let isMarked := operands ≠ [] && marks.any fun m => m = 't' || m = 'x' || m = 'r'
    let text := if isMarked then [] else (names.filter isKnown).flatMap fun name =>
      if !marks.contains 'F' then functionText name ((s.functions.lookup name).getD .nothing)
      else if operands = [] then line ("declare -f ".toList ++ name)
      else line name
    say text (if names.all isKnown then 0 else 1)
  else if operands = [] && (marks.contains 'p' || marks ≠ []) then
    refreshAll
    let s ← get
    let wanted := marks.filter (· ∈ ['a', 'A', 'i', 'l', 'n', 'r', 'u', 'x'])
    let shown := s.sortedBindings.filter fun b => wanted.all (declaredLetters b).contains
    say (shown.flatMap declarationLine) 0
  else if operands = [] then
    if isOwn then
      let own := match s.saved with
        | frame :: _ => frame.map Prod.fst
        | [] => []
      say ((s.sortedBindings.filter fun b => own.contains b.name).flatMap declarationLine) 0
    else showListing
  else if marks.contains 'p' then showDeclared operands
  else
    let results ← operands.mapM (declareOne marks cleared (isOwn && !marks.contains 'g'))
    return if results.all id then 0 else 1

/-- Declares variables of the function that is running. -/
def declareOwn : Builtin := fun arguments => do
  if (← get).depth = 0 then
    warn "can only be used in a function".toList
    return 1
  else
    match arguments with
    | [['-']] =>
      modify fun s =>
        match s.saved with
        | frame :: frames =>
          let kept : Binding := { name := ['-'], contents := .text s.options }
          { s with saved := ((['-'], some kept) :: frame) :: frames }
        | [] => s
      return 0
    | _ => declareNames true arguments

/-- Marks variables as exported or as fixed, or takes the mark from them. -/
def declareMarked (mark : Char) : Builtin := fun arguments => do
  let known := if mark = 'x' then "fnp".toList else "aAfp".toList
  let (marks, _, operands) ← readMarks known arguments
  let s ← get
  if marks.contains 'f' then
    let results ← operands.mapM fun name => do
      if (s.functions.lookup name).isSome then return true
      else
        warn (name ++ ": not a function".toList)
        return false
    return if results.all id then 0 else 1
  else if operands = [] then
    say ((s.sortedBindings.filter fun b => (declaredLetters b).contains mark).flatMap
      declarationLine) 0
  else
    let kinds := marks.filter (· ∈ ['a', 'A'])
    let results ← operands.mapM
      (if marks.contains 'n' then declareOne [] [mark] false
        else declareOne (mark :: kinds) [] false)
    return if results.all id then 0 else 1

/-- Removes variables, places in them, or functions. -/
def removeNamed : Builtin := fun arguments => do
  let (marks, _, operands) ← readMarks "fnv".toList arguments
  let results ← operands.mapM fun word => do
    let s ← get
    let dropFunction : Act Bool := do
      modify fun s => { s with functions := s.functions.filter fun f => f.1 ≠ word }
      return true
    if marks.contains 'f' then dropFunction
    else
      match namedBy? word with
      | none => return true
      | some n =>
        let name := if marks.contains 'n' then n.name else s.resolved 10 n.name
        match s.binding? name with
        | none => if marks.contains 'v' then return true else dropFunction
        | some b =>
          if b.fixed then
            warn (name ++ ": cannot unset: readonly variable".toList)
            return false
          else
            match n.key with
            | none => set (s.unbind name)
            | some key =>
              if [['@'], ['*']].contains key && (match b.contents with
                | .table _ => false
                | _ => true) then set (s.unbind name)
              else
                let k ← keyIn name b.contents key
                modify (·.put name (b.contents.remove k))
            return true
  return if results.all id then 0 else 1

/-! ## Calculating -/

/-- Evaluates expressions. The status tells whether the last one is zero. -/
def calculateAll : Builtin := fun arguments => do
  if arguments = [] then
    warn "expression expected".toList
    return 1
  else
    let rec go : List Bytes → Nat → Act Nat
      | [], status => return status
      | text :: rest, _ => do
        match ← reckonRich text with
        | .ok n => go rest (if n = 0 then 1 else 0)
        | .error f =>
          warn (flawWords text f)
          return 1
    go arguments 1

end LinkWatch.Host.Shell
