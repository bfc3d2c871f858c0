import LinkWatch.Host.Shell.Printing
import LinkWatch.Host.Shell.State

/-!
# What a command name stands for

A name stands for a reserved word, an alias, a function, a command of the shell or a program.
Special commands of the shell come before functions, others after them.
-/

namespace LinkWatch.Host.Shell

open LinkWatch.Text LinkWatch.Host.Kernel LinkWatch.Host.Utility

/-- The commands of the shell whose faults end it and whose assignments last. -/
def specialCommands : List String :=
  specialNames ++ ["local"]

/-- The other commands of the shell. -/
def plainCommands : List String :=
  ["[", "alias", "bg", "cd", "chdir", "command", "echo", "false", "fg", "getopts", "hash", "jobs",
    "kill", "printf", "pwd", "read", "test", "true", "type", "ulimit", "umask", "unalias", "wait"]

/-- The commands of a shell with the rich language. -/
def richCommands : List String :=
  [".", ":", "[", "alias", "bg", "bind", "break", "builtin", "caller", "cd", "command", "compgen",
    "complete", "compopt", "continue", "declare", "dirs", "disown", "echo", "enable", "eval",
    "exec", "exit", "export", "false", "fc", "fg", "getopts", "hash", "help", "history", "jobs",
    "kill", "let", "local", "logout", "mapfile", "popd", "printf", "pushd", "pwd", "read",
    "readarray", "readonly", "return", "set", "shift", "shopt", "source", "suspend", "test",
    "times", "trap", "true", "type", "typeset", "ulimit", "umask", "unalias", "unset", "wait"]

/-- The commands whose arguments may be assignments. -/
def assigningCommands : List String :=
  ["alias", "export", "local", "readonly"]

/-- The value of the variable for the directories of programs, where nobody else sets it. -/
def usualPath : Bytes :=
  "/usr/local/sbin:/usr/local/bin:/usr/sbin:/usr/bin:/sbin:/bin".toList

/-- The directories in which programs are usually found. -/
def usualDirectories : List Bytes :=
  pieces ':' usualPath

/-- The directories in which a shell looks for programs. -/
def State.searchPath (s : State) : List Bytes :=
  pieces ':' ((s.stored? "PATH".toList).getD [])

/-- The path of a program of a name. -/
def programPath? (d : Disk) (directories : List Bytes) (name : Bytes) : Option Bytes :=
  if name.contains '/' then
    match d.find name with
    | .ok _ => some name
    | .error _ => none
  else
    match d.locate directories name with
    | .ok (path, _) => some path
    | .error _ => none

/-- What a name stands for. -/
inductive Meaning where
  | keyword
  | alias (text : Bytes)
  | function (body : Command)
  | special
  | builtin
  /-- A program, which may have been looked for before. -/
  | program (path : Bytes) (isKnown : Bool)
  | unknown

/-- The commands of a shell itself, apart from the special ones of the common language. -/
def State.ownCommands (s : State) : List String :=
  if s.isRich then richCommands.filter fun n => !s.disabled.contains n.toList else plainCommands

/-- What a command of a name would be, aliases and reserved words apart, if programs are looked for
in some directories. -/
def commandMeaning (directories : List Bytes) (name : Bytes) : Act Meaning := do
  let s ← get
  let text := String.ofList name
  if !s.isRich && text ∈ specialCommands then return .special
  else
    match s.functions.lookup name with
    | some body => return .function body
    | none =>
      if s.ownCommands.contains text then return .builtin
      else
        match ← ask (.files fun t => (programPath? t directories name, t)) with
        | some path => return .program path (s.known.contains name || (s.places.lookup name).isSome)
        | none => return .unknown

/-- What a name stands for. -/
def meaningOf (directories : List Bytes) (name : Bytes) : Act Meaning := do
  let s ← get
  let text := String.ofList name
  let showsAliases := !s.isRich || s.switched "expand_aliases"
  if text ∈ reservedWords || (s.isRich && text ∈ richWords) then return .keyword
  else
    match if showsAliases then s.aliases.lookup name else none with
    | some text => return .alias text
    | none => commandMeaning directories name

/-- The line that tells what a name stands for, if it does. -/
def meaningLine (name : Bytes) (m : Meaning) : Bytes :=
  let about (words : String) : Bytes := line (name ++ words.toList)
  match m with
  | .keyword => about " is a shell keyword"
  | .alias text => line (name ++ " is an alias for ".toList ++ text)
  | .function _ => about " is a shell function"
  | .special => about " is a special shell builtin"
  | .builtin => about " is a shell builtin"
  | .program path isKnown =>
    line (name ++ (if isKnown then " is a tracked alias for " else " is ").toList ++ path)
  | .unknown => about ": not found"

/-- The line of an alias. -/
def aliasLine (name text : Bytes) : Bytes :=
  line (name ++ '=' :: singleQuoted text)

/-- The line by which a name can be called, if it stands for something. -/
def callLine (name : Bytes) (m : Meaning) : Bytes :=
  match m with
  | .alias text => "alias ".toList ++ aliasLine name text
  | .program path _ => line path
  | .unknown => []
  | _ => line name

/-- Whether a name stands for nothing. -/
def Meaning.isUnknown : Meaning → Bool
  | .unknown => true
  | _ => false

/-- The line that tells what a name stands for in the rich language. -/
def richMeaningLine (name : Bytes) (m : Meaning) : Bytes :=
  match m with
  | .alias text => line (name ++ " is aliased to \x60".toList ++ text ++ ['\''])
  | .function body => line (name ++ " is a function".toList) ++ functionText name body
  | .program path isKnown =>
    if isKnown then line (name ++ " is hashed (".toList ++ path ++ [')'])
    else line (name ++ " is ".toList ++ path)
  | .unknown => []
  | m => meaningLine name m

/-- The kind of thing that a name stands for. -/
def Meaning.kind : Meaning → Bytes
  | .keyword => "keyword".toList
  | .alias _ => "alias".toList
  | .function _ => "function".toList
  | .special => "builtin".toList
  | .builtin => "builtin".toList
  | .program _ _ => "file".toList
  | .unknown => []

/-- Tells in the rich language what names stand for: in words, by their kinds, or by the paths of
programs. -/
def tellRich : Builtin := fun arguments =>
  withGiven ['a', 'f', 'p', 'P', 't'] [] arguments fun g => do
    let s ← get
    let results ← g.operands.mapM fun name => do
      let m ← meaningOf s.searchPath name
      let paths : List Bytes ← ask (.files fun d =>
        (if name.contains '/' then []
          else (s.searchPath.map fun p => p ++ '/' :: name).filter fun p =>
          match d.find p with
          | .ok f => f.node.kind ≠ .directory && f.node.isExecutable
          | .error _ => false, d))
      let isProgram := match m with
        | .program _ _ => true
        | _ => false
      if g.has 'P' then
        return (((if g.has 'a' then paths else paths.take 1).flatMap line), !paths.isEmpty)
      else if g.has 'p' then return (if isProgram then callLine name m else [], !m.isUnknown)
      else if g.has 't' then return (if m.isUnknown then [] else line m.kind, !m.isUnknown)
      else
        if m.isUnknown then warn (name ++ ": not found".toList)
        let others := if !g.has 'a' then []
          else if isProgram then paths.drop 1
          else paths
        return (richMeaningLine name m
          ++ others.flatMap (fun p => line (name ++ " is ".toList ++ p)),
          !m.isUnknown)
    say (results.flatMap Prod.fst) (if results.all Prod.snd then 0 else 1)

/-- Tells what names stand for. -/
def tellMeanings : Builtin := fun arguments => do
  let s ← get
  let meanings ← arguments.mapM (meaningOf s.searchPath)
  say ((arguments.zip meanings).flatMap fun p => meaningLine p.1 p.2)
    (if meanings.any Meaning.isUnknown then 127 else 0)

/-- Tells how a name can be called, or what it stands for. -/
def tellCommand : Builtin := fun arguments =>
  withGiven ['p', 'v', 'V'] [] arguments fun g => do
    match g.operands with
    | name :: _ =>
      if (← get).isRich then
        let s ← get
        let results ← g.operands.mapM fun name => do
          let m ← meaningOf (if g.has 'p' then usualDirectories else s.searchPath) name
          if g.has 'V' && m.isUnknown then warn (name ++ ": not found".toList)
          let text := if g.has 'V' then richMeaningLine name m else callLine name m
          return (text, !m.isUnknown)
        say (results.flatMap Prod.fst) (if results.any Prod.snd then 0 else 1)
      else if g.has 'v' || g.has 'V' then
        let s ← get
        let m ← meaningOf (if g.has 'p' then usualDirectories else s.searchPath) name
        say (if g.has 'V' then meaningLine name m else callLine name m)
          (if m.isUnknown then 127 else 0)
      else return 0
    | [] => return 0

/-- Sets where a program is and how often it has been called. -/
def State.remember (s : State) (name path : Bytes) (calls : Nat) : State :=
  { s with places := (name, path, calls) :: s.places.filter fun p => p.1 ≠ name }

/-- The number of places in the table of programs. -/
def programPlaces : Nat := 256

/-- The programs that are remembered, in their order. -/
def State.rememberedPrograms (s : State) : List (Bytes × Bytes × Nat) :=
  s.places.mergeSort fun a b => nameNumber a.1 % programPlaces ≤ nameNumber b.1 % programPlaces

/-- Remembers one program, or forgets it. -/
def rememberOne (g : Given) (name : Bytes) : Act Bool := do
  let s ← get
  let missing : Act Bool := do
    warn (name ++ ": not found".toList)
    return false
  match g.options.lookup 'p' with
  | some path =>
    if ← ask (.files fun d => (d.isDirectory path, d)) then
      warn (path ++ ": Is a directory".toList)
      return false
    else
      set (s.remember name path 0)
      return true
  | none =>
    if name.contains '/' then return true
    else if g.has 'd' then
      if (s.places.lookup name).isNone then missing
      else
        set { s with places := s.places.filter fun p => p.1 ≠ name }
        return true
    else
      match ← commandMeaning s.searchPath name with
      | .program path _ =>
        set (s.remember name path 0)
        return true
      | .unknown => missing
      | _ => return true

/-- Looks for programs and remembers where they are, or shows those that are known, in the rich
language. -/
def rememberPlaces : Builtin := fun arguments => do
  withGiven ['d', 'l', 'r', 't'] ['p'] arguments fun g => do
    let portable (name path : Bytes) : Bytes :=
      line (joinWords ["builtin hash -p".toList, path, name])
    let needs (letter : Char) : Act Nat := do
      warn ('-' :: letter :: ": option requires an argument".toList)
      return 1
    if g.operands = [] && g.has 'd' then needs 'd'
    else if g.operands = [] && g.has 't' then needs 't'
    else
      if g.has 'r' then modify fun s => { s with places := [] }
      let s ← get
      if g.operands = [] then
        if g.has 'r' then return 0
        else if s.places.isEmpty then say (line "hash: hash table empty".toList) 0
        else if g.has 'l' then
          say (s.rememberedPrograms.flatMap fun p => portable p.1 p.2.1) 0
        else
          say (line "hits\tcommand".toList ++ s.rememberedPrograms.flatMap fun p =>
            let n := digitsOf p.2.2
            line (List.replicate (4 - n.length) ' ' ++ n ++ '\t' :: p.2.1)) 0
      else if g.has 't' then
        let rows ← g.operands.mapM fun name => do
          match s.places.lookup name with
          | some (path, _) =>
            return if g.has 'l' then portable name path
              else if g.operands.length = 1 then line path else line (name ++ '\t' :: path)
          | none =>
            warn (name ++ ": not found".toList)
            return []
        say rows.flatten (if rows.contains [] then 1 else 0)
      else
        let results ← g.operands.mapM (rememberOne g)
        return if results.all id then 0 else 1

/-- Lets commands of the shell be looked for as programs, or takes that back. -/
def enableCommands : Builtin := fun arguments => do
  withGiven ['a', 'n', 'p', 's'] [] arguments fun g => do
    let s ← get
    if g.operands = [] then
      let shown := richCommands.filter fun n =>
        g.has 'a' || s.disabled.contains n.toList = g.has 'n'
      say (shown.flatMap fun n =>
        line ("enable ".toList ++ (if s.disabled.contains n.toList then "-n " else "").toList
          ++ n.toList)) 0
    else
      let results ← g.operands.mapM fun name => do
        if richCommands.contains (String.ofList name) then
          modify fun s =>
            let others := s.disabled.filter (· ≠ name)
            { s with disabled := if g.has 'n' then name :: others else others }
          return true
        else
          warn (name ++ ": not a shell builtin".toList)
          return false
      return if results.all id then 0 else 1

/-- Lists the names of some kinds that start in a certain way. -/
def listCandidates : Builtin := fun arguments => do
  withGiven ("abcdefgjksuv".toList) ['A', 'C', 'F', 'G', 'P', 'S', 'W', 'X', 'o'] arguments
      fun g => do
    let s ← get
    let kinds := g.options.filterMap fun o => if o.1 = 'A' then some (String.ofList o.2) else none
    let asks (letter : Char) (kind : String) : Bool := g.has letter || kinds.contains kind
    let texts (names : List String) : List Bytes := names.map String.toList
    let entries (wants : Kind → Bool) : Act (List Bytes) :=
      ask (.files fun d => (((d.find ['.']).toOption.map fun f => d.names f.location).getD []
        |>.filter fun n => n.head? ≠ some '.' && match d.find n with
          | .ok f => wants f.node.kind
          | .error _ => false, d))
    let inOrder (a b : Bytes) : Bool := !isBefore b a
    let found : List (List Bytes) :=
      [if asks 'a' "alias" then (s.aliases.map Prod.fst).mergeSort inOrder else [],
        if asks 'b' "builtin" then texts (s.ownCommands) else [],
        if kinds.contains "function" then (s.functions.map Prod.fst).mergeSort inOrder else [],
        if asks 'k' "keyword" then texts ["if", "then", "else", "elif", "fi", "case", "esac", "for",
          "select", "while", "until", "do", "done", "in", "function", "time", "\x7b", "\x7d", "!",
          "[[", "]]", "coproc"] else [],
        if asks 'v' "variable" then (s.bindings.filter fun b => b.value.isSome
          || !b.contents.values.isEmpty).map Binding.name |>.mergeSort inOrder else [],
        if asks 'e' "export" then ((s.bindings.filter Binding.exported).map Binding.name).mergeSort
          inOrder else []]
    let files ← if asks 'f' "file" then entries fun _ => true else pure []
    let directories ← if asks 'd' "directory" then entries (· = .directory) else pure []
    let words := (g.options.filter fun o => o.1 = 'W').flatMap fun o =>
      (pieces ' ' (o.2.map fun c => if isSpaceChar c then ' ' else c)).filter (· ≠ [])
    let word := g.operands.headD []
    let chosen := (found.flatten ++ directories ++ files ++ words).filter word.isPrefixOf
    let before := (g.options.lookup 'P').getD []
    let after := (g.options.lookup 'S').getD []
    say (chosen.flatMap fun n => line (before ++ n ++ after)) (if chosen.isEmpty then 1 else 0)

/-- Looks for programs and remembers their names, or shows those that are known. -/
def rememberPrograms : Builtin := fun arguments => do
  withGiven ['r', 'v'] [] arguments fun g => do
    if g.has 'r' then
      modify fun s => { s with known := [] }
      return 0
    else if g.operands = [] then
      let s ← get
      let meanings ← s.known.mapM (commandMeaning s.searchPath)
      say ((s.known.zip meanings).flatMap fun p => callLine p.1 p.2) 0
    else
      let results ← g.operands.mapM fun name => do
        let s ← get
        match ← commandMeaning s.searchPath name with
        | .unknown =>
          warn (name ++ ": not found".toList)
          return false
        | .program _ _ =>
          modify fun s =>
            { s with known := if s.known.contains name then s.known else s.known ++ [name] }
          return true
        | _ => return true
      return if results.all id then 0 else 1

/-- The place of an alias in the list of all aliases. -/
def aliasRank (name : Bytes) : Nat :=
  ((name.headD '\x00').toNat * 16 + (name.map Char.toNat).foldl (· + ·) 0) % 39

/-- Sets aliases, or shows them. -/
def setAliases : Builtin := fun arguments => do
  let s ← get
  if arguments = [] then
    let sorted :=
      if s.isRich then s.aliases.mergeSort fun a b => !isBefore b.1 a.1
      else s.aliases.reverse.mergeSort fun a b => aliasRank a.1 ≤ aliasRank b.1
    let start := if s.isRich then "alias ".toList else []
    say (sorted.flatMap fun a => start ++ aliasLine a.1 a.2) 0
  else
    let results ← arguments.mapM fun word => do
      let s ← get
      match cutAt? '=' (word.drop 1) with
      | some (name, value) =>
        let name := word.take 1 ++ name
        set { s with aliases := (name, value) :: s.aliases.filter fun a => a.1 ≠ name }
        return 0
      | none =>
        match s.aliases.lookup word with
        | some value => say ((if s.isRich then "alias ".toList else []) ++ aliasLine word value) 0
        | none =>
          if s.isRich then warn (word ++ ": not found".toList)
          else sayError ("alias: ".toList ++ word ++ " not found".toList)
          return 1
    return if results.all (· = 0) then 0 else 1

/-- Removes aliases. -/
def removeAliases : Builtin := fun arguments =>
  withGiven ['a'] [] arguments fun g => do
    if g.has 'a' then
      modify fun s => { s with aliases := [] }
      return 0
    else
      let results ← g.operands.mapM fun name => do
        let s ← get
        if s.aliases.any fun a => a.1 = name then
          set { s with aliases := s.aliases.filter fun a => a.1 ≠ name }
          return true
        else
          if s.isRich then warn (name ++ ": not found".toList)
          else sayError ("unalias: ".toList ++ name ++ " not found".toList)
          return false
      return if results.all id then 0 else 1

end LinkWatch.Host.Shell
