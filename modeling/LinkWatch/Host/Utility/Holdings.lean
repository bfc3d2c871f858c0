import LinkWatch.Host.Kernel.Installed
import LinkWatch.Host.Utility.Permissions
import LinkWatch.Host.Utility.Stream

/-!
# What directories hold

Programs that make and remove files, directories and links, and change their permissions, and
programs that tell the last part of a path and what comes before it.
-/

namespace LinkWatch.Host.Utility

open LinkWatch.Text LinkWatch.Host.Kernel

/-! ## Parts of names -/

/-- A text without the slashes at its end. -/
def withoutSlashes (cs : Bytes) : Bytes :=
  (cs.reverse.dropWhile (· = '/')).reverse

/-- The last part of a path. -/
def lastPart (cs : Bytes) : Bytes :=
  let kept := withoutSlashes cs
  if kept = [] then (if cs = [] then [] else ['/'])
  else (afterLast? '/' kept).getD kept

/-- A name without a suffix, unless nothing would be left. -/
def withoutSuffix (suffix name : Bytes) : Bytes :=
  if suffix.isSuffixOf name && suffix ≠ name then name.take (name.length - suffix.length) else name

/-- The last parts of paths. -/
def baseName (c : Call) : Program Nat :=
  let t : OptionTable :=
    { plain := ['a', 'z'], valued := ['s']
      long := [("multiple", 'a'), ("suffix", 's'), ("zero", 'z')], isStrict := true }
  c.withOptions t 1 fun o =>
    let ending := if o.has 'z' then ['\x00'] else ['\n']
    match o.operands with
    | [] => c.misuse 1 "missing operand".toList
    | name :: others =>
      if o.has 'a' || o.has 's' then
        let suffix := (o.value? 's').getD []
        c.deliver (o.operands.flatMap fun n => withoutSuffix suffix (lastPart n) ++ ending) 0
      else
        match others with
        | [] => c.deliver (lastPart name ++ ending) 0
        | [suffix] => c.deliver (withoutSuffix suffix (lastPart name) ++ ending) 0
        | _ :: extra :: _ => c.misuse 1 ("extra operand '".toList ++ extra ++ ['\''])

/-- What comes before the last part of a path. -/
def beforeLastPart (cs : Bytes) : Bytes :=
  let kept := withoutSlashes cs
  if kept = [] then (if cs = [] then ['.'] else ['/'])
  else
    let rest := kept.take (kept.length - (lastPart kept).length)
    if rest = [] then ['.']
    else
      let directory := withoutSlashes rest
      if directory = [] then ['/'] else directory

/-- What comes before the last parts of paths. -/
def directoryName (c : Call) : Program Nat :=
  c.withOptions { plain := ['z'], long := [("zero", 'z')] } 1 fun o =>
    let ending := if o.has 'z' then ['\x00'] else ['\n']
    if o.operands = [] then c.misuse 1 "missing operand".toList
    else c.deliver (o.operands.flatMap fun n => beforeLastPart n ++ ending) 0

/-! ## Operands -/

/-- Does something for each operand and reports what cannot be done. -/
def forOperands (c : Call) (operands : List Bytes)
    (act : Bytes → Program (Except Bytes Unit)) : Program Nat := do
  let results ← operands.mapM fun a => do
    match ← act a with
    | .ok _ => return true
    | .error words =>
      c.complain words
      return false
  return if results.all id then 0 else 1

/-- Changes the disk. -/
def changeDisk (f : Disk → Except OsError Disk) : Program (Except OsError Unit) :=
  request (.files fun d =>
    match f d with
    | .ok d => (.ok (), d)
    | .error e => (.error e, d))

/-- Asks something of the disk. -/
def inquire {α : Type} (f : Disk → α) : Program α :=
  request (.files fun d => (f d, d))

/-- Words about an operand in quotes. -/
def aboutOperand (start : String) (operand : Bytes) (e : OsError) : Bytes :=
  start.toList ++ '\'' :: operand ++ "': ".toList ++ wordsOf e

/-- Tells what has been done, if that is wanted. -/
def tell (isWanted : Bool) (words : Bytes) : Program Unit := do
  if isWanted then
    let _ ← writeTo 1 (line words)
  return ()

/-- Reports an operand that is missing or one too many. -/
def Call.refuseCount (c : Call) (operands : List Bytes) (least most : Nat) (use : Program Nat) :
    Program Nat :=
  match operands with
  | [] => if least = 0 then use else c.misuse 1 "missing operand".toList
  | _ =>
    if operands.length < least then
      c.misuse 1 ("missing operand after '".toList ++ operands.getLast?.getD [] ++ ['\''])
    else if most < operands.length then
      c.misuse 1 ("extra operand '".toList ++ (operands[most]?).getD [] ++ ['\''])
    else use

/-! ## Directories -/

/-- The directories on the way to a path, each with the ones above it. -/
def stepsOf (path : Bytes) : List Bytes :=
  let names := (pieces '/' path).filter (· ≠ [])
  let start : Bytes := if path.head? = some '/' then ['/'] else []
  (List.range names.length).map fun i => start ++ joinWith ['/'] (names.take (i + 1))

/-- Makes directories. -/
def makeDirectories (c : Call) : Program Nat :=
  let t : OptionTable :=
    { plain := ['p', 'v', 'Z'], valued := ['m']
      long := [("parents", 'p'), ("verbose", 'v'), ("mode", 'm')] }
  c.withOptions t 1 fun o =>
    let mode? := (o.value? 'm').map fun text => (text, ModeChange.ofText? text)
    match mode? with
    | some (text, none) => c.refuse 1 ("invalid mode '".toList ++ text ++ ['\''])
    | mode? =>
      let change := mode?.bind (·.2)
      let makeOne (path : Bytes) (isLast : Bool) : Program (Except OsError Unit) :=
        changeDisk fun d =>
          (d.makeDirectory path 511).map fun d =>
            match if isLast then change else none, d.look true path with
            | some m, .ok f =>
              d.setNode f.number { f.node with mode := m.apply d.mask true 511 }
            | _, _ => d
      let rec makeSteps (steps : List Bytes) : Program (Except Bytes Unit) :=
        match steps with
        | [] => return .ok ()
        | path :: rest => do
          match ← makeOne path (rest = []) with
          | .ok _ =>
            tell (o.has 'v') (c.name ++ ": created directory '".toList ++ path ++ ['\''])
            makeSteps rest
          | .error e =>
            let isThere ← inquire fun d => d.isDirectory path
            if isThere then makeSteps rest
            else
              let e := if rest ≠ [] && e = .exists then .notDirectory else e
              return .error (aboutOperand "cannot create directory " path e)
      if o.operands = [] then c.misuse 1 "missing operand".toList
      else
        forOperands c o.operands fun a => do
          if o.has 'p' then makeSteps (stepsOf a)
          else
            match ← makeOne a true with
            | .ok _ =>
              tell (o.has 'v') (c.name ++ ": created directory '".toList ++ a ++ ['\''])
              return .ok ()
            | .error e => return .error (aboutOperand "cannot create directory " a e)

/-- Removes empty directories. -/
def removeDirectories (c : Call) : Program Nat :=
  let t : OptionTable :=
    { plain := ['p', 'v', 'i']
      long := [("parents", 'p'), ("verbose", 'v'), ("ignore-fail-on-non-empty", 'i')] }
  c.withOptions t 1 fun o =>
    if o.operands = [] then c.misuse 1 "missing operand".toList
    else
      forOperands c o.operands fun a => do
        let steps := if o.has 'p' then (stepsOf a).reverse else [a]
        let rec go : List Bytes → Program (Except Bytes Unit)
          | [] => return .ok ()
          | path :: rest => do
            tell (o.has 'v') (c.name ++ ": removing directory, '".toList ++ path ++ ['\''])
            match ← changeDisk fun d => d.removeDirectory path with
            | .ok _ => go rest
            | .error e =>
              if e = .notEmpty && o.has 'i' then return .ok ()
              else
                let verb := if path = a then "failed to remove " else "failed to remove directory "
                return .error (aboutOperand verb path e)
        go steps

/-! ## Removing -/

/-- Reads an answer from the input, up to the end of its line. -/
def readAnswer : Nat → Bytes → Program Bytes
  | 0, cs => return cs.reverse
  | fuel + 1, cs => do
    match ← request (.read 0 1) with
    | .ok [c] => if c = '\n' then return cs.reverse else readAnswer fuel (c :: cs)
    | _ => return cs.reverse

/-- Asks a question on the error stream; whether the answer is yes. -/
def Call.confirm (c : Call) (question : Bytes) : Program Bool := do
  let _ ← request (.write 2 (c.name ++ ": ".toList ++ question ++ "? ".toList))
  let answer ← readAnswer 100000 []
  return answer.head?.any fun d => d = 'y' || d = 'Y'

/-- The words for a kind of node. -/
def kindWords (node : Node) : String :=
  match node.kind with
  | .directory => "directory"
  | .file [] => "regular empty file"
  | .file _ => "regular file"
  | .device _ => "character special file"
  | .link _ => "symbolic link"
  | .queue => "fifo"

/-- Removes what is at a path, with all that a directory holds. What has been removed is told if
that is wanted. -/
def removeTree (c : Call) (o : Options) : Nat → Bytes → Program Bool
  | 0, _ => return false
  | fuel + 1, path => do
    let found ← inquire fun d => (d.look true path).map fun f =>
      (f, if f.node.kind = .directory then d.names f.location else [])
    let asks := o.has 'i' && !o.has 'f'
    match found with
    | .error e =>
      if o.has 'f' && (e = .notFound || e = .notDirectory) then return true
      else
        c.complain (aboutOperand "cannot remove " path e)
        return false
    | .ok (f, names) =>
      if f.node.kind = .directory then
        let last := lastPart path
        if !(o.has 'r' || o.has 'R' || (o.has 'd' && names = [])) then
          c.complain (aboutOperand "cannot remove " path
            (if o.has 'd' then .notEmpty else .isDirectory))
          return false
        else if last = ['.'] || last = ['.', '.'] then
          c.complain ("refusing to remove '.' or '..' directory: skipping '".toList ++ path
            ++ ['\''])
          return false
        else
          let start := withoutSlashes path ++ ['/']
          let goes ← if asks && names ≠ [] then
              c.confirm ("descend into directory '".toList ++ path ++ ['\''])
            else pure true
          if !goes then return true
          else
            let results ← names.mapM fun name => removeTree c o fuel (start ++ name)
            if !results.all id then return false
            else
              let goes ← if asks then c.confirm ("remove directory '".toList ++ path ++ ['\''])
                else pure true
              if !goes then return true
              else
                match ← changeDisk fun d => d.removeDirectory path with
                | .ok _ =>
                  tell (o.has 'v') ("removed directory '".toList ++ path ++ ['\''])
                  return true
                | .error e =>
                  if asks && e = .notEmpty then return true
                  else
                    c.complain (aboutOperand "cannot remove " path e)
                    return false
      else
        let goes ← if asks then
            c.confirm ("remove ".toList ++ (kindWords f.node).toList ++ " '".toList ++ path
              ++ ['\''])
          else pure true
        if !goes then return true
        else
          match ← changeDisk fun d => d.unlink path with
          | .ok _ =>
            tell (o.has 'v') ("removed '".toList ++ path ++ ['\''])
            return true
          | .error e =>
            c.complain (aboutOperand "cannot remove " path e)
            return false

/-- The greatest depth of directories within directories. -/
def deepestDirectory : Nat := 4096

/-- Removes files. -/
def removeFiles (c : Call) : Program Nat :=
  let t : OptionTable :=
    { plain := ['f', 'r', 'R', 'v', 'd', 'i', 'I', 'x']
      long := [("force", 'f'), ("recursive", 'r'), ("verbose", 'v'), ("dir", 'd'),
        ("no-preserve-root", 'x'), ("preserve-root", 'x'), ("one-file-system", 'x')] }
  c.withOptions t 1 fun o => do
    if o.operands = [] then
      if o.has 'f' then return 0 else c.misuse 1 "missing operand".toList
    else
      let last := (o.flags.reverse.find? fun f => f.1 = 'f' || f.1 = 'i').map (·.1)
      let flags := o.flags.filter fun f => !(f.1 = 'f' || f.1 = 'i') || some f.1 = last
      let results ← o.operands.mapM fun a =>
        removeTree c { o with flags := flags } deepestDirectory a
      return if results.all id then 0 else 1

/-- Removes one file. -/
def unlinkFile (c : Call) : Program Nat :=
  c.withOptions { plain := [] } 1 fun o =>
    c.refuseCount o.operands 1 1 do
      let a := o.operands.headD []
      match ← changeDisk fun d => d.unlink a with
      | .ok _ => return 0
      | .error e => c.refuse 1 (aboutOperand "cannot unlink " a e)

/-! ## Links -/

/-- Gives a file another name. -/
def linkFile (c : Call) : Program Nat :=
  c.withOptions { plain := [] } 1 fun o =>
    c.refuseCount o.operands 2 2 do
      let a := o.operands.headD []
      let b := (o.operands[1]?).getD []
      match ← changeDisk fun d => d.join a b false with
      | .ok _ => return 0
      | .error e =>
        c.refuse 1 ("cannot create link '".toList ++ b ++ "' to '".toList ++ a ++ "': ".toList
          ++ wordsOf e)

/-- The way from one location to another. -/
def relativePath (start target : Location) : Bytes :=
  let rec go : Location → Location → Location × Location
    | a :: as, b :: bs => if a = b then go as bs else (a :: as, b :: bs)
    | as, bs => (as, bs)
  let (up, down) := go start target
  let names := up.map (fun _ => ['.', '.']) ++ down
  if names = [] then ['.'] else joinWith ['/'] names

/-- Why a program does nothing, and whether it has been used in a wrong way. -/
structure Refusal where
  words : Bytes
  isMisuse : Bool := false

/-- Reports why nothing is done. -/
def Call.report (c : Call) (r : Refusal) : Program Nat :=
  if r.isMisuse then c.misuse 1 r.words else c.refuse 1 r.words

/-- Where copies and links of sources go. -/
abbrev Destinations := List (Bytes × Bytes)

/-- Finds out where sources go: the directory that an option names, the last operand if it is a
directory, or the last operand itself for one source. -/
def destinations (o : Options) (isLink : Bool) : Program (Except Refusal Destinations) := do
  let into (directory : Bytes) (sources : List Bytes) : Destinations :=
    let start := if directory.getLast? = some '/' then directory else directory ++ ['/']
    sources.map fun a => (a, start ++ lastPart a)
  match o.value? 't' with
  | some directory =>
    let found ← inquire fun d => d.find directory
    match found with
    | .ok f =>
      if f.node.kind = .directory then return .ok (into directory o.operands)
      else return .error ⟨aboutOperand "target directory " directory .notDirectory, false⟩
    | .error e => return .error ⟨aboutOperand "target directory " directory e, false⟩
  | none =>
    match o.operands.reverse with
    | [] => return .error ⟨"missing file operand".toList, true⟩
    | [a] =>
      if isLink then return .ok [(a, lastPart a)]
      else return .error ⟨"missing destination file operand after '".toList ++ a ++ ['\''], true⟩
    | target :: sources =>
      let found ← inquire fun d => if o.has 'n' && isLink then d.look true target else d.find target
      let isDirectory := match found with
        | .ok f => f.node.kind = .directory
        | .error _ => false
      match sources with
      | [source] =>
        if isDirectory && !o.has 'T' then return .ok (into target [source])
        else return .ok [(source, target)]
      | sources =>
        if o.has 'T' then
          return .error ⟨"extra operand '".toList ++ (o.operands[2]?).getD [] ++ ['\''], true⟩
        else if isDirectory then return .ok (into target sources.reverse)
        else
          let e := match found with
            | .ok _ => OsError.notDirectory
            | .error e => e
          return .error ⟨aboutOperand "target " target e, false⟩

/-- Makes links. -/
def makeLinks (c : Call) : Program Nat :=
  let t : OptionTable :=
    { plain := "sfnrTvbiPLd".toList, valued := ['t', 'S']
      long := [("symbolic", 's'), ("force", 'f'), ("no-dereference", 'n'), ("relative", 'r'),
        ("no-target-directory", 'T'), ("verbose", 'v'), ("target-directory", 't'),
        ("interactive", 'i'), ("physical", 'P'), ("logical", 'L'), ("suffix", 'S')] }
  c.withOptions t 1 fun o => do
    match ← destinations o true with
    | .error refusal => c.report refusal
    | .ok targets =>
      let isSoft := o.has 's'
      let results ← targets.mapM fun (source, target) => do
        let text : Bytes ← if o.has 'r' && isSoft then
            inquire fun d =>
              match d.goal false source, d.goal true target with
              | .ok a, .ok b => relativePath b.location.dropLast a.location
              | _, _ => source
          else pure source
        let exists_ ← inquire fun d => (d.look true target).toOption.isSome
        if exists_ && o.has 'f' then
          let _ ← changeDisk fun d => d.unlink target
        let result ← changeDisk fun d =>
          if isSoft then d.make target (.link text) 511 else d.join source target (o.has 'L')
        match result with
        | .ok _ =>
          tell (o.has 'v')
            ('\'' :: target ++ "' ".toList ++ (if isSoft then "-> '" else "=> '").toList
            ++ text ++ ['\''])
          return true
        | .error e =>
          let isMissing ← inquire fun d => (d.look true source).toOption.isNone
          let isDirectory ← inquire fun d => d.isDirectory source
          if isSoft then c.complain (aboutOperand "failed to create symbolic link " target e)
          else if isMissing then c.complain (aboutOperand "failed to access " source .notFound)
          else if isDirectory then
            c.complain (source ++ ": hard link not allowed for directory".toList)
          else if e = .exists then c.complain (aboutOperand "failed to create hard link " target e)
          else
            c.complain ("failed to create hard link '".toList ++ target ++ "' => '".toList ++ source
              ++ "': ".toList ++ wordsOf e)
          return false
      return if results.all id then 0 else 1

/-! ## Permissions -/

/-- Permissions as a message names them. -/
def modeWords (mode : Nat) : Bytes :=
  List.replicate (4 - (octalDigits mode).length) '0' ++ octalDigits mode ++ " (".toList
    ++ modeLetters mode ++ [')']

/-- All paths from a path down, the path itself first. -/
def pathsBelow (d : Disk) : Nat → Bytes → List Bytes
  | 0, path => [path]
  | fuel + 1, path =>
    match d.look true path with
    | .ok f =>
      if f.node.kind = .directory then
        let start := withoutSlashes path ++ ['/']
        path :: (d.names f.location).flatMap fun name => pathsBelow d fuel (start ++ name)
      else [path]
    | .error _ => [path]

/-- Changes permissions. -/
def changeModes (c : Call) : Program Nat :=
  let isMode (a : Bytes) : Bool := match a with
    | '-' :: d :: _ => d ∈ "rwxXstugoa,=+01234567".toList
    | _ => false
  let given := c.arguments.find? isMode
  let arguments := match given with
    | some a => c.arguments.erase a
    | none => c.arguments
  let t : OptionTable :=
    { plain := ['R', 'v', 'c', 'f'], valued := ['z']
      long := [("recursive", 'R'), ("verbose", 'v'), ("changes", 'c'), ("silent", 'f'),
        ("quiet", 'f'), ("reference", 'z')] }
  Call.withOptions { c with arguments := arguments } t 1 fun o => do
    let reference := o.value? 'z'
    let (mode, files) : Bytes × List Bytes := match reference, given with
      | some _, _ => ([], o.operands)
      | none, some a => (a, o.operands)
      | none, none => (o.operands.headD [], o.operands.drop 1)
    let change ← match reference with
      | some file => inquire fun d =>
          (d.find file).toOption.map fun f => ModeChange.octal f.node.mode 5
      | none => pure (ModeChange.ofText? mode)
    if mode = [] && reference.isNone then c.misuse 1 "missing operand".toList
    else if files = [] then c.misuse 1 ("missing operand after '".toList ++ mode ++ ['\''])
    else
      match change with
      | none =>
        match reference with
        | some file => c.refuse 1 (aboutOperand "failed to get attributes of " file .notFound)
        | none => c.misuse 1 ("invalid mode: '".toList ++ mode ++ ['\''])
      | some m =>
        let all ← if o.has 'R' then
            inquire fun d => files.flatMap fun a => pathsBelow d deepestDirectory a
          else pure files
        let results ← all.mapM fun a => do
          let done ← (request (.files fun d =>
            match d.find a with
            | .error e => (.error e, d)
            | .ok f =>
              let mode := m.apply d.mask (f.node.kind = .directory) f.node.mode
              (.ok (f.node.mode, mode), d.setNode f.number { f.node with mode := mode })) :
            Program (Except OsError (Nat × Nat)))
          match done with
          | .error e =>
            if !o.has 'f' then c.complain (aboutOperand "cannot access " a e)
            return false
          | .ok (old, new) =>
            if old ≠ new then
              tell (o.has 'v' || o.has 'c') ("mode of '".toList ++ a ++ "' changed from ".toList
                ++ modeWords old ++ " to ".toList ++ modeWords new)
            else
              tell (o.has 'v') ("mode of '".toList ++ a ++ "' retained as ".toList ++ modeWords new)
            return true
        return if results.all id then 0 else 1

/-- Changes owners, of which there is one only. -/
def changeOwners (c : Call) : Program Nat :=
  let t : OptionTable :=
    { plain := ['R', 'v', 'c', 'f', 'h', 'H', 'L', 'P'], valued := ['z', 'y']
      long := [("recursive", 'R'), ("verbose", 'v'), ("reference", 'z'), ("from", 'y'),
        ("no-dereference", 'h')] }
  c.withOptions t 1 fun o =>
    let files := if o.has 'z' then o.operands else o.operands.drop 1
    if o.operands = [] then c.misuse 1 "missing operand".toList
    else if files = [] then
      c.misuse 1 ("missing operand after '".toList ++ o.operands.headD [] ++ ['\''])
    else
      forOperands c files fun a => do
        match ← inquire fun d => d.find a with
        | .ok _ => return .ok ()
        | .error e => return .error (aboutOperand "cannot access " a e)

/-- Makes queues. -/
def makeQueues (c : Call) : Program Nat :=
  c.withOptions { plain := ['Z'], valued := ['m'], long := [("mode", 'm')] } 1 fun o =>
    if o.operands = [] then c.misuse 1 "missing operand".toList
    else
      forOperands c o.operands fun a => do
        let change := (o.value? 'm').bind ModeChange.ofText?
        let result ← changeDisk fun d =>
          d.make a .queue (match change with
            | some m => m.apply 0 false 438
            | none => d.masked 438)
        return result.mapError (aboutOperand "cannot create fifo " a)

/-- Makes a file or directory of a new name. -/
def makeTemporary (c : Call) : Program Nat :=
  let t : OptionTable :=
    { plain := ['d', 'u', 'q', 't', 'T'], valued := ['p', 's']
      long := [("directory", 'd'), ("dry-run", 'u'), ("quiet", 'q'), ("tmpdir", 'p'),
        ("suffix", 's')] }
  let arguments := c.arguments.map fun a => if a = "--tmpdir".toList then ['-', 'T'] else a
  Call.withOptions { c with arguments := arguments } t 1 fun o => do
    let base := ((o.value? 'p').filter (· ≠ [])).getD
      (((c.environment.lookup "TMPDIR".toList).filter (· ≠ [])).getD "/tmp".toList)
    let isBelow := o.has 't' || o.has 'p' || o.has 'T' || o.operands = []
    let given := o.operands.headD "tmp.XXXXXXXXXX".toList
    let suffix := o.value? 's'
    let tail : Bytes := match suffix with
      | some s => s
      | none => given.reverse.takeWhile (· ≠ 'X') |>.reverse
    let body := if suffix.isSome then given else given.take (given.length - tail.length)
    let marks := (body.reverse.takeWhile (· = 'X')).length
    if 1 < o.operands.length then c.misuse 1 "too many templates".toList
    else if suffix.isSome && given.getLast? ≠ some 'X' then
      c.refuse 1 ("with --suffix, template '".toList ++ given ++ "' must end in X".toList)
    else if marks < 3 then
      c.refuse 1 ("too few X's in template '".toList ++ given ++ ['\''])
    else if tail.contains '/' then
      c.refuse 1 ("invalid suffix '".toList ++ tail ++ "', contains directory separator".toList)
    else if isBelow && (o.has 'p' || o.has 'T') && given.head? = some '/' then
      c.refuse 1 ("invalid template, '".toList ++ given
        ++ "'; with --tmpdir, it may not be absolute".toList)
    else
      let start := body.take (body.length - marks)
      let stem := if isBelow then base ++ '/' :: start else start
      let name (i : Nat) : Bytes :=
        let digits := digitsOf i
        stem ++ (List.replicate (marks - digits.length) 'a' ++ digits).drop (digits.length - marks)
          ++ tail
      let made ← (request (.files fun d =>
        let free := ((List.range 900).find? fun i => (d.look true (name (i + 100))).toOption.isNone)
        let path := name (free.getD 0 + 100)
        let made := if o.has 'u' then .ok d
          else if o.has 'd' then d.make path .directory 448
          else d.make path (.file []) 384
        match made with
        | .ok d => (.ok path, d)
        | .error e => (.error e, d)) : Program (Except OsError Bytes))
      match made with
      | .ok path => c.deliver (line path) 0
      | .error e =>
        if o.has 'q' then return 1
        else
          c.refuse 1 ("failed to create ".toList
            ++ (if o.has 'd' then "directory" else "file").toList
            ++ " via template '".toList ++ (if isBelow then base ++ '/' :: given else given)
            ++ "': ".toList ++ wordsOf e)

end LinkWatch.Host.Utility
