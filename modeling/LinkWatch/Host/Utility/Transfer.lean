import LinkWatch.Host.Utility.Date
import LinkWatch.Host.Utility.Holdings

/-!
# Copying and moving

Programs that copy and move files and directories, set their times and their sizes.
-/

namespace LinkWatch.Host.Utility

open LinkWatch.Text LinkWatch.Host.Kernel

/-- What a copy looks at: the node at its source, and the one at its target. -/
structure CopySight where
  source : Except OsError Found
  target : Except OsError Goal
  /-- What a directory at the source holds. -/
  names : List Bytes

/-- Whether the last of some options is a certain one. -/
def Options.lastIs (o : Options) (flag : Char) (among : List Char) : Bool :=
  (o.flags.reverse.find? fun f => among.contains f.1).any fun f => f.1 = flag

/-- Copies what is at a path to another one; whether all could be copied. -/
def copyTree (c : Call) (o : Options) : Nat → Bool → Bytes → Bytes → Program Bool
  | 0, _, _, _ => return false
  | fuel + 1, isOuter, source, target => do
    let recursive := o.has 'r' || o.has 'R' || o.has 'a'
    let keepsLinks := !o.has 'L' && (o.has 'P' || o.has 'd' || o.has 'a' || recursive)
      && !(isOuter && o.has 'H')
    let sight ← inquire fun d =>
      let source := d.look keepsLinks source
      let names := match source with
        | .ok f => if f.node.kind = .directory then d.names f.location else []
        | .error _ => []
      (⟨source, d.goal false target, names⟩ : CopySight)
    let complain (words : Bytes) : Program Bool := do
      c.complain words
      return false
    match sight.source with
    | .error e => complain (aboutOperand "cannot stat " source e)
    | .ok f =>
      let old : Option (Nat × Node) := match sight.target with
        | .ok g => g.node?
        | .error _ => none
      let shown : Bytes := '\'' :: source ++ "' -> '".toList ++ target ++ ['\'']
      if f.node.kind = .directory then
        if !recursive then
          complain ("-r not specified; omitting directory '".toList ++ source ++ ['\''])
        else
          match old with
          | some (_, node) =>
            if node.kind ≠ .directory then
              return ← complain ("cannot overwrite non-directory '".toList ++ target
                ++ "' with directory '".toList ++ source ++ ['\''])
          | none => pure ()
          let isInside ← inquire fun d =>
            match d.goal false target with
            | .ok g => f.location.isPrefixOf g.location && f.location ≠ g.location
            | .error _ => false
          if isInside then
            complain ("cannot copy a directory, '".toList ++ source ++ "', into itself, '".toList
              ++ target ++ ['\''])
          else
            let made ← if old.isSome then pure (.ok ())
              else changeDisk fun d => d.make target .directory (d.masked f.node.mode)
            match made with
            | .error e => complain (aboutOperand "cannot create directory " target e)
            | .ok _ =>
              tell (o.has 'v' && old.isNone) shown
              let join (path name : Bytes) : Bytes :=
                if path.getLast? = some '/' then path ++ name else path ++ '/' :: name
              let results ← sight.names.mapM fun name =>
                copyTree c o fuel false (join source name) (join target name)
              return results.all id
      else
        match sight.target with
        | .error e => complain (aboutOperand "cannot create regular file " target e)
        | .ok _ =>
          let isSame := old.any fun p => p.1 = f.number
          let isOlder := old.any fun p => f.node.time ≤ p.2.time
          if isSame && !(o.has 'l') then
            complain ('\'' :: source ++ "' and '".toList ++ target ++ "' are the same file".toList)
          else if old.any fun p => p.2.kind = .directory then
            complain ("cannot overwrite directory '".toList ++ target
              ++ "' with non-directory".toList
              ++ (if isOuter then [] else " '".toList ++ source ++ ['\'']))
          else if old.isSome && (o.lastIs 'n' ['n', 'i', 'f'] || (o.has 'u' && isOlder)) then
            return true
          else
            let goes ← if old.isSome && o.lastIs 'i' ['n', 'i', 'f'] then
                c.confirm ("overwrite '".toList ++ target ++ ['\''])
              else pure true
            if !goes then return true
            else
              let keeps := o.has 'p' || o.has 'a'
              let (time, mode) := (f.node.time, f.node.mode)
              let preserved (d : Disk) : Disk :=
                match d.look true target with
                | .ok g =>
                  if keeps then d.setNode g.number { g.node with time := time, mode := mode } else d
                | .error _ => d
              let result ← match f.node.kind with
                | .link text => do
                  if old.isSome then
                    let _ ← changeDisk fun d => d.unlink target
                  changeDisk fun d => (d.make target (.link text) 511).map preserved
                | .file text =>
                  changeDisk fun d =>
                    if o.has 'l' then d.join source target false
                    else if o.has 's' then d.make target (.link source) 511
                    else if old.isSome then (d.write target text).map preserved
                    else (d.make target (.file text) (d.masked mode)).map preserved
                | .queue =>
                  if o.has 'R' || o.has 'r' || o.has 'a' then
                    changeDisk fun d => d.make target .queue (d.masked mode)
                  else pure (.error .invalid)
                | _ => do
                  match ← readFile source with
                  | .error e => pure (.error e)
                  | .ok text => changeDisk fun d => d.write target text
              match result with
              | .ok _ =>
                tell (o.has 'v') shown
                return true
              | .error e => complain (aboutOperand "cannot create regular file " target e)

/-- Copies files. -/
def copyFiles (c : Call) : Program Nat :=
  let t : OptionTable :=
    { plain := "afinprRuvTLPHdlsbxZ".toList, valued := ['t', 'S', 'y', 'w']
      long := [("archive", 'a'), ("force", 'f'), ("interactive", 'i'), ("no-clobber", 'n'),
        ("recursive", 'r'), ("update", 'u'), ("verbose", 'v'), ("no-target-directory", 'T'),
        ("dereference", 'L'), ("no-dereference", 'P'), ("link", 'l'), ("symbolic-link", 's'),
        ("target-directory", 't'), ("preserve", 'p'), ("reflink", 'x'), ("sparse", 'y')] }
  let arguments := c.arguments.map fun a =>
    if "--preserve=".toList.isPrefixOf a then ['-', 'p']
    else if "--reflink=".toList.isPrefixOf a then ['-', 'x'] else a
  Call.withOptions { c with arguments := arguments } t 1 fun o => do
    match ← destinations o false with
    | .error refusal => c.report refusal
    | .ok targets =>
      let results ← targets.mapM fun (source, target) =>
        copyTree c o deepestDirectory true source target
      return if results.all id then 0 else 1

/-- Moves one file or directory; whether it could be moved. -/
def moveOne (c : Call) (o : Options) (source target : Bytes) : Program Bool := do
  let complain (words : Bytes) : Program Bool := do
    c.complain words
    return false
  let sight ← inquire fun d => (⟨d.look true source, d.goal true target, []⟩ : CopySight)
  match sight.source, sight.target with
  | .error e, _ => complain (aboutOperand "cannot stat " source e)
  | _, .error e =>
    complain ("cannot move '".toList ++ source ++ "' to '".toList ++ target ++ "': ".toList
      ++ wordsOf e)
  | .ok f, .ok g =>
    let isDirectory := f.node.kind = .directory
    let isOlder := g.node?.any fun p => f.node.time ≤ p.2.time
    if g.node?.any fun p => p.1 = f.number then
      complain ('\'' :: source ++ "' and '".toList ++ target ++ "' are the same file".toList)
    else if f.location.isPrefixOf g.location then
      complain ("cannot move '".toList ++ source ++ "' to a subdirectory of itself, '".toList
        ++ target
        ++ ['\''])
    else
      match g.node? with
      | some (_, node) =>
        if node.kind = .directory && !isDirectory then
          return ← complain ("cannot overwrite directory '".toList ++ target
            ++ "' with non-directory".toList)
        else if node.kind ≠ .directory && isDirectory then
          return ← complain ("cannot overwrite non-directory '".toList ++ target
            ++ "' with directory '".toList ++ source ++ ['\''])
        else if o.lastIs 'n' ['n', 'i', 'f'] || (o.has 'u' && isOlder) then return true
        else if o.lastIs 'i' ['n', 'i', 'f'] then
          if !(← c.confirm ("overwrite '".toList ++ target ++ ['\''])) then return true
      | none => pure ()
      match ← changeDisk fun d => d.rename source target with
      | .ok _ =>
        tell (o.has 'v') ("renamed '".toList ++ source ++ "' -> '".toList ++ target ++ ['\''])
        return true
      | .error e =>
        complain ("cannot move '".toList ++ source ++ "' to '".toList ++ target ++ "': ".toList
          ++ wordsOf e)

/-- Moves files and directories. -/
def moveFiles (c : Call) : Program Nat :=
  let t : OptionTable :=
    { plain := "finuvTbZx".toList, valued := ['t', 'S']
      long := [("force", 'f'), ("interactive", 'i'), ("no-clobber", 'n'), ("update", 'u'),
        ("verbose", 'v'), ("no-target-directory", 'T'), ("target-directory", 't'),
        ("strip-trailing-slashes", 'x')] }
  c.withOptions t 1 fun o => do
    match ← destinations o false with
    | .error refusal => c.report refusal
    | .ok targets =>
      let results ← targets.mapM fun (source, target) => moveOne c o (withoutSlashes source) target
      return if results.all id then 0 else 1

/-- Copies files to where they are to be used, with permissions. -/
def installFiles (c : Call) : Program Nat :=
  let t : OptionTable :=
    { plain := "dDvcpsTCbZ".toList, valued := ['m', 'o', 'g', 't', 'S']
      long := [("directory", 'd'), ("mode", 'm'), ("owner", 'o'), ("group", 'g'), ("verbose", 'v'),
        ("target-directory", 't'), ("no-target-directory", 'T'), ("compare", 'C'),
        ("preserve-timestamps", 'p'), ("strip", 's')] }
  c.withOptions t 1 fun o => do
    let change := ((o.value? 'm').bind ModeChange.ofText?).getD (.octal 493 3)
    let setMode (path : Bytes) : Program Unit :=
      request (.files fun d =>
        match d.find path with
        | .ok f =>
          let mode := change.apply 0 (f.node.kind = .directory) 0
          ((), d.setNode f.number { f.node with mode := mode })
        | .error _ => ((), d))
    if o.has 'd' then
      if o.operands = [] then c.misuse 1 "missing file operand".toList
      else
        forOperands c o.operands fun a => do
          match ← changeDisk fun d => d.makeAll a 493 with
          | .ok _ =>
            setMode a
            tell (o.has 'v') ("install: creating directory '".toList ++ a ++ ['\''])
            return .ok ()
          | .error e => return .error (aboutOperand "cannot create directory " a e)
    else
      if o.has 'D' then
        if let some target := o.operands.getLast? then
          let _ ← changeDisk fun d => d.makeAll (beforeLastPart target) 493
      match ← destinations o false with
      | .error refusal => c.report refusal
      | .ok targets =>
        let results ← targets.mapM fun (source, target) => do
          let kept := o.flags.filter fun f => f.1 ∈ ['v', 'p']
          let _ ← changeDisk fun d => d.unlink target
          let done ← copyTree c { o with flags := kept } deepestDirectory true source target
          if done then setMode target
          return done
        return if results.all id then 0 else 1

/-! ## Times and sizes -/

/-- Sets the times of files, which are made if they are not there. -/
def touchFiles (c : Call) : Program Nat :=
  let t : OptionTable :=
    { plain := ['a', 'c', 'm', 'f', 'h'], valued := ['d', 't', 'r', 'z']
      long := [("no-create", 'c'), ("date", 'd'), ("reference", 'r'), ("no-dereference", 'h'),
        ("time", 'z')] }
  c.withOptions t 1 fun o => do
    let zone := c.environment.zone
    let present ← presentTime
    let nanos (m : Int × Nat) : Nat := (m.1 * 1000000000 + m.2).toNat
    let reference ← match o.value? 'r' with
      | some file => inquire fun d => some ((d.find file).map fun f => f.node.time)
      | none => pure none
    let time : Except Bytes Nat := match o.value? 't', o.value? 'd', reference with
      | some digits, _, _ =>
        let (main, rest) := (digits.takeWhile (· ≠ '.'), digits.dropWhile (· ≠ '.'))
        let moved : Bytes := match main.length with
          | 10 => main.drop 2 ++ main.take 2 ++ rest
          | 12 => main.drop 4 ++ main.take 4 ++ rest
          | _ => digits
        match digitsMoment? zone present moved with
        | some s => .ok (nanos (s, 0))
        | none => .error ("invalid date format '".toList ++ digits ++ ['\''])
      | none, some words, reference =>
        let start : Int × Nat := match reference with
          | some (.ok n) => ((n / 1000000000 : Nat), n % 1000000000)
          | _ => present
        match dateOf? zone start words with
        | some m => .ok (nanos m)
        | none => .error ("invalid date format '".toList ++ words ++ ['\''])
      | none, none, some (.ok n) => .ok n
      | none, none, some (.error e) =>
        .error (aboutOperand "failed to get attributes of " ((o.value? 'r').getD []) e)
      | none, none, none => .ok (nanos present)
    match time with
    | .error words => c.refuse 1 words
    | .ok time =>
      if o.operands = [] then c.misuse 1 "missing file operand".toList
      else
        forOperands c o.operands fun a => do
          let setsTime := !(o.has 'a' && !o.has 'm')
          let result ← changeDisk fun d =>
            match d.look (o.has 'h') a with
            | .ok f => .ok (if setsTime then d.setNode f.number { f.node with time := time } else d)
            | .error .notFound =>
              if o.has 'c' then .ok d
              else
                (d.write a []).map fun d =>
                  match d.find a with
                  | .ok f => d.setNode f.number { f.node with time := time }
                  | .error _ => d
            | .error e => .error e
          return result.mapError (aboutOperand "cannot touch " a)

/-- The number of bytes that a letter after a number stands for. -/
def sizeFactor? (unit : Bytes) : Option Nat :=
  let letters : Bytes := "KMGTPEZY".toList
  match unit with
  | [] => some 1
  | ['c'] => some 1
  | ['w'] => some 2
  | ['b'] => some 512
  | u :: rest =>
    let u := if u = 'k' then 'K' else if u = 'm' then 'M' else u
    (letters.idxOf? u).bind fun i =>
      if rest = [] || rest = ['i', 'B'] then some (Nat.pow 1024 (i + 1))
      else if rest = ['B'] then some (Nat.pow 1000 (i + 1)) else none

/-- A number of bytes, with a letter for more of them. -/
def size? (cs : Bytes) : Option Nat :=
  let digits := cs.takeWhile Char.isDigit
  let unit := cs.drop digits.length
  if digits = [] then (if unit = [] then none else sizeFactor? unit)
  else (sizeFactor? unit).map fun f => (readBased 10 digits).1 * f

/-- Sets the sizes of files. -/
def truncateFiles (c : Call) : Program Nat :=
  let t : OptionTable :=
    { plain := ['c', 'o'], valued := ['s', 'r']
      long := [("no-create", 'c'), ("size", 's'), ("reference", 'r'), ("io-blocks", 'o')] }
  c.withOptions t 1 fun o => do
    let reference ← match o.value? 'r' with
      | some file => inquire fun d => (d.find file).toOption.map fun f => sizeOfNode f.node
      | none => pure none
    let text := (o.value? 's').getD []
    let (sign, digits) := if !o.has 's' then (some '+', []) else match skipSpaces text with
      | s :: rest => if s ∈ ['+', '-', '<', '>', '/', '%'] then (some s, skipSpaces rest)
        else (none, s :: rest)
      | [] => (none, [])
    if !o.has 's' && !o.has 'r' then
      c.misuse 1 "you must specify either '--size' or '--reference'".toList
    else if o.operands = [] then c.misuse 1 "missing file operand".toList
    else
      match if o.has 's' then size? digits else some 0 with
      | none => c.refuse 1 ("Invalid number: '".toList ++ text ++ ['\''])
      | some n =>
        if (sign = some '/' || sign = some '%') && n = 0 then c.refuse 1 "division by zero".toList
        else
          forOperands c o.operands fun a => do
            let result ← changeDisk fun d =>
              match d.find a with
              | .error .notFound => if o.has 'c' then .ok d else
                  (d.write a []).map fun d =>
                    match d.find a with
                    | .ok f => resize d f.number [] (wanted sign n (reference.getD 0))
                    | .error _ => d
              | .error e => .error e
              | .ok f =>
                if f.node.kind = .directory then .error .isDirectory
                else
                  let text := d.contents f.number
                  let base := if o.has 'r' then reference.getD 0 else text.length
                  .ok (resize d f.number text (wanted sign n base))
            return result.mapError (aboutOperand "cannot open " a)
where
  /-- The size that is asked for, given the size now. -/
  wanted (sign : Option Char) (n base : Nat) : Nat :=
    match sign with
    | some '+' => base + n
    | some '-' => base - n
    | some '<' => min base n
    | some '>' => max base n
    | some '/' => base / n * n
    | some '%' => (base + n - 1) / n * n
    | _ => n
  /-- The disk with a file of another size. -/
  resize (d : Disk) (number : Nat) (text : Bytes) (size : Nat) : Disk :=
    d.fill number (text.take size ++ List.replicate (size - text.length) '\x00')

end LinkWatch.Host.Utility
