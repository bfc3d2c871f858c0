import LinkWatch.Host.Utility.Inflation
import LinkWatch.Host.Utility.Stream

/-!
# Packing files

A file is packed into another one that takes its place, or is unpacked again. The text may also go
to the output, be tested, or be listed.
-/

namespace LinkWatch.Host.Utility

open LinkWatch.Text LinkWatch.Host.Kernel LinkWatch.Decimal

/-- How files are packed. -/
structure PackSettings where
  call : Call
  unpacks : Bool
  toOutput : Bool
  tests : Bool
  lists : Bool
  forces : Bool
  keeps : Bool
  isQuiet : Bool
  isVerbose : Bool
  namesFiles : Bool
  level : Nat
  suffix : Bytes

/-- What the files of a list come to: packed and unpacked, and the size of the last head. -/
structure PackTotals where
  packed : Nat := 0
  unpacked : Nat := 0
  head : Nat := 0
  count : Nat := 0
  status : Nat := 0

/-- A share as a percentage with one place. -/
def shareText (part : Int) (whole : Nat) : Bytes :=
  let tenths := if whole = 0 then 0 else roundDivEven (1000 * part.natAbs) whole
  let shown := (if part < 0 && 0 < tenths then ['-'] else []) ++ fixedFraction tenths 10 1
  padLeft 5 ' ' shown ++ ['%']

/-- The size of the head and the end of a packed text. -/
def frameSize (packed : Bytes) : Nat :=
  match headOf packed with
  | .ok (size, _) => size + 8
  | .error _ => 18

/-- The ending of the name of a packed file, and the name of what it holds. -/
def packedEnding? (suffix path : Bytes) : Option (Bytes × Bytes) :=
  let endings : List (Bytes × Bytes) :=
    [(suffix, []), (".gz".toList, []), (".z".toList, []), (".tgz".toList, ".tar".toList),
      (".taz".toList, ".tar".toList), ("-gz".toList, []), ("-z".toList, []), ("_z".toList, []),
      (".Z".toList, [])]
  endings.findSome? fun (e, new) =>
    match stripPrefix? e.reverse path.reverse with
    | some stem =>
      if stem = [] || stem.head? = some '/' || e = [] then none else some (e, stem.reverse ++ new)
    | none => none

/-- Reports something that is no fault. -/
def PackSettings.warn (k : PackSettings) (t : PackTotals) (words : Bytes) : Program PackTotals := do
  if !k.isQuiet then
    let _ ← request (.write 2 (line ("gzip: ".toList ++ words)))
  return { t with status := if t.status = 0 then 2 else t.status }

/-- Reports a fault. -/
def PackSettings.fail (t : PackTotals) (words : Bytes) : Program PackTotals := do
  let _ ← request (.write 2 (line ("gzip: ".toList ++ words)))
  return { t with status := 1 }

/-- Reports what is wrong with a packed text. -/
def PackSettings.failUnpacking (t : PackTotals) (name : Bytes) (f : UnpackFault) :
    Program PackTotals := do
  let _ ← request (.write 2 ("\ngzip: ".toList ++ name ++ ':' :: ' ' :: line f.words.toList))
  return { t with status := 1 }

/-- Says something about a file. -/
def PackSettings.say (k : PackSettings) (words : Bytes) : Program Unit := do
  if k.isVerbose then
    let _ ← request (.write 2 words)

/-- Shows the sizes of a packed text. -/
def PackSettings.list (t : PackTotals) (name packed : Bytes) (isQuiet : Bool) :
    Program PackTotals := do
  let size := numberOf (packed.drop (packed.length - 4)).reverse
  let head := frameSize packed
  let row (packed unpacked : Nat) (name : Bytes) : Bytes :=
    line (padLeft 19 ' ' (digitsOf packed) ++ ' ' :: padLeft 19 ' ' (digitsOf unpacked) ++ ' '
      :: shareText ((unpacked : Int) - ((packed : Int) - head)) unpacked ++ ' ' :: name)
  let title := "         compressed        uncompressed  ratio uncompressed_name".toList
  let before := if t.count = 0 && !isQuiet then line title else []
  let _ ← writeTo 1 (before ++ row packed.length size name)
  return { t with
    packed := t.packed + packed.length, unpacked := t.unpacked + size, head := head,
    count := t.count + 1 }

/-- Puts a text in the place of a file, under another name; the new one gets the time and the
permissions of the old one. -/
def replaceWith (old new text : Bytes) (keeps : Bool) (d : Disk) : Except OsError Unit × Disk :=
  match d.find old with
  | .error e => (.error e, d)
  | .ok f =>
    match d.write new text with
    | .error e => (.error e, d)
    | .ok written =>
      let dated := match written.find new with
        | .ok g => written.setNode g.number { g.node with mode := f.node.mode, time := f.node.time }
        | .error _ => written
      if keeps then (.ok (), dated)
      else
        match dated.unlink old with
        | .ok d => (.ok (), d)
        | .error _ => (.ok (), dated)

/-- Puts a text in the place of a file. Another file of that name is only overwritten if that is
asked for. -/
def PackSettings.replace (k : PackSettings) (t : PackTotals) (old new text share : Bytes) :
    Program PackTotals := do
  let exists_ ← request (.files fun d => ((d.find new).isOk, d))
  if exists_ && !k.forces then k.warn t (new ++ " already exists;\tnot overwritten".toList)
  else
    match ← request (.files (replaceWith old new text k.keeps)) with
    | .ok _ =>
      k.say (old ++ ':' :: '\t' :: share
        ++ (if k.keeps then " -- created " else " -- replaced with ").toList
        ++ line new)
      return t
    | .error e => PackSettings.fail t (new ++ ':' :: ' ' :: wordsOf e)

/-- Unpacks a text of a name. -/
def PackSettings.unpack (k : PackSettings) (t : PackTotals) (name packed : Bytes)
    (target : Option Bytes) :
    Program PackTotals := do
  let (text, fault, hasMore) := unpackAll (packed.length + 1) true packed
  let isPlain := k.forces && k.toOutput && fault = some .notPacked
  match if isPlain then none else fault with
  | some f =>
    if k.toOutput && !k.tests then
      let _ ← writeTo 1 text
    PackSettings.failUnpacking t name f
  | none =>
    let share :=
      shareText ((text.length : Int) - ((packed.length : Int) - frameSize packed)) text.length
    let written ←
      if k.tests || target.isSome then pure (.ok ())
      else writeTo 1 (if isPlain then packed else text)
    let t : PackTotals ← if hasMore then do
        if !k.isQuiet then
          let _ ← request (.write 2
            ("\ngzip: ".toList ++ name
              ++ line ": decompression OK, trailing garbage ignored".toList))
        pure { t with status := if t.status = 0 then 2 else t.status }
      else pure t
    if k.tests then
      k.say (name ++ ":\t OK\n".toList)
      return t
    else
      match target with
      | some new => k.replace t name new text share
      | none =>
        match written with
        | .ok _ =>
          k.say (name ++ ':' :: '\t' :: line share)
          return t
        | .error e => PackSettings.fail t ("stdout: ".toList ++ wordsOf e)

/-- Packs a text of a name. -/
def PackSettings.pack (k : PackSettings) (t : PackTotals) (name text : Bytes) (time : Option Nat)
    (target : Option Bytes) : Program PackTotals := do
  let shown := if k.namesFiles && time.isSome then some (lastName name) else none
  let seconds := if k.namesFiles then time.getD 0 / 1000000000 else 0
  let packed := packMember k.level shown seconds text
  let share :=
    shareText ((text.length : Int) - ((packed.length : Int) - frameSize packed)) text.length
  match target with
  | some new => k.replace t name new packed share
  | none =>
    match ← writeTo 1 packed with
    | .ok _ =>
      k.say (if time.isSome then name ++ ':' :: '\t' :: share
        ++ line " -- replaced with stdout".toList
        else line share)
      return t
    | .error e => PackSettings.fail t ("stdout: ".toList ++ wordsOf e)

/-- Packs or unpacks a file. -/
def PackSettings.file (k : PackSettings) (t : PackTotals) (path : Bytes) : Program PackTotals := do
  if path = ['-'] then
    match ← readAll 0 with
    | .error e => PackSettings.fail t ("stdin: ".toList ++ wordsOf e)
    | .ok text =>
      if k.lists then PackSettings.list t "stdout".toList text k.isQuiet
      else if k.unpacks then k.unpack t "stdin".toList text none
      else k.pack t "stdin".toList text none none
  else
    let look (path : Bytes) : Program (Except OsError Found) :=
      request (.files fun d => (d.find path, d))
    let (path, found) ← do
      let found ← look path
      match found with
      | .error .notFound =>
        if k.unpacks && (packedEnding? k.suffix path).isNone then
          let other := path ++ k.suffix
          pure (other, ← look other)
        else pure (path, found)
      | found => pure (path, found)
    match found with
    | .error e => PackSettings.fail t (path ++ ':' :: ' ' :: wordsOf e)
    | .ok f =>
      if f.node.kind = .directory then k.warn t (path ++ " is a directory -- ignored".toList)
      else
        let ending := packedEnding? k.suffix path
        let target := ending.map (·.2)
        let isApart := k.toOutput || k.tests || k.lists
        if k.unpacks && !isApart && target.isNone then
          k.warn t (path ++ ": unknown suffix -- ignored".toList)
        else if !k.unpacks && target.isSome && !k.forces && !k.toOutput then
          if k.isQuiet then return t
          else
            let _ ← request (.write 2
              ("gzip: ".toList ++ path
                ++ line (" already has ".toList ++ (ending.elim [] (·.1))
                ++ " suffix -- unchanged".toList)))
            return t
        else
          match ← readFile path with
          | .error e => PackSettings.fail t (path ++ ':' :: ' ' :: wordsOf e)
          | .ok text =>
            if k.lists then
              match headOf text with
              | .ok _ => PackSettings.list t (target.getD path) text k.isQuiet
              | .error fault => PackSettings.failUnpacking t path fault
            else if k.unpacks then k.unpack t path text (if isApart then none else target)
            else k.pack t path text (some f.node.time) (if k.toOutput then none
              else some (path ++ k.suffix))

/-- Packs files, or unpacks them. -/
def packFiles (unpacks toOutput : Bool) (c : Call) : Program Nat :=
  let t : OptionTable :=
    { plain := "cdfklnNqrtv123456789".toList, valued := ['S']
      long := [("stdout", 'c'), ("to-stdout", 'c'), ("decompress", 'd'), ("uncompress", 'd'),
        ("force", 'f'), ("keep", 'k'), ("list", 'l'), ("no-name", 'n'), ("name", 'N'),
        ("quiet", 'q'), ("silent", 'q'), ("recursive", 'r'), ("suffix", 'S'), ("test", 't'),
        ("verbose", 'v'), ("fast", '1'), ("best", '9')] }
  match t.read (c.arguments.length + 1) c.arguments with
  | .error words => do
    let _ ← request (.write 2 (line ("gzip: ".toList ++ words)
      ++ line "Try \x60gzip --help' for more information.".toList))
    return 1
  | .ok o =>
    if o.has helpFlag then c.deliver (usageLine c.name) 0
    else if o.has versionFlag then c.deliver (line (lastName c.name ++ " 1.12".toList)) 0
    else do
      let level :=
        (((o.flags.filter fun f => f.1.isDigit).getLast?).map fun f => digitValue f.1).getD 6
      let k : PackSettings :=
        { call := c, unpacks := unpacks || o.has 'd' || o.has 't' || o.has 'l'
          toOutput := toOutput || o.has 'c', tests := o.has 't', lists := o.has 'l',
          forces := o.has 'f'
          keeps := o.has 'k', isQuiet := o.has 'q', isVerbose := o.has 'v' && !o.has 'q'
          namesFiles := !o.has 'n', level := level, suffix := (o.value? 'S').getD ".gz".toList }
      let files := if o.operands = [] then [['-']] else o.operands
      let totals ← files.foldlM (fun (t : PackTotals) file => k.file t file) {}
      if k.lists && 1 < totals.count then
        let share := shareText
          ((totals.unpacked : Int) - ((totals.packed : Int) - totals.head)) totals.unpacked
        let _ ← writeTo 1 (line (padLeft 19 ' ' (digitsOf totals.packed) ++ ' '
          :: padLeft 19 ' ' (digitsOf totals.unpacked) ++ ' ' :: share ++ " (totals)".toList))
      return totals.status

end LinkWatch.Host.Utility
