import LinkWatch.Host.Utility.Digest
import LinkWatch.Host.Utility.Scaling

/-!
# Lists of digests

The digests of inputs are shown with their names. Such a list can be read again, and the inputs are
compared with what it says.
-/

namespace LinkWatch.Host.Utility

open LinkWatch.Text LinkWatch.Host.Kernel LinkWatch.Decimal

/-- A kind of digest: how it is called in lists and among options, and the number of its digits. -/
structure DigestKind where
  title : String
  name : String
  digits : Nat
  digest : Bytes → Bytes

/-- The kinds of digests whose length is fixed. -/
def digestKinds : List DigestKind :=
  [⟨"MD5", "md5", 32, md5⟩, ⟨"SHA1", "sha1", 40, sha1⟩, ⟨"SHA224", "sha224", 56, sha224⟩,
    ⟨"SHA256", "sha256", 64, sha256⟩, ⟨"SHA384", "sha384", 96, sha384⟩,
    ⟨"SHA512", "sha512", 128, sha512⟩]

/-- The kind of digest with a chosen length in bits. -/
def blakeKind (bits : Nat) : DigestKind :=
  ⟨if bits = 512 then "BLAKE2b" else String.ofList ("BLAKE2b-".toList ++ digitsOf bits), "blake2b",
    bits / 4, blake2 (bits / 8)⟩

/-- The kind of digest of a title, with or without a length. -/
def kindOfTitle? (title : Bytes) : Option DigestKind :=
  match digestKinds.find? fun k => k.title.toList = title with
  | some k => some k
  | none =>
    if title = "BLAKE2b".toList then some (blakeKind 512)
    else
      match stripPrefix? "BLAKE2b-".toList title with
      | some digits =>
        (natural? digits).bind fun n => if 0 < n && n ≤ 512 && n % 8 = 0 then some (blakeKind n)
          else none
      | none => none

/-! ## Writing -/

/-- How entries of a list are written. -/
structure EntryStyle where
  isTagged : Bool := false
  isBinary : Bool := false
  ending : Char := '\n'

/-- A name with a mark and escapes if it has characters that need them. -/
def escapedName (name : Bytes) : Bytes × Bytes :=
  if name.any fun c => c = '\n' || c = '\r' || c = '\\' then
    (['\\'], name.flatMap fun c => match c with
      | '\n' => ['\\', 'n']
      | '\r' => ['\\', 'r']
      | '\\' => ['\\', '\\']
      | c => [c])
  else ([], name)

/-- An entry of a list. -/
def EntryStyle.entry (y : EntryStyle) (k : DigestKind) (digest name : Bytes) : Bytes :=
  let (mark, shown) := if y.ending = '\n' then escapedName name else ([], name)
  let text :=
    if y.isTagged then k.title.toList ++ " (".toList ++ shown ++ ") = ".toList ++ digest
    else digest ++ (if y.isBinary then [' ', '*'] else [' ', ' ']) ++ shown
  mark ++ text ++ [y.ending]

/-- Shows something about each of some inputs. -/
def describeInputs (c : Call) (files : List Bytes) (describe : Bytes → Bytes → Bytes) :
    Program Nat := do
  let results ← files.mapM fun file => do
    match ← readFile file with
    | .ok text =>
      let _ ← writeTo 1 (describe text file)
      return true
    | .error e =>
      c.complain (Wording.usual.opening file e)
      return false
  return if results.all id then 0 else 1

/-! ## Reading -/

/-- An entry of a list that has been read. -/
structure ListedDigest where
  kind : DigestKind
  digest : Bytes
  name : Bytes
  /-- What stands before the name when it is shown. -/
  mark : Bytes := []

/-- Whether a text is a digest of a kind. -/
def DigestKind.admits (k : DigestKind) (cs : Bytes) : Bool :=
  cs.length = k.digits && cs.all fun c => digitValue c < 16

/-- A name without its escapes. -/
def unescapedName? : Bytes → Option Bytes
  | [] => some []
  | '\\' :: 'n' :: rest => (unescapedName? rest).map ('\n' :: ·)
  | '\\' :: 'r' :: rest => (unescapedName? rest).map ('\r' :: ·)
  | '\\' :: '\\' :: rest => (unescapedName? rest).map ('\\' :: ·)
  | '\\' :: _ => none
  | c :: rest => (unescapedName? rest).map (c :: ·)

/-- Reads an entry of a list, of a kind that is known or that its title tells. -/
def readEntry? (known : Option DigestKind) (text : Bytes) : Option ListedDigest :=
  let start := text.dropWhile isBlankChar
  let (mark, start) := match start with
    | '\\' :: rest => (['\\'], rest)
    | rest => ([], rest)
  let resolved (name : Bytes) : Option Bytes := if mark = [] then some name else unescapedName? name
  let title := start.takeWhile fun c => c.isAlphanum || c = '-'
  let isKnown (k : DigestKind) : Bool := known.all fun m =>
    m.title = k.title || (m.name = "blake2b" && k.name = "blake2b")
  let tagged := (kindOfTitle? title).bind fun k =>
    if !isKnown k then none
    else
      match (start.drop title.length).dropWhile (· = ' ') with
      | '(' :: rest =>
        match rest.reverse.dropWhile (· ≠ ')') with
        | _ :: before =>
          let name := before.reverse
          match (rest.drop (name.length + 1)).dropWhile isBlankChar with
          | '=' :: digest =>
            let digest := digest.dropWhile isBlankChar
            if k.admits digest then (resolved name).map fun n => ⟨k, digest, n, mark⟩ else none
          | _ => none
        | [] => none
      | _ => none
  match tagged with
  | some e => some e
  | none =>
    match known with
    | none => none
    | some k =>
      let digest := start.takeWhile fun c => digitValue c < 16
      let k := if k.name = "blake2b" && digest.length % 2 = 0 && digest.length ≤ 128 && digest ≠ []
        then blakeKind (4 * digest.length) else k
      if !k.admits digest then none
      else
        match start.drop digest.length with
        | b :: rest =>
          if !isBlankChar b then none
          else
            let name := match rest with
              | ' ' :: name => name
              | '*' :: name => name
              | name => name
            if name = [] then none else (resolved name).map fun n => ⟨k, digest, n, mark⟩
        | [] => none

/-- How a list is compared with the inputs. -/
structure ListCheck where
  kind : Option DigestKind
  isQuiet : Bool
  isSilent : Bool
  warns : Bool
  isStrict : Bool
  ignoresMissing : Bool
  ending : Char

/-- How many entries of a list have come to what. -/
structure CheckCount where
  read : Nat := 0
  improper : Nat := 0
  different : Nat := 0
  unreadable : Nat := 0
  same : Nat := 0

/-- Compares the entries of a list, whose next line has a number, with the inputs. -/
def ListCheck.lines (k : ListCheck) (c : Call) (file : Bytes) :
    Nat → List Bytes → CheckCount → Program CheckCount
  | _, [], t => return t
  | number, text :: rest, t => do
    if text = [] || text.head? = some '#' then k.lines c file (number + 1) rest t
    else
      match readEntry? k.kind text with
      | none =>
        if k.warns then
          let title := k.kind.elim [] fun d => d.title.toList ++ [' ']
          c.complain (file ++ ':' :: ' ' :: digitsOf number ++ ": improperly formatted ".toList
            ++ title
            ++ "checksum line".toList)
        k.lines c file (number + 1) rest { t with improper := t.improper + 1 }
      | some e =>
        let t := { t with read := t.read + 1 }
        let say (words : String) : Program Unit := do
          if !k.isSilent then
            let shown := if e.mark = [] then e.name else (escapedName e.name).2
            let _ ← writeTo 1 (line (e.mark ++ shown ++ ':' :: ' ' :: words.toList))
        match ← readFile e.name with
        | .error error =>
          if error = .notFound && k.ignoresMissing then k.lines c file (number + 1) rest t
          else
            c.complain (Wording.usual.opening e.name error)
            say "FAILED open or read"
            k.lines c file (number + 1) rest { t with unreadable := t.unreadable + 1 }
        | .ok text =>
          if e.kind.digest text = e.digest.map Char.toLower then
            if !k.isQuiet then say "OK"
            k.lines c file (number + 1) rest { t with same := t.same + 1 }
          else
            say "FAILED"
            k.lines c file (number + 1) rest { t with different := t.different + 1 }

/-- Compares the inputs with a list. -/
def ListCheck.file (k : ListCheck) (c : Call) (file : Bytes) : Program Bool := do
  match ← readFile file with
  | .error e =>
    c.complain (Wording.usual.opening file e)
    return false
  | .ok text =>
    let name := if file = ['-'] then "'standard input'".toList else shellQuoted file
    let t ← k.lines c name 1 (recordsOf k.ending text) {}
    if t.read = 0 then
      c.complain (name ++ ": no properly formatted checksum lines found".toList)
      return false
    else
      let warn (n : Nat) (one many : String) : Program Unit := do
        if !k.isSilent && 0 < n then
          c.complain ("WARNING: ".toList ++ digitsOf n ++ (if n = 1 then one else many).toList)
      warn t.improper " line is improperly formatted" " lines are improperly formatted"
      warn t.unreadable " listed file could not be read" " listed files could not be read"
      warn t.different " computed checksum did NOT match" " computed checksums did NOT match"
      let nothing := k.ignoresMissing && t.same = 0 && t.different = 0
      if nothing && !k.isSilent then c.complain (name ++ ": no file was verified".toList)
      return !nothing && t.different = 0 && t.unreadable = 0 && (!k.isStrict || t.improper = 0)

/-! ## Programs -/

/-- The options of programs that show digests. -/
def digestTable (extra : List Char) : OptionTable where
  plain := ['b', 't', 'z', 'c', 'w', 'T', 'Q', 'S', 'R', 'M', 'U']
  valued := extra
  long := [("binary", 'b'), ("text", 't'), ("tag", 'T'), ("check", 'c'), ("warn", 'w'),
    ("quiet", 'Q'), ("status", 'S'), ("strict", 'R'), ("ignore-missing", 'M'), ("zero", 'z'),
    ("untagged", 'U'), ("length", 'l'), ("algorithm", 'a')]

/-- Compares inputs with lists, as options ask for it. -/
def checkLists (c : Call) (o : Options) (kind : Option DigestKind) : Program Nat := do
  let k : ListCheck :=
    { kind := kind, isQuiet := o.has 'Q', isSilent := o.has 'S', warns := o.has 'w'
      isStrict := o.has 'R', ignoresMissing := o.has 'M'
      ending := if o.has 'z' then '\x00' else '\n' }
  let files := if o.operands = [] then [['-']] else o.operands
  let results ← files.mapM fun file => k.file c file
  return if results.all id then 0 else 1

/-- What is wrong with options that only mean something when lists are read. -/
def checkingMisuse? (o : Options) : Option Bytes :=
  if o.has 'c' then none
  else
    [('Q', "quiet"), ('S', "status"), ('w', "warn"), ('M', "ignore-missing"),
      ('R', "strict")].findSome?
      fun p => if o.has p.1 then
          some ("the --".toList ++ p.2.toList
            ++ " option is meaningful only when verifying checksums".toList)
        else none

/-- Shows the digests of inputs, or compares them with lists. -/
def showDigests (name : String) (c : Call) : Program Nat :=
  c.withOptions (digestTable (if name = "blake2b" then ['l'] else [])) 1 fun o => do
    let bits : Option Nat := match o.value? 'l' with
      | none => some 512
      | some v => (natural? v).map fun n => if n = 0 then 512 else n
    let kind : Option DigestKind := match digestKinds.find? fun k => k.name = name with
      | some k => some k
      | none => bits.bind fun n => if n ≤ 512 && n % 8 = 0 then some (blakeKind n) else none
    match kind, checkingMisuse? o with
    | none, _ =>
      let shown := (o.value? 'l').getD []
      c.complain ("invalid length: ".toList ++ inQuotes shown)
      if bits.any (512 < ·) then
        c.refuse 1 "maximum digest length for 'BLAKE2b' is 512 bits".toList
      else if bits.isSome then c.refuse 1 "length is not a multiple of 8".toList
      else return 1
    | _, some words => c.misuse 1 words
    | some k, none =>
      if o.has 'c' then checkLists c o (some k)
      else
        let style : EntryStyle :=
          { isTagged := o.has 'T', isBinary := o.has 'b', ending := if o.has 'z' then '\x00'
            else '\n' }
        let files := if o.operands = [] then [['-']] else o.operands
        describeInputs c files fun text file => style.entry k (k.digest text) file

/-- A turning sum and the number of blocks of a thousand bytes. -/
def turningLine (text : Bytes) : Bytes :=
  padLeft 5 '0' (digitsOf (turningSum text))
    ++ ' ' :: padLeft 5 ' ' (digitsOf ((text.length + 1023) / 1024))

/-- A folded sum and the number of blocks of five hundred bytes. -/
def foldedLine (text : Bytes) : Bytes :=
  digitsOf (foldedSum text) ++ ' ' :: digitsOf ((text.length + 511) / 512)

/-- Shows checksums of inputs with their names, if some are given. -/
def showSumLines (c : Call) (o : Options) (shown : Bytes → Bytes) : Program Nat :=
  let files := if o.operands = [] then [['-']] else o.operands
  describeInputs c files fun text file =>
    line (shown text ++ (if o.operands = [] then [] else ' ' :: file))

/-- Shows checksums or digests of a chosen kind. -/
def showChecksums (c : Call) : Program Nat :=
  c.withOptions (digestTable ['a', 'l']) 1 fun o => do
    let name := String.ofList ((o.value? 'a').getD "crc".toList)
    let names := ["sysv", "bsd", "crc", "md5", "sha1", "sha224", "sha256", "sha384", "sha512",
      "blake2b", "sm3"]
    if !(name ∈ names) then c.misuse 1 (unknownChoice "algorithm" name.toList names)
    else
      let bits := (((o.value? 'l').bind natural?).getD 512)
      let kind : Option DigestKind :=
        if name = "blake2b" then some (blakeKind bits) else digestKinds.find? fun k => k.name = name
      if o.has 'c' then
        if o.has 'a' && kind.isNone then
          c.refuse 1 "--check is not supported with --algorithm=\x7bbsd,sysv,crc\x7d".toList
        else checkLists c o (if o.has 'a' then kind else none)
      else
        match name, kind with
        | "bsd", _ => showSumLines c o turningLine
        | "sysv", _ => showSumLines c o foldedLine
        | _, some k =>
          let style : EntryStyle :=
            { isTagged := !o.has 'U', isBinary := o.has 'b', ending := if o.has 'z' then '\x00'
              else '\n' }
          let files := if o.operands = [] then [['-']] else o.operands
          describeInputs c files fun text file => style.entry k (k.digest text) file
        | _, none =>
          showSumLines c o fun text => digitsOf (polynomialSum text) ++ ' ' :: digitsOf text.length

/-- Shows sums of inputs and their numbers of blocks. -/
def showSums (c : Call) : Program Nat :=
  c.withOptions { plain := ['r', 's'], long := [("sysv", 's')] } 1 fun o =>
    let isFolded := (o.flags.filter fun f => f.1 = 'r' || f.1 = 's').getLast?.any fun f => f.1 = 's'
    showSumLines c o (if isFolded then foldedLine else turningLine)

end LinkWatch.Host.Utility
