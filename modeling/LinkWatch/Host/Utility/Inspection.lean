import LinkWatch.Host.Utility.Date
import LinkWatch.Host.Utility.Holdings
import LinkWatch.Host.Utility.Template

/-!
# What is known of files

Programs that tell what kind of thing a path leads to, what its name is when all links are followed,
and how much room it takes.
-/

namespace LinkWatch.Host.Utility

open LinkWatch.Text LinkWatch.Host.Kernel LinkWatch.Decimal

/-! ## Paths without links -/

/-- What has to exist of a path that is resolved. -/
inductive Existing where
  | all
  | allButLast
  | none
  deriving DecidableEq

/-- The location that names lead to from a location. Links are followed if that is wanted; what does
not exist has to be allowed. -/
def resolveNames (d : Disk) (e : Existing) (follows : Bool) :
    Nat → Nat → Location → List Bytes → Except OsError Location
  | 0, _, _, _ => .error .tooManyLinks
  | _, _, l, [] => .ok l
  | fuel + 1, links, l, name :: names =>
    if name = ['.'] then resolveNames d e follows fuel links l names
    else if name = ['.', '.'] then resolveNames d e follows fuel links l.dropLast names
    else
      let next := l ++ [name]
      match d.node? next with
      | none =>
        let isHeld := match d.node? l with
          | some (_, node) => node.kind = .directory
          | none => true
        if e = .none || (e = .allButLast && isHeld && names.all (· = ['.'])) then
          resolveNames d e follows fuel links next names
        else .error (if isHeld then .notFound else .notDirectory)
      | some (_, ⟨.link target, _, _⟩) =>
        if !follows then resolveNames d e follows fuel links next names
        else
          match links with
          | 0 => .error .tooManyLinks
          | links + 1 =>
            let start := if target.head? = some '/' then [] else l
            resolveNames d e follows fuel links start (namesOfPath target ++ names)
      | some (_, node) =>
        if names ≠ [] && node.kind ≠ .directory && e ≠ .none then .error .notDirectory
        else resolveNames d e follows fuel links next names

/-- The location that a path leads to. -/
def resolvePath (d : Disk) (e : Existing) (follows : Bool) (path : Bytes) :
    Except OsError Location :=
  if path = [] then .error .notFound
  else
    resolveNames d e follows walkFuel mostLinks (if path.head? = some '/' then [] else d.working)
      (namesOfPath path)

/-- What has to exist, by the options for it. -/
def Options.existing (o : Options) (usual : Existing) : Existing :=
  match (o.flags.filter fun f => f.1 ∈ ['e', 'f', 'm', 'E']).getLast? with
  | some ('e', _) => .all
  | some ('m', _) => .none
  | some _ => .allButLast
  | none => usual

/-- Tells where links lead. -/
def readLinks (c : Call) : Program Nat :=
  let t : OptionTable :=
    { plain := "femnqsvz".toList
      long := [("canonicalize", 'f'), ("canonicalize-existing", 'e'), ("canonicalize-missing", 'm'),
        ("no-newline", 'n'), ("quiet", 'q'), ("silent", 's'), ("verbose", 'v'), ("zero", 'z')] }
  c.withOptions t 1 fun o => do
    if o.operands = [] then c.misuse 1 "missing operand".toList
    else
      let resolves := ['f', 'e', 'm'].any o.has
      let ending := if o.has 'n' && o.operands.length = 1 then []
        else if o.has 'z' then ['\x00'] else ['\n']
      let found (d : Disk) (path : Bytes) : Except OsError Bytes :=
        if resolves then (resolvePath d (o.existing .allButLast) true path).map locationText
        else
          (d.look true path).bind fun f => match f.node.kind with
            | .link target => .ok target
            | _ => .error .invalid
      let results ← inquire fun d => o.operands.map fun a => (a, found d a)
      results.forM fun (a, r) => match r with
        | .error e => if o.has 'v' then c.complain (a ++ ':' :: ' ' :: wordsOf e) else return ()
        | .ok _ => return ()
      let text := results.flatMap fun (_, r) => match r with
        | .ok path => path ++ ending
        | .error _ => []
      c.deliver text (if results.all fun (_, r) => r.toOption.isSome then 0 else 1)

/-- Tells the real paths of files. -/
def realPaths (c : Call) : Program Nat :=
  let t : OptionTable :=
    { plain := "eELPqsmz".toList, valued := ['r', 'b']
      long := [("canonicalize-existing", 'e'), ("canonicalize-missing", 'm'), ("logical", 'L'),
        ("physical", 'P'), ("quiet", 'q'), ("relative-to", 'r'), ("relative-base", 'b'),
        ("strip", 's'), ("no-symlinks", 's'), ("zero", 'z')] }
  c.withOptions t 1 fun o => do
    if o.operands = [] then c.misuse 1 "missing operand".toList
    else
      let e := o.existing .allButLast
      let follows := !o.has 's'
      let d ← inquire id
      let near (l : Location) (base : Location) : Bool := base.isPrefixOf l
      let place (a : Bytes) : Except OsError Location :=
        let a := if o.has 'L' then
            match resolvePath d .none false a with
            | .ok l => locationText l
            | .error _ => a
          else a
        resolvePath d e follows a
      let goal := (o.value? 'r').map fun a => (a, place a)
      let base := (o.value? 'b').map fun a => (a, place a)
      let bad := [goal, base].findSome? fun p => match p with
        | some (a, .error e) => some (a, e)
        | _ => none
      match bad with
      | some (a, e) => c.refuse 1 (a ++ ':' :: ' ' :: wordsOf e)
      | none =>
        let location (p : Option (Bytes × Except OsError Location)) : Option Location :=
          p.bind fun p => p.2.toOption
        let shown (l : Location) : Bytes :=
          match location goal, location base with
          | some goal, none => relativePath goal l
          | none, some base => if near l base then relativePath base l else locationText l
          | some goal, some base =>
            if near l base && near goal base then relativePath goal l else locationText l
          | none, none => locationText l
        let results := o.operands.map fun a => (a, place a)
        results.forM fun (a, r) => match r with
          | .error e => if o.has 'q' then return () else c.complain (a ++ ':' :: ' ' :: wordsOf e)
          | .ok _ => return ()
        let ending := if o.has 'z' then '\x00' else '\n'
        let text := results.flatMap fun (_, r) => match r with
          | .ok l => shown l ++ [ending]
          | .error _ => []
        c.deliver text (if results.all fun (_, r) => r.toOption.isSome then 0 else 1)

/-! ## All that is known -/

/-- The bits that tell the kind of a node. -/
def kindBits : Kind → Nat
  | .queue => 4096
  | .device _ => 8192
  | .directory => 16384
  | .file _ => 32768
  | .link _ => 40960

/-- The numbers of a device. -/
def deviceNumbers : Kind → Nat × Nat
  | .device .null => (1, 3)
  | .device .endless => (1, 5)
  | .device .full => (1, 7)
  | .device .absent => (5, 0)
  | _ => (0, 0)

/-- What is known of a path. -/
structure Known where
  path : Bytes
  found : Disk × Found
  zone : Zone

/-- The node that is known. -/
def Known.node (k : Known) : Node :=
  k.found.2.node

/-- The time of what is known, in words. -/
def Known.timeText (k : Known) : Bytes :=
  let time := k.node.time
  (k.zone.moment (time / 1000000000 : Nat) (time % 1000000000)).inFormat
    "%Y-%m-%d %H:%M:%S.%N %z".toList

/-- The value of a slot of a format. -/
def Known.slot? (k : Known) (letter : Char) : Option Bytes :=
  let node := k.node
  let (d, f) := k.found
  let hexadecimal (n : Nat) : Bytes := Nat.toDigits 16 n
  match letter with
  | 'a' => some (octalDigits node.mode)
  | 'A' => some (kindLetter node.kind :: modeLetters node.mode)
  | 'b' => some (digitsOf (blocksOfNode node))
  | 'B' => some "512".toList
  | 'C' => some ['?']
  | 'd' => some "49".toList
  | 'D' => some "31".toList
  | 'f' => some (hexadecimal (kindBits node.kind + node.mode))
  | 'F' => some (kindWords node).toList
  | 'g' => some ['0']
  | 'G' => some "root".toList
  | 'h' => some (digitsOf (d.linkCount f))
  | 'i' => some (digitsOf f.number)
  | 'm' => some ['/']
  | 'n' => some k.path
  | 'N' =>
    match node.kind with
    | .link target =>
      some (shellQuotedAlways k.path ++ " -> ".toList ++ shellQuotedAlways target)
    | _ => some (shellQuotedAlways k.path)
  | 'o' => some "4096".toList
  | 'r' => some (digitsOf ((deviceNumbers node.kind).1 * 256 + (deviceNumbers node.kind).2))
  | 'R' => some (hexadecimal ((deviceNumbers node.kind).1 * 256 + (deviceNumbers node.kind).2))
  | 's' => some (digitsOf (sizeOfNode node))
  | 't' => some (hexadecimal (deviceNumbers node.kind).1)
  | 'T' => some (hexadecimal (deviceNumbers node.kind).2)
  | 'u' => some ['0']
  | 'U' => some "root".toList
  | 'w' => some k.timeText
  | 'W' => some (digitsOf (node.time / 1000000000))
  | 'x' => some k.timeText
  | 'X' => some (digitsOf (node.time / 1000000000))
  | 'y' => some k.timeText
  | 'Y' => some (digitsOf (node.time / 1000000000))
  | 'z' => some k.timeText
  | 'Z' => some (digitsOf (node.time / 1000000000))
  | _ => none

/-- A value set into a slot. -/
def Known.setSlot (k : Known) (letter : Char) (flags : Bytes) (width : Nat) (places : Option Nat)
    (value : Bytes) : Bytes :=
  let isNumber := letter ∈ "abBdghioRrsStTuDfXYZW".toList
  let value := match letter, places with
    | 'a', _ => if '#' ∈ flags && value ≠ ['0'] then '0' :: value else value
    | 'D', _ => if '#' ∈ flags then '0' :: 'x' :: value else value
    | 'f', _ => if '#' ∈ flags then '0' :: 'x' :: value else value
    | 't', _ => if '#' ∈ flags && value ≠ ['0'] then '0' :: 'x' :: value else value
    | 'T', _ => if '#' ∈ flags && value ≠ ['0'] then '0' :: 'x' :: value else value
    | letter, some places =>
      if letter ∈ ['X', 'Y', 'Z'] then
        let part := (padLeft 9 '0' (digitsOf (k.node.time % 1000000000))).take places
        if places = 0 then value else value ++ '.' :: padRight places '0' part
      else if isNumber then padLeft places '0' value
      else value.take places
    | _, none => value
  if '-' ∈ flags then padRight width ' ' value
  else padLeft width (if '0' ∈ flags && isNumber then '0' else ' ') value

/-- A format with the values of its slots. -/
def Known.inFormat (k : Known) (escapes : Bool) : Nat → Bytes → Bytes
  | 0, _ => []
  | fuel + 1, cs =>
    match cs with
    | [] => []
    | '%' :: '%' :: rest => '%' :: k.inFormat escapes fuel rest
    | '%' :: rest =>
      let flags := rest.takeWhile fun c => c ∈ ['-', '+', ' ', '#', '0', '\'']
      let (width, after) := readBased 10 (rest.drop flags.length)
      let (places, after) : Option Nat × Bytes := match after with
        | '.' :: after => let p := readBased 10 after; (some p.1, p.2)
        | after => (none, after)
      let (isWide, after) := match after with
        | 'H' :: 'd' :: after => (some 'H', 'd' :: after)
        | 'L' :: 'd' :: after => (some 'L', 'd' :: after)
        | 'H' :: 'r' :: after => (some 'H', 't' :: after)
        | 'L' :: 'r' :: after => (some 'L', 'T' :: after)
        | after => (none, after)
      match after with
      | [] => '%' :: flags
      | letter :: after =>
        let value := match isWide, letter with
          | some 'H', 'd' => some ['0']
          | some _, 'd' => some "49".toList
          | some _, letter =>
            some (digitsOf (if letter = 't' then (deviceNumbers k.node.kind).1
              else (deviceNumbers k.node.kind).2))
          | none, letter => k.slot? letter
        match value with
        | some value => k.setSlot letter flags width places value ++ k.inFormat escapes fuel after
        | none => '?' :: k.inFormat escapes fuel after
    | '\\' :: rest =>
      if escapes then
        let p := readEscape .system rest
        p.1 ++ k.inFormat escapes fuel p.2
      else '\\' :: k.inFormat escapes fuel rest
    | c :: rest => c :: k.inFormat escapes fuel rest

/-- The usual format. -/
def knownFormat (node : Node) : String :=
  let device := match node.kind with
    | .device _ => "\tDevice type: %Hr,%Lr"
    | _ => ""
  "  File: %N\n  Size: %-10s\tBlocks: %-10b IO Block: %-6o %F\nDevice: %Hd,%Ld\tInode: %-11i Links: "
    ++ (if device = "" then "%h" else "%-5h")
      ++ (if device = "" then "" else device.replace "\t" " ")
    ++ "\nAccess: (%04a/%10.10A)  Uid: (%5u/%8U)   Gid: (%5g/%8G)\nAccess: %x\nModify: %y\nChange: %z\n"
    ++ " Birth: %w\n"

/-- Tells what is known of files. -/
def showKnown (c : Call) : Program Nat :=
  let t : OptionTable :=
    { plain := ['L', 'f', 't'], valued := ['c', 'p', 'd']
      long := [("dereference", 'L'), ("file-system", 'f'), ("terse", 't'), ("format", 'c'),
        ("printf", 'p'), ("cached", 'd')] }
  c.withOptions t 1 fun o => do
    if o.operands = [] then c.misuse 1 "missing operand".toList
    else
      let d ← inquire id
      let zone := c.environment.zone
      let formats := o.flags.filter fun f => f.1 = 'c' || f.1 = 'p'
      let input ← request (.inspect 0)
      let look (a : Bytes) : Except OsError Found :=
        if a = ['-'] then
          match input with
          | some (.node n) => .ok ⟨[], n, (d.nodes.lookup n).getD ⟨.queue, 384, d.now⟩⟩
          | _ => .ok ⟨[], 0, ⟨.queue, 384, d.now⟩⟩
        else d.look (!o.has 'L') a
      let results := o.operands.map fun a => (a, look a)
      results.forM fun (a, r) => match r with
        | .error e => c.complain (aboutOperand "cannot statx " a e)
        | .ok _ => return ()
      let text := results.flatMap fun (a, r) => match r with
        | .error _ => []
        | .ok f =>
          let k : Known := ⟨a, (d, f), zone⟩
          match formats.getLast? with
          | some ('c', format) => line (k.inFormat false (format.length + 1) format)
          | some (_, format) => k.inFormat true (format.length + 1) format
          | none =>
            let format := if o.has 't' then "%n %s %b %f %u %g %D %i %h %t %T %X %Y %Z %W %o\n"
              else knownFormat f.node
            k.inFormat false (format.length + 1) format.toList
      c.deliver text (if results.all fun (_, r) => r.toOption.isSome then 0 else 1)

/-! ## Room -/

/-- The number of a thing with a letter for its size, rounded up. -/
def humanSize (base : Nat) (n : Nat) : Bytes :=
  let letters : List Char := if base = 1024 then "KMGTPEZY".toList else "kMGTPEZY".toList
  let rec go : Nat → List Char → Bytes
    | _, [] => digitsOf n
    | scale, letter :: rest =>
      let scale := scale * base
      let tenths := (n * 10 + scale - 1) / scale
      if tenths < 100 then digitsOf (tenths / 10) ++ '.' :: digitsOf (tenths % 10) ++ [letter]
      else
        let whole := (n + scale - 1) / scale
        if whole < base || rest = [] then digitsOf whole ++ [letter] else go scale rest
  if n < base then digitsOf n else go 1 letters

/-- The room that something takes with all below it, in bytes, and what is shown of it. Nodes that
have been counted are passed over. -/
def roomBelow (d : Disk) (size : Node → Nat) (shows : Bool → Nat → Bool) :
    Nat → Nat → Bytes → List Nat → Nat × List (Nat × Bytes) × List Nat
  | 0, _, _, seen => (0, [], seen)
  | fuel + 1, depth, path, seen =>
    match d.look true path with
    | .error _ => (0, [], seen)
    | .ok f =>
      if seen.contains f.number then (0, [], seen)
      else
        let isDirectory := f.node.kind = .directory
        let start := if path.getLast? = some '/' then path else path ++ ['/']
        let names := if isDirectory then d.names f.location else []
        let (total, rows, seen) := names.foldl (fun (total, rows, seen) name =>
          let (n, more, seen) := roomBelow d size shows fuel (depth + 1) (start ++ name) seen
          (total + n, rows ++ more, seen))
            (size f.node, ([] : List (Nat × Bytes)), f.number :: seen)
        (total, if shows isDirectory depth then rows ++ [(total, path)] else rows, seen)

/-- Tells how much room files take. -/
def showRoom (c : Call) : Program Nat :=
  let t : OptionTable :=
    { plain := "abchHkmsxlLSP0D".toList ++ ['\x04', '\x05'], valued := ['d', 'B', 't', 'X']
      long := [("all", 'a'), ("bytes", 'b'), ("total", 'c'), ("human-readable", 'h'),
        ("summarize", 's'), ("max-depth", 'd'), ("block-size", 'B'), ("null", '0'), ("si", '\x04'),
        ("apparent-size", '\x05'), ("one-file-system", 'x'), ("count-links", 'l'),
        ("threshold", 't'), ("exclude", 'X'), ("separate-dirs", 'S'), ("dereference", 'L')] }
  c.withOptions t 1 fun o => do
    let d ← inquire id
    let isApparent := o.has 'b' || o.has '\x05'
    let size (node : Node) : Nat := if isApparent then sizeOfNode node else blocksOfNode node * 512
    let most := (o.value? 'd').bind natural?
    let operands := if o.operands = [] then [['.']] else o.operands
    let shows (isDirectory : Bool) (depth : Nat) : Bool :=
      depth = 0 || (!o.has 's' && (isDirectory || o.has 'a') && most.all (depth ≤ ·))
    let shown (n : Nat) : Bytes :=
      if o.has 'h' then humanSize 1024 n
      else if o.has '\x04' then humanSize 1000 n
      else if o.has 'b' then digitsOf n
      else if o.has 'm' then digitsOf ((n + 1048575) / 1048576)
      else digitsOf ((n + 1023) / 1024)
    let results := operands.map fun a => (a, d.look true a)
    results.forM fun (a, r) => match r with
      | .error e => c.complain (aboutOperand "cannot access " a e)
      | .ok _ => return ()
    let known := results.filter fun (_, r) => r.toOption.isSome
    let (total, rows, _) := known.foldl (fun (total, rows, seen) (a, _) =>
      let (n, more, seen) := roomBelow d size shows deepestDirectory 0 a seen
      (total + n, rows ++ more, seen)) (0, ([] : List (Nat × Bytes)), ([] : List Nat))
    let rows := rows ++ (if o.has 'c' then [(total, "total".toList)] else [])
    let ending := if o.has '0' then '\x00' else '\n'
    c.deliver (rows.flatMap fun (n, path) => shown n ++ '\t' :: path ++ [ending])
      (if known.length = results.length then 0 else 1)

/-! ## Names that can be used elsewhere -/

/-- Tells which names cannot be used. -/
def checkPaths (c : Call) : Program Nat :=
  c.withOptions { plain := ['p', 'P', 'a'], long := [("portability", 'a')] } 1 fun o => do
    if o.operands = [] then c.misuse 1 "missing operand".toList
    else
      let isBasic := o.has 'p' || o.has 'a'
      let isExtra := o.has 'P' || o.has 'a'
      let portable (d : Char) : Bool := d.isAlphanum || d ∈ ['.', '_', '-', '/']
      let d ← inquire id
      let trouble (a : Bytes) : Option Bytes :=
        let names := (pieces '/' a).filter (· ≠ [])
        let dashed := names.find? fun n => n.head? = some '-'
        if isExtra && dashed.isSome then
          some ("leading '-' in a component of file name ".toList ++ inQuotes a)
        else if (isBasic || isExtra) && a = [] then some "empty file name".toList
        else if isBasic then
          match a.find? fun d => !portable d with
          | some bad =>
            some ("nonportable character ".toList ++ inQuotes [bad] ++ " in file name ".toList
              ++ inQuotes a)
          | none =>
            if 255 < a.length then
              some ("limit 255 exceeded by length ".toList ++ digitsOf a.length
                ++ " of file name ".toList ++ inQuotes a)
            else
              (names.find? fun n => 14 < n.length).map fun n =>
                "limit 14 exceeded by length ".toList ++ digitsOf n.length
                  ++ " of file name component ".toList ++ inQuotes n
        else
          match d.look true a with
          | .ok _ => none
          | .error .notFound =>
            if a = [] then some (inQuotes a ++ ':' :: ' ' :: wordsOf .notFound) else none
          | .error e => some (a ++ ':' :: ' ' :: wordsOf e)
      let results := o.operands.map trouble
      results.forM fun r => r.elim (return ()) c.complain
      return if results.all Option.isNone then 0 else 1

end LinkWatch.Host.Utility
