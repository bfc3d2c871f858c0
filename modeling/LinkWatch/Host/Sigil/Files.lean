import LinkWatch.Host.Sigil.Memory
import LinkWatch.Host.Utility.Condition
import LinkWatch.Host.Utility.Date
import LinkWatch.Host.Utility.Holdings
import LinkWatch.Host.Utility.Inspection

/-!
# Files and processes of programs with marked names

Conduits are opened for files, for texts and for other programs; files are asked about and changed;
programs are started and waited for, and signals are sent and noticed.
-/

namespace LinkWatch.Host.Sigil

open LinkWatch.Text LinkWatch.Host.Kernel LinkWatch.Host.Utility LinkWatch.Child

/-! ## Conduits -/

/-- Makes a conduit; the answer is its number. -/
def newConduit (p : Conduit) : Act Nat := do
  let m ← get
  set { m with freshConduit := m.freshConduit + 1, conduits := m.conduits.insert m.freshConduit p }
  return m.freshConduit

/-- The way of opening that starts a text, and what follows. -/
def openingOf (text : Bytes) : Bytes × Bytes :=
  let text := skipSpaces text
  let marks := ["+<", "+>>", "+>", ">>", ">", "<", "|"]
  match marks.find? fun (o : String) => o.toList.isPrefixOf text with
  | some o => (o.toList, skipSpaces (text.drop o.length))
  | none =>
    match text.reverse.dropWhile isSpaceChar with
    | '|' :: rest => ("-|".toList, rest.reverse)
    | rest => (['<'], rest.reverse)

/-- The words that a program is started with: those given, or one text for a shell if it needs one.
-/
def launchWords (words : List Bytes) : List Bytes :=
  match words with
  | [text] =>
    if text.any fun c => "$&*()\x7b\x7d[]'\";\\|?<>~\x60\n".toList.contains c then shellWords text
    else (((text.splitBy fun a b => isSpaceChar a == isSpaceChar b)).filter fun w =>
      !w.head?.any isSpaceChar)
  | words => words

/-- Whether a program that words name is there; what is missing is noted. -/
def canLaunch (words : List Bytes) : Act Bool := do
  let m ← get
  match ← ask (findProgram (callOf m.environment words)) with
  | .ok _ => return true
  | .error e =>
    noteError e
    return false

/-- Opens a conduit in some way; the answer is its number. -/
def openConduit (k : Plan) (title way : Bytes) (words : List Bytes) : Act (Option Nat) := do
  let m ← get
  let path := words.headD []
  let descriptor := m.freshDescriptor
  let opened (how : Opening) (isCleared : Bool) : Act (Option Nat) := do
    let copy := match stripPrefix? ['&'] path with
      | some target => some (skipSpaces ((stripPrefix? ['='] target).getD target))
      | none => none
    match copy with
    | some target =>
      let number := match m.conduitNames.lookup target with
        | some n => (m.conduits[n]?.bind Conduit.descriptor)
        | none => natural? target
      flushAll
      match number with
      | some d =>
        match ← ask (request (.copy d descriptor)) with
        | .ok _ =>
          modify fun m => { m with freshDescriptor := m.freshDescriptor + 1 }
          return some (← newConduit { title := title, descriptor := some descriptor })
        | .error e =>
          noteError e
          return none
      | none => return none
    | none =>
      if path = ['-'] then
        return some (← newConduit
          { title := title, descriptor := some (if how = .read then 0 else 1) })
      else
        if isCleared then
          match ← ask (request (.open descriptor path .write false)) with
          | .ok _ => ask (request (.close descriptor))
          | .error _ => pure ()
        match ← ask (request (.open descriptor path how false)) with
        | .ok _ =>
          modify fun m => { m with freshDescriptor := m.freshDescriptor + 1 }
          return some (← newConduit { title := title, descriptor := some descriptor })
        | .error e =>
          noteError e
          return none
  let launched (isInput : Bool) : Act (Option Nat) := do
    let words := launchWords words
    if ← canLaunch words then
      let (kept, child) ← startProcess k words isInput
      return some (← newConduit { title := title, descriptor := some kept, child := some child })
    else return none
  match String.ofList way with
  | "<" => opened .read false
  | ">" => opened .write false
  | ">>" => opened .append false
  | "+<" => opened .both false
  | "+>" => opened .both true
  | "+>>" => opened .append false
  | "-|" => launched false
  | "|-" => launched true
  | "|" => launched true
  | _ => fault ("Unknown open() mode '".toList ++ way ++ ['\''])

/-! ## Processes -/

/-- Runs a program and waits for it; the answer is its status as programs are told it. -/
def runProgram (k : Plan) (words : List Bytes) : Act Int := do
  flushAll
  let words := launchWords words
  if !(← canLaunch words) then
    setSetting "?" (.whole (-1))
    return -1
  else
    let m ← get
    let child ← ask (request (.fork
      (becomeProgram k.perform k.call id (callOf m.environment words)).action))
    return (← awaitChild child : Nat)

/-- What a text of a shell writes. -/
def outputOf (k : Plan) (text : Bytes) : Act Bytes := do
  let words := launchWords [text]
  if !(← canLaunch words) then
    setSetting "?" (.whole (-1))
    return []
  else
    let (kept, child) ← startProcess k words false
    let text ← ask (readAll kept)
    ask (request (.close kept))
    let _ ← awaitChild child
    return text.toOption.getD []

/-- Becomes another program. -/
def giveWay (k : Plan) (words : List Bytes) : Act Scalar := do
  flushAll
  let words := launchWords words
  if ← canLaunch words then
    let m ← get
    for (_, p) in m.conduits.toList do
      match p.descriptor with
      | some d => if 2 < d then ask (request (.close d))
      | none => pure ()
    let status ← ask (becomeProgram k.perform k.call id (callOf m.environment words))
    modify fun m => { m with endings := [], conduits := {} }
    throw (.exit status)
  else return .ofBool false

/-- The number of a signal by number or name. -/
def signalNumber (v : Scalar) : Nat :=
  let text := v.asText
  let text := (stripPrefix? ['-'] text).getD text
  let text := (stripPrefix? "SIG".toList text).getD text
  if text = "ZERO".toList then 0 else (signalOf? text).getD 0

/-- Sends a signal to processes; how many have got it. -/
def sendTo (vs : List Scalar) : Act Nat := do
  let signal := vs.headD .none
  let isGroup := signal.asText.head? = some '-'
  let mut reached := 0
  for v in vs.drop 1 do
    let target := if isGroup then -v.int else v.int
    flushAll
    if ← ask (request (.send target (signalNumber signal))) then reached := reached + 1
  return reached

/-- Sends a signal to this program after some seconds, as its alarm. -/
def setAlarm (seconds : Nat) : Act Unit := do
  if seconds ≠ 0 then
    let (self, _) ← ask (request .identity)
    flushAll
    let m ← get
    let open' := m.conduits.toList.filterMap fun p => p.2.descriptor
    let _ ← ask (request (.fork (do
      for d in open' do request (.close d)
      let _ ← request (.pause (seconds * 1000000000))
      let _ ← request (.send self 14)
      return 0 : Program Nat).action))

/-! ## Asking about files -/

/-- What is known of a path or a conduit. -/
def knownOf (v : Scalar) (keepsLast : Bool) : Act (Option (Disk × Found)) := do
  let look (path : Bytes) : Act (Option (Disk × Found)) := do
    match ← ask (inquire fun d => (d.look keepsLast path).map fun f => (d, f)) with
    | .ok known => return some known
    | .error e =>
      noteError e
      return none
  match ← conduitOf? v with
  | some n =>
    let m ← get
    match m.conduits[n]?.bind Conduit.descriptor with
    | some d => look ("/dev/fd/".toList ++ digitsOf d)
    | none => return none
  | none => look v.asText

/-- The result of a test of a file. -/
def testFile (letter : Char) (v : Scalar) : Act Scalar := do
  let known ← knownOf v (letter = 'l')
  match known with
  | none =>
    return if letter = 's' || letter = 'M' || letter = 'A' || letter = 'C' then .none
    else .ofBool false
  | some (disk, found) =>
    let node := found.node
    let now := disk.now
    match letter with
    | 'f' => return .ofBool (match node.kind with | .file _ => true | _ => false)
    | 'd' => return .ofBool (node.kind = .directory)
    | 'l' => return .ofBool (match node.kind with | .link _ => true | _ => false)
    | 'p' => return .ofBool (node.kind = .queue)
    | 'c' => return .ofBool (match node.kind with | .device _ => true | _ => false)
    | 'b' => return .ofBool false
    | 'S' => return .ofBool false
    | 'x' => return .ofBool (node.kind = .directory || node.isExecutable)
    | 'z' => return .ofBool (sizeOfNode node = 0)
    | 's' => return if sizeOfNode node = 0 then .ofBool false else .ofNat (sizeOfNode node)
    | 'M' =>
      let age : Int := (now : Int) - node.time
      return .real (floatOfInt age / 86400000000000)
    | 'A' =>
      let age : Int := (now : Int) - node.time
      return .real (floatOfInt age / 86400000000000)
    | _ => return .ofBool true

/-- The numbers that are known of a path. -/
def fileNumbers (v : Scalar) (keepsLast : Bool) : Act (List Scalar) := do
  match ← knownOf v keepsLast with
  | none => return []
  | some (disk, found) =>
    let node := found.node
    let seconds := node.time / 1000000000
    let device := deviceNumbers node.kind
    return [49, found.number, kindBits node.kind + node.mode, disk.linkCount found, 0, 0,
      device.1 * 256 + device.2, sizeOfNode node, seconds, seconds, seconds, 4096,
      blocksOfNode node].map
      Scalar.ofNat

/-- Changes the disk; whether that could be done. -/
def altered (f : Disk → Except OsError Disk) : Act Bool := do
  match ← ask (changeDisk f) with
  | .ok _ => return true
  | .error e =>
    noteError e
    return false

/-- Does something with each path; how many times that could be done. -/
def alterAll (f : Bytes → Disk → Except OsError Disk) (paths : List Scalar) : Act Scalar := do
  let mut done := 0
  for v in paths do
    if ← altered (f v.asText) then done := done + 1
  return .ofNat done

/-- A disk on which a path has other permissions. -/
def withMode (mode : Nat) (path : Bytes) (d : Disk) : Except OsError Disk :=
  (d.find path).map fun f => d.setNode f.number { f.node with mode := mode % 4096 }

/-- A disk on which a path has been changed at some time. -/
def withTime (time : Nat) (path : Bytes) (d : Disk) : Except OsError Disk :=
  (d.find path).map fun f => d.setNode f.number { f.node with time := time }

/-- The paths that fit a text with wildcards, or words of it. -/
def pathsFor (text : Bytes) : Act (List Scalar) := do
  let words := (text.splitBy fun a b => isSpaceChar a == isSpaceChar b).filter fun w =>
    !w.head?.any isSpaceChar
  let found ← words.mapM fun w => do
    if w.any fun c => ['*', '?', '['].contains c then
      let names := stepsOfPath w
      let start : List Bytes := if w.head? = some '/' then [['/']] else [[]]
      names.foldlM (fun (found : List Bytes) (name : Bytes) => do
        let next ← found.mapM fun before => do
          let joined (n : Bytes) : Bytes :=
            if before = [] || before.getLast? = some '/' then before ++ n else before ++ '/' :: n
          if name.any fun c => ['*', '?', '['].contains c then
            let here := if before = [] then ['.'] else before
            let names ← ask (inquire fun d =>
              match d.find here with
              | .ok f => d.names f.location
              | .error _ => [])
            return (names.filter fun n => fits (name.length + n.length + 1) name n
              && (n.head? ≠ some '.' || name.head? = some '.')).map joined
          else
            let there := joined name
            let isThere ← ask (inquire fun d => (d.look true there).toOption.isSome)
            return if isThere then [there] else []
        return next.flatten) start
    else return [w]
  return found.flatten.map Scalar.text
where
  /-- The names of a path. -/
  stepsOfPath (path : Bytes) : List Bytes :=
    (pieces '/' path).filter (· ≠ [])
  /-- Whether a name fits one with wildcards. -/
  fits : Nat → Bytes → Bytes → Bool
    | 0, _, _ => false
    | _ + 1, [], n => n = []
    | fuel + 1, '*' :: rest, n =>
      fits fuel rest n || (match n with | [] => false | _ :: more => fits fuel ('*' :: rest) more)
    | fuel + 1, '?' :: rest, _ :: more => fits fuel rest more
    | _ + 1, '?' :: _, [] => false
    | fuel + 1, '[' :: rest, c :: more =>
      let members := rest.takeWhile (· ≠ ']')
      let (isNegated, members') := match members with
        | '!' :: ms => (true, ms)
        | '^' :: ms => (true, ms)
        | ms => (false, ms)
      let rec has : Bytes → Bool
        | a :: '-' :: b :: more => (a ≤ c && c ≤ b) || has more
        | a :: more => a = c || has more
        | [] => false
      has members' != isNegated && fits fuel (rest.drop (members.length + 1)) more
    | _ + 1, '[' :: _, [] => false
    | fuel + 1, a :: rest, c :: more => a = c && fits fuel rest more
    | _ + 1, _ :: _, [] => false

end LinkWatch.Host.Sigil
