import LinkWatch.Host.Record.Reader
import LinkWatch.Host.Record.Runner

/-!
# Running programs on records

First the rules for the start are performed, then for each record those that are for it, and in the
end the rules for the end.
-/

namespace LinkWatch.Host.Record

open LinkWatch.Text LinkWatch.Host.Kernel LinkWatch.Host.Utility

/-- How a program goes on after a statement. -/
inductive Flow where
  | onward
  | break
  | continue
  | return (c : Cell)

/-! ## Changing texts -/

/-- The text that takes the place of a match. -/
def replacementText (matched : Bytes) : Nat → Bytes → Bytes
  | 0, _ => []
  | fuel + 1, cs =>
    match cs with
    | [] => []
    | '\\' :: '\\' :: '&' :: rest => '\\' :: matched ++ replacementText matched fuel rest
    | '\\' :: '&' :: rest => '&' :: replacementText matched fuel rest
    | '&' :: rest => matched ++ replacementText matched fuel rest
    | c :: rest => c :: replacementText matched fuel rest

/-- A text in which the first matches of an expression are replaced, at most so many, and how many
there are. An empty match directly after another one does not count. -/
def replaceMatches (r : Regex) (replacement : Bytes) : Nat → Nat → Bool → Spot → Bytes × Nat
  | 0, _, _, s => (s.after, 0)
  | fuel + 1, most, afterMatch, s =>
    if most = 0 then (s.after, 0)
    else
      match r.search s with
      | none => (s.after, 0)
      | some o =>
        let start := o.stop.position - o.text.length
        let before := s.after.take (start - s.position)
        if o.text = [] && afterMatch && before = [] then
          match s.after with
          | c :: _ =>
            let p := replaceMatches r replacement fuel most false (s.advance 1)
            (c :: p.1, p.2)
          | [] => ([], 0)
        else
          let new := replacementText o.text (replacement.length + 1) replacement
          if o.text = [] then
            match o.stop.after with
            | c :: _ =>
              let p := replaceMatches r replacement fuel (most - 1) false (o.stop.advance 1)
              (if most = 1 then (before ++ new ++ o.stop.after, 1)
                else (before ++ new ++ c :: p.1, p.2 + 1))
            | [] => (before ++ new, 1)
          else
            let p := replaceMatches r replacement fuel (most - 1) true o.stop
            (before ++ new ++ p.1, p.2 + 1)

/-- The first place of a text in another, from one on, or zero. -/
def placeOf (part cs : Bytes) : Nat :=
  match cut? part cs with
  | some (before, _) => before.length + 1
  | none => 0

/-- The next number of a series that looks like one of chance. -/
def nextRandom (n : Nat) : Nat :=
  (n * 1103515245 + 12345) % 2147483648

/-! ## Expressions -/

/-- The expression for matching that a value stands for. -/
def patternOfCell (c : Cell) : Step Regex := do
  let cs := (← get).text c
  match readPattern cs with
  | .ok r => return r
  | .error words => throw (patternFault cs words)

/-- The index that several values make. -/
def indexOfCells (cells : List Cell) : Step Index := do
  let r ← get
  match cells with
  | [c] => return .ofCell r.format c
  | cells => return .text (joinWith (r.setting "SUBSEP") (cells.map r.text))

/-- Gives a variable a value. -/
def setVariable (name : Bytes) (c : Cell) : Step Unit := do
  let isLocal := (← get).locals.any fun l => l.1 = name
  if name = "NF".toList && !isLocal then setFieldCount (wholeOf c.asNumber).toNat
  else modify fun r => r.bind name (.cell c)

/-- The value of a variable. -/
def variableValue (name : Bytes) : Step Cell := do
  if name = "NF".toList then findFields
  match (← get).binding? name with
  | some (.cell c) => return c
  | _ => return .none

/-- The text of a format with values, up to a fault. -/
def filled (name : String) (cells : List Cell) : Step (Bytes × Option Halt) := do
  let r ← get
  match cells with
  | [] => return ([], none)
  | format :: values =>
    let format := r.text format
    let call := name.toList ++ '(' :: '"' :: format ++ ['"', ')']
    let (text, fault) := fillFormat r.format (format.length + 1) format values
    let halt : Option Halt := match fault with
      | none => none
      | some .tooFew => some (.atRun ("not enough arguments passed to ".toList ++ call))
      | some (.unknown slot) =>
        some (.atRun ("bad conversion in ".toList ++ call ++ ": ".toList ++ slot))
    return (text, halt)

mutual

/-- The value of an expression. -/
def evaluate (k : Plan) : Nat → Expression → Step Cell
  | 0, _ => return .none
  | fuel + 1, e => do
    match e with
    | .number x => return .number x
    | .text cs => return .text cs
    | .pattern r =>
      let record ← currentRecord
      return .ofBool (r.search (.start record)).isSome
    | .variable name => variableValue name
    | .element name index =>
      let i ← indexOfCells (← index.mapM (evaluate k fuel))
      let (number, r) := (← get).tableOf name
      let t := (r.table number).reach i
      set (r.setTable number t)
      return t.value i
    | .field number =>
      let n ← evaluate k fuel number
      let n := wholeOf n.asNumber
      if n < 0 then throw (.atRun ("negative field index $".toList ++ numeralOf n))
      fieldValue n.toNat
    | .assign target operator value =>
      let new ← evaluate k fuel value
      let new ← match operator with
        | none => pure new
        | some o =>
          let old ← evaluate k fuel target
          pure (.number (o.result old.asNumber new.asNumber))
      assign k fuel target new
      return new
    | .choice condition yes no =>
      if (← evaluate k fuel condition).isTrue then evaluate k fuel yes else evaluate k fuel no
    | .either a b =>
      if (← evaluate k fuel a).isTrue then return .ofBool true
      else return .ofBool (← evaluate k fuel b).isTrue
    | .both a b =>
      if (← evaluate k fuel a).isTrue then return .ofBool (← evaluate k fuel b).isTrue
      else return .ofBool false
    | .not a => return .ofBool (!(← evaluate k fuel a).isTrue)
    | .negative a => return .number (-(← evaluate k fuel a).asNumber)
    | .positive a => return .number (← evaluate k fuel a).asNumber
    | .arithmetic o a b =>
      let x ← evaluate k fuel a
      let y ← evaluate k fuel b
      return .number (o.result x.asNumber y.asNumber)
    | .compare relation a b =>
      let x ← evaluate k fuel a
      let y ← evaluate k fuel b
      return .ofBool (relation.holds (← get).format x y)
    | .matches negated a b =>
      let x ← evaluate k fuel a
      let r ← regexOf k fuel b
      let found := (r.search (.start ((← get).text x))).isSome
      return .ofBool (found != negated)
    | .joined a b =>
      let x ← evaluate k fuel a
      let y ← evaluate k fuel b
      let r ← get
      return .text (r.text x ++ r.text y)
    | .holds index name =>
      let i ← indexOfCells (← index.mapM (evaluate k fuel))
      let (number, r) := (← get).tableOf name
      let t := r.table number
      let isThere := t.elements.contains i.shown
      set (if isThere then r.setTable number (t.reach i) else r)
      return .ofBool isThere
    | .step target isNew up =>
      let old := (← evaluate k fuel target).asNumber
      let new := if up then old + 1 else old - 1
      assign k fuel target (.number new)
      return .number (if isNew then new else old)
    | .call name arguments => callFunction k fuel name arguments
    | .apply f arguments => applyFunction k fuel f arguments
    | .read target origin source =>
      match origin with
      | .main =>
        match ← readMain streamFuel with
        | none => return .number 0
        | some record =>
          match target with
          | some t => assign k fuel t (.ofInput record)
          | none => setRecord record
          return .number 1
      | origin =>
        let name := (← get).text (← evaluate k fuel source)
        match ← readNamed k origin name with
        | none => return .number (-1)
        | some none => return .number 0
        | some (some record) =>
          if origin = .command then
            modify fun r => r.setGlobal "NR" (.number ((r.global "NR").asNumber + 1))
          match target with
          | some t => assign k fuel t (.ofInput record)
          | none => setRecord record
          return .number 1
    | .several values =>
      let cells ← values.mapM (evaluate k fuel)
      return cells.getLast?.getD .none

/-- The expression for matching that an expression stands for. -/
def regexOf (k : Plan) : Nat → Expression → Step Regex
  | 0, _ => return .empty
  | fuel + 1, e => do
    match e with
    | .pattern r => return r
    | e => patternOfCell (← evaluate k fuel e)

/-- Gives something a value. -/
def assign (k : Plan) : Nat → Expression → Cell → Step Unit
  | 0, _, _ => return ()
  | fuel + 1, target, c => do
    match target with
    | .variable name => setVariable name c
    | .element name index =>
      let i ← indexOfCells (← index.mapM (evaluate k fuel))
      let (number, r) := (← get).tableOf name
      set (r.setTable number ((r.table number).put i c))
    | .field number =>
      let n ← evaluate k fuel number
      let n := wholeOf n.asNumber
      if n < 0 then throw (.atRun ("negative field index $".toList ++ numeralOf n))
      setField n.toNat c
    | _ => return ()

/-- Performs a function of the program. -/
def callFunction (k : Plan) : Nat → Bytes → List Expression → Step Cell
  | 0, _, _ => return .none
  | fuel + 1, name, arguments => do
    match k.form.definitions.find? fun d => d.name = name with
    | none => throw (.fault ("function ".toList ++ name ++ " never defined".toList))
    | some d =>
      let given ← arguments.mapM fun (e : Expression) => do
        match e with
        | .variable name =>
          match (← get).binding? name with
          | some b =>
            if name = "NF".toList then pure (Binding.cell (← variableValue name)) else pure b
          | none =>
            let (number, r) := (← get).tableOf name
            set r
            pure (Binding.table number)
        | e => do
          let c ← evaluate k fuel e
          pure (Binding.cell c)
      let before := (← get).locals
      let own ← (List.range d.parameters.length).mapM fun i => do
        let parameter := d.parameters[i]?.getD []
        match given[i]? with
        | some b => pure (parameter, b)
        | none =>
          let number := (← get).freshTable + 1
          modify fun r => { r with freshTable := number }
          pure (parameter, Binding.table number)
      modify fun r => { r with locals := own }
      let flow ← performAll k fuel d.body
      modify fun r => { r with locals := before }
      match flow with
      | .return c => return c
      | _ => return .none

/-- Applies a function that every program knows. -/
def applyFunction (k : Plan) : Nat → Function → List Expression → Step Cell
  | 0, _, _ => return .none
  | fuel + 1, f, arguments => do
    let numeric (g : Float → Float) : Step Cell := do
      let c ← evaluate k fuel (arguments.headD (.number 0))
      return .number (g c.asNumber)
    let text (e : Expression) : Step Bytes := do
      let c ← evaluate k fuel e
      return (← get).text c
    match f, arguments with
    | .length, [] => return .ofNat (← currentRecord).length
    | .length, [.variable name] =>
      match (← get).binding? name with
      | some (.table number) => return .ofNat ((← get).table number).elements.size
      | _ => return .ofNat (← text (.variable name)).length
    | .length, e :: _ => return .ofNat (← text e).length
    | .substr, s :: start :: size =>
      let cs ← text s
      let first ← evaluate k fuel start
      match size with
      | n :: _ =>
        let count ← evaluate k fuel n
        return .text (partOf cs first.asNumber (some count.asNumber))
      | [] => return .text (partOf cs first.asNumber none)
    | .index, s :: t :: _ =>
      let cs ← text s
      let part ← text t
      return .ofNat (placeOf part cs)
    | .split, s :: .variable name :: divider =>
      let cs ← text s
      let byLines := (← get).setting "RS" = []
      let parts ← match divider with
        | .pattern r :: _ =>
          pure (if cs = [] then [] else piecesBetween r (cs.length + 1) (.start cs))
        | others => do
          let d ← match others with
            | e :: _ => text e
            | [] => do pure ((← get).setting "FS")
          match divided d byLines cs with
          | .ok parts => pure parts
          | .error words => throw (patternFault d words)
      let (number, r) := (← get).tableOf name
      let t := (parts.mapIdx fun i p => (i, p)).foldl
        (fun (t : Table) (p : Nat × Bytes) => t.put (.number (p.1 + 1 : Nat)) (.ofInput p.2)) {}
      set (r.setTable number t)
      return .ofNat parts.length
    | .sub, e :: new :: target => substitute k fuel 1 e new (target.headD (.field (.number 0)))
    | .gsub, e :: new :: target =>
      substitute k fuel streamFuel e new (target.headD (.field (.number 0)))
    | .match, s :: e :: _ =>
      let cs ← text s
      let r ← regexOf k fuel e
      let (start, size) : Float × Float := match r.search (.start cs) with
        | some o =>
          (floatOfInt (o.stop.position - o.text.length + 1 : Nat), floatOfInt o.text.length)
        | none => (0, -1)
      modify fun r => (r.setGlobal "RSTART" (.number start)).setGlobal "RLENGTH" (.number size)
      return .number start
    | .sprintf, values =>
      let cells ← values.mapM (evaluate k fuel)
      match ← filled "sprintf" cells with
      | (cs, none) => return .text cs
      | (_, some fault) => throw fault
    | .sine, _ => numeric Float.sin
    | .cosine, _ => numeric Float.cos
    | .arctangent, a :: b :: _ =>
      let x ← evaluate k fuel a
      let y ← evaluate k fuel b
      return .number (Float.atan2 x.asNumber y.asNumber)
    | .exponential, _ => numeric Float.exp
    | .logarithm, _ => numeric Float.log
    | .squareRoot, _ => numeric Float.sqrt
    | .integer, _ => numeric wholePart
    | .random, _ =>
      let n := nextRandom (← get).random
      modify fun r => { r with random := n }
      return .number (floatOfInt n / 2147483648)
    | .seed, values =>
      let old := (← get).seed
      let new ← match values with
        | e :: _ => do pure (← evaluate k fuel e).asNumber
        | [] => do
          let now ← step (request (.files fun d => (d.now, d)))
          pure (floatOfInt (now / 1000000000))
      modify fun r => { r with seed := new, random := (wholeOf new).natAbs + 1 }
      return .number old
    | .lower, e :: _ => return .text ((← text e).map Char.toLower)
    | .upper, e :: _ => return .text ((← text e).map Char.toUpper)
    | .system, e :: _ =>
      let shell := callOf k.call.environment ["/bin/sh".toList, "-c".toList, ← text e]
      flushAll
      let child ← step (request (.fork (becomeProgram k.perform k.call id shell).action))
      return .ofNat (← awaitChild child)
    | .close, e :: _ =>
      match ← closeNamed (← text e) with
      | some status => return .ofNat status
      | none => return .number (-1)
    | .flush, values =>
      for e in values do
        let _ ← evaluate k fuel e
      flushAll
      return .number 0
    | .time, _ =>
      let now ← step (request (.files fun d => (d.now, d)))
      return .ofNat (now / 1000000000)
    | _, _ => return .none

/-- Replaces matches in something. -/
def substitute (k : Plan) : Nat → Nat → Expression → Expression → Expression → Step Cell
  | 0, _, _, _, _ => return .none
  | fuel + 1, most, e, new, target => do
    let r ← regexOf k fuel e
    let replacement ← evaluate k fuel new
    let old ← evaluate k fuel target
    let s ← get
    let cs := s.text old
    let (changed, count) :=
      replaceMatches r (s.text replacement) (2 * cs.length + 2) most false (.start cs)
    if 0 < count then assign k fuel target (.text changed)
    return .ofNat count

/-- Performs a statement. -/
def performStatement (k : Plan) : Nat → Statement → Step Flow
  | 0, _ => return .onward
  | fuel + 1, s => do
    match s with
    | .expression e =>
      let _ ← evaluate k fuel e
      return .onward
    | .print values way target =>
      let cells ← values.mapM (evaluate k fuel)
      let name ← if way matches .standard then pure [] else do
        let c ← evaluate k fuel target
        pure ((← get).text c)
      let record ← if values.isEmpty then currentRecord else pure []
      let r ← get
      let format := match r.global "OFMT" with
        | .none => usualFormat
        | c => r.text c
      let shown := if values.isEmpty then record
        else joinWith (r.setting "OFS") (cells.map (Cell.asText format))
      putText k way name (shown ++ r.setting "ORS")
      return .onward
    | .fill values way target =>
      let cells ← values.mapM (evaluate k fuel)
      let name ← if way matches .standard then pure [] else do
        let c ← evaluate k fuel target
        pure ((← get).text c)
      let (cs, fault) ← filled "printf" cells
      putText k way name cs
      match fault with
      | none => return .onward
      | some fault => throw fault
    | .block body => performAll k fuel body
    | .choice condition yes no =>
      if (← evaluate k fuel condition).isTrue then performStatement k fuel yes
      else performStatement k fuel no
    | .loop testsFirst condition step body => performLoop k fuel testsFirst condition step body
    | .each name array body =>
      let (number, r) := (← get).tableOf array
      let (indices, t) := (r.table number).indices
      set (r.setTable number t)
      performEach k fuel name indices body
    | .next => throw .next
    | .nextFile => throw .nextFile
    | .exit status =>
      match status with
      | some e =>
        let c ← evaluate k fuel e
        modify fun r => { r with status := ((wholeOf c.asNumber) % 256).toNat }
      | none => pure ()
      throw .exit
    | .return value =>
      match value with
      | some e => return .return (← evaluate k fuel e)
      | none => return .return .none
    | .break => return .break
    | .continue => return .continue
    | .remove name index =>
      let i ← match index with
        | some values => do
          let i ← indexOfCells (← values.mapM (evaluate k fuel))
          pure (some i)
        | none => pure none
      let (number, r) := (← get).tableOf name
      set (r.setTable number (i.elim {} (r.table number).remove))
      return .onward

/-- Performs statements one after the other. -/
def performAll (k : Plan) : Nat → List Statement → Step Flow
  | 0, _ => return .onward
  | _, [] => return .onward
  | fuel + 1, s :: rest => do
    match ← performStatement k fuel s with
    | .onward => performAll k fuel rest
    | flow => return flow

/-- Performs a statement as long as a condition holds. -/
def performLoop (k : Plan) : Nat → Bool → Expression → Statement → Statement → Step Flow
  | 0, _, _, _, _ => return .onward
  | fuel + 1, testsFirst, condition, after, body => do
    let goes ← if testsFirst then do
        let c ← evaluate k fuel condition
        pure c.isTrue
      else pure true
    if goes then
      match ← performStatement k fuel body with
      | .break => return .onward
      | .return c => return .return c
      | _ =>
        let _ ← performStatement k fuel after
        performLoop k fuel true condition after body
    else return .onward

/-- Performs a statement for each of some indices. -/
def performEach (k : Plan) : Nat → Bytes → List Bytes → Statement → Step Flow
  | 0, _, _, _ => return .onward
  | _, _, [], _ => return .onward
  | fuel + 1, name, i :: rest, body => do
    setVariable name (.text i)
    match ← performStatement k fuel body with
    | .break => return .onward
    | .return c => return .return c
    | _ => performEach k fuel name rest body

end

/-! ## Programs -/

/-- Enough steps for every program that ends in time. -/
def runFuel : Nat := 1000000000000

/-- Whether a rule is for the present record. -/
def isChosen (k : Plan) (number : Nat) (c : Choice) : Step Bool := do
  match c with
  | .always => return true
  | .condition e => return (← evaluate k runFuel e).isTrue
  | .range first last =>
    let isActive := (← get).active.contains number
    let starts ← if isActive then pure true else do
      let v ← evaluate k runFuel first
      pure v.isTrue
    if starts then
      let stops := (← evaluate k runFuel last).isTrue
      modify fun r => { r with active := r.active.filter (· ≠ number)
        ++ (if stops then [] else [number]) }
    return starts
  | _ => return false

/-- Performs rules one after the other, those that are chosen. -/
def performRules (k : Plan) : List (Nat × Rule) → Step Unit
  | [] => return ()
  | (number, rule) :: rest => do
    if ← isChosen k number rule.choice then
      let _ ← performAll k runFuel rule.body
    performRules k rest

/-- Performs rules on all records. -/
def performRecords (k : Plan) (rules : List (Nat × Rule)) : Nat → Step Unit
  | 0 => return ()
  | fuel + 1 => do
    match ← readMain streamFuel with
    | none => return ()
    | some record =>
      setRecord record
      try performRules k rules
      catch
        | .next => pure ()
        | .nextFile => closeMain
        | h => throw h
      performRecords k rules fuel

/-- Runs a program up to its end or a fault. -/
def runForm (k : Plan) : Step Unit := do
  let numbered := k.form.rules.mapIdx fun i r => (i, r)
  let starts := k.form.rules.filter fun r => r.choice matches .start
  let stops := k.form.rules.filter fun r => r.choice matches .stop
  let others := numbered.filter fun p => !(p.2.choice matches .start) && !(p.2.choice matches .stop)
  let all (rules : List Rule) : Step Unit := do
    for r in rules do
      let _ ← performAll k runFuel r.body
  let untilExit (p : Step Unit) : Step Unit := do
    try p
    catch
      | .exit => pure ()
      | h => throw h
  untilExit do
    all starts
    if !others.isEmpty || !stops.isEmpty then performRecords k others runFuel
  untilExit (all stops)

end LinkWatch.Host.Record
