import LinkWatch.Host.Sigil.Binding

/-!
# Running programs with marked names

An expression is asked for one value or for all of its values, or for the spot where its value is
kept; what it comes to may depend on which of these is asked. Fuel bounds the depth of expressions
and the number of rounds.
-/

namespace LinkWatch.Host.Sigil

open LinkWatch.Text LinkWatch.Host.Kernel LinkWatch.Host.Utility

/-- Whether an expression is the number of the last fault, which is a text as well. -/
def isFaultNumber : Term → Bool
  | .held '$' (.named ['!']) => true
  | _ => false

/-- The operators on numbers that the number of a fault counts for. -/
def countingNames : List String :=
  ["+", "-", "*", "/", "==", "!=", "<", ">", "<=", ">=", "<=>"]

/-- The functions that take the usual variable if they are given nothing. -/
def topicNames : List String :=
  ["lc", "uc", "lcfirst", "ucfirst", "length", "chr", "ord", "int", "abs", "sqrt", "sin", "cos",
    "exp", "log", "hex", "oct", "quotemeta", "rmdir", "readlink", "unlink", "ref", "fc"]

/-- The functions whose first values are asked for one by one. -/
def singleNames : List String :=
  ["substr", "index", "rindex", "lc", "uc", "lcfirst", "ucfirst", "length", "chr", "ord", "int",
    "abs", "sqrt", "hex", "oct", "quotemeta", "ref", "exit", "atan2", "mkdir", "rmdir", "sleep",
    "rand", "close", "fileno", "rename", "umask", "chdir", "waitpid", "seek", "binmode"]

/-- The target of a variable that is declared where it is used. -/
def undeclared : Term → Term
  | .declared _ e => e
  | e => e

/-- The signal that a term sets the handler of, if it sets one. -/
def signalTarget? : Term → Option Term
  | .part '$' true (.named name) key => if name = "SIG".toList then some key else none
  | .declared _ (.part '$' true (.named name) key) => if name = "SIG".toList then some key else none
  | _ => none

/-- Lets a signal be handled as a value says. -/
def handleAs (signal : Nat) (v : Scalar) : Act Unit := do
  let handling : Handling := match v with
    | .none => .usual
    | .text cs =>
      if cs = "IGNORE".toList then .ignored
      else if cs = "DEFAULT".toList || cs = [] then .usual else .noticed
    | _ => .noticed
  if signal ≠ 0 then
    ask (request (.handle signal handling))
    if handling = .noticed then modify fun m => { m with isWatchful := true }

/-- The pattern that a divider means; a single blank means words. -/
def isWordDivider : Term → Bool
  | .text [' '] => true
  | .matched (.mk (.text [' ']) _) none _ => false
  | _ => false

/-- The time that a round of a loop takes, in nanoseconds. -/
def roundTime : Nat := 3000

mutual

/-- The one value of an expression. -/
def one (k : Plan) : Nat → Term → Act Scalar
  | 0, _ => fault "Deep recursion".toList
  | fuel + 1, e => do
    match e with
    | .text cs => return .text cs
    | .whole n => return .whole n
    | .real x => return .real x
    | .joined parts =>
      let vs ← parts.mapM (one k fuel)
      return .text (vs.flatMap Scalar.asText)
    | .spread e =>
      let vs ← all k fuel e
      return .text (joinWith ((← get).setting "\"").asText (vs.map Scalar.asText))
    | .held '$' (.named name) =>
      let m ← get
      match m.special? name with
      | some v => return v
      | none => return m.load (.cell (← addressOf ('$' :: name)))
    | .held '@' h =>
      let a ← addressAt k '@' fuel h
      return .ofNat ((← get).list a).size
    | .held '#' h =>
      let a ← addressAt k '@' fuel h
      return .whole ((((← get).list a).size : Int) - 1)
    | .held '%' h =>
      let a ← addressAt k '%' fuel h
      return .ofNat ((← get).table a).entries.size
    | .part '@' _ _ _ => return ((← all k fuel e).getLast?).getD .none
    | .pick _ _ => return ((← all k fuel e).getLast?).getD .none
    | .several es => lastOf k fuel es
    | .newList es => linkToList (← allOf k fuel es)
    | .newTable es => linkToTable (← allOf k fuel es)
    | .closure body =>
      let m ← get
      linkToRoutine ⟨body, m.names⟩
    | .declared word target =>
      declareAs k word fuel target
      if target.isPlural then return .none else one k fuel target
    | .store target value =>
      if target.isPlural then return .ofNat (← storeAll k fuel target value).length
      else
        let s ← storeOne k fuel target value
        return (← get).load s
    | .update o target value =>
      let s ← updateAt k o fuel target value
      return (← get).load s
    | .apply name es => applyOne k name fuel es
    | .matched p target isNegated =>
      let found ← matchOnce k fuel p target
      return .ofBool (found.isSome != isNegated)
    | .replaced p r target => replaceIn k fuel p r target
    | .exchanged first second flags target =>
      let s ← spotOf k fuel (target.getD topic)
      let text := ((← get).load s).asText
      let x := Exchange.of first second flags
      let (new, n) := x.run text none 0 []
      if flags.contains 'r' then return .text new
      else
        if new ≠ text then keep s (.text new)
        return .ofNat n
    | .call name es passesOn =>
      return ((← callNamed k name passesOn false fuel es).getLast?).getD .none
    | .perform code es =>
      let r ← routineAt k fuel code
      let vs ← allOf k fuel es
      return ((← callRoutine k false vs fuel r).getLast?).getD .none
    | .through name body es =>
      let vs ← goThrough k name body fuel es
      match name with
      | "map" => return .ofNat vs.length
      | "grep" => return .ofNat vs.length
      | "sort" => return .ofNat vs.length
      | _ => return vs.headD .none
    | .write name conduit es => writeValues k name fuel conduit es
    | .input conduit =>
      let source ← sourceOf k fuel conduit
      match ← source.next with
      | some text => return .text text
      | none => return .none
    | .block body => return ((← inBraces (bodyValue k false fuel body)).getLast?).getD .none
    | .attempt body => return ((← attempt k false fuel body).getLast?).getD .none
    | e => do
      let s ← spotOf k fuel e
      return (← get).load s

/-- All values of an expression. -/
def all (k : Plan) : Nat → Term → Act (List Scalar)
  | 0, _ => fault "Deep recursion".toList
  | fuel + 1, e => do
    match e with
    | .held '@' h =>
      let a ← addressAt k '@' fuel h
      return ((← get).list a).toList
    | .held '%' h =>
      let a ← addressAt k '%' fuel h
      return ((← get).table a).pairs.flatMap fun p => [.text p.1, p.2]
    | .part '@' isTable h index =>
      let a ← addressAt k (if isTable then '%' else '@') fuel h
      let is ← all k fuel index
      let m ← get
      if isTable then return is.map fun i => m.load (.entry a i.asText)
      else
        return is.map fun i =>
          match indexIn (m.list a).size i.int with
          | some n => m.load (.element a n)
          | none => .none
    | .pick values indices =>
      let vs := (← all k fuel values).toArray
      let is ← all k fuel indices
      if vs.isEmpty then return []
      else
        return is.map fun i =>
          match indexIn vs.size i.int with
          | some n => (vs[n]?).getD .none
          | none => .none
    | .several es => allOf k fuel es
    | .declared word target =>
      declareAs k word fuel target
      all k fuel target
    | .store target value =>
      if target.isPlural then storeAll k fuel target value else return [← one k fuel e]
    | .apply name es => applyAll k name fuel es
    | .matched p target false =>
      let .mk _ flags := p
      if flags.contains 'g' then
        let r ← matcherFor k fuel p
        let text := (← one k fuel (target.getD topic)).asText
        let found := r.matches text (text.length + 2) 0 false
        match found.getLast? with
        | some m => modify fun s => { s with found := some m }
        | none => pure ()
        return found.flatMap fun m => if r.groups = 0 then [.text m.whole] else r.groupsIn m
      else
        match ← matchOnce k fuel p target with
        | some (r, m) => return if r.groups = 0 then [.whole 1] else r.groupsIn m
        | none => return []
    | .call name es passesOn => callNamed k name passesOn true fuel es
    | .perform code es =>
      let r ← routineAt k fuel code
      let vs ← allOf k fuel es
      callRoutine k true vs fuel r
    | .through name body es => goThrough k name body fuel es
    | .input conduit =>
      let source ← sourceOf k fuel conduit
      source.rest streamFuel
    | .block body => inBraces (bodyValue k true fuel body)
    | .attempt body => attempt k true fuel body
    | e => return [← one k fuel e]

/-- All values of some expressions. -/
def allOf (k : Plan) : Nat → List Term → Act (List Scalar)
  | 0, _ => fault "Deep recursion".toList
  | fuel + 1, es => do
    let vs ← es.mapM (all k fuel)
    return vs.flatten

/-- The value of the last one of some expressions; the others are evaluated before it. -/
def lastOf (k : Plan) : Nat → List Term → Act Scalar
  | 0, _ => fault "Deep recursion".toList
  | fuel + 1, es => do
    match es with
    | [] => return .none
    | [e] => one k fuel e
    | e :: es => do
      let _ ← one k fuel e
      lastOf k fuel es

/-- The address of what a holder holds. -/
def addressAt (k : Plan) (mark : Char) : Nat → Holder → Act Nat
  | 0, _ => fault "Deep recursion".toList
  | fuel + 1, h => do
    match h with
    | .named name => addressOf (mark :: name)
    | .behind e =>
      let s ← spotOf k fuel e
      leadTo mark s

/-- The spot where the value of an expression is kept. -/
def spotOf (k : Plan) : Nat → Term → Act Spot
  | 0, _ => fault "Deep recursion".toList
  | fuel + 1, e => do
    match e with
    | .held '$' (.named name) =>
      let m ← get
      match m.special? name with
      | some v => return .loose v
      | none => return .cell (← addressOf ('$' :: name))
    | .held '$' h => return .cell (← addressAt k '$' fuel h)
    | .part '$' true (.named ['+']) key =>
      let name := (← one k fuel key).asText
      let v := (← get).found.bind fun f => (f.names.lookup name).map f.group
      return .loose (v.getD .none)
    | .part '$' true h key =>
      let a ← addressAt k '%' fuel h
      let key ← match key with
        | .several es => do
          let vs ← allOf k fuel es
          pure (joinWith ['\x1c'] (vs.map Scalar.asText))
        | key => do pure (← one k fuel key).asText
      return .entry a key
    | .part '$' false h index =>
      let a ← addressAt k '@' fuel h
      let i ← one k fuel index
      match indexIn ((← get).list a).size i.int with
      | some n => return .element a n
      | none => return .loose .none
    | .declared word target =>
      declareAs k word fuel target
      spotOf k fuel target
    | .several [e] => spotOf k fuel e
    | .apply "?:" [c, a, b] =>
      if (← one k fuel c).isTrue then spotOf k fuel a else spotOf k fuel b
    | .apply "++_" [target] => do
      let s ← spotOf k fuel target
      keep s (((← get).load s).stepped true)
      return s
    | .store target value =>
      if target.isPlural then
        let _ ← storeAll k fuel target value
        match undeclared target with
        | .several (e :: _) => spotOf k fuel e
        | _ => return .loose .none
      else storeOne k fuel target value
    | .update o target value => updateAt k o fuel target value
    | e => return .loose (← one k fuel e)

/-- The spots where the values of an expression are kept. -/
def spotsOf (k : Plan) : Nat → Term → Act (List Spot)
  | 0, _ => fault "Deep recursion".toList
  | fuel + 1, e => do
    match e with
    | .held '@' h =>
      let a ← addressAt k '@' fuel h
      return (List.range ((← get).list a).size).map fun i => .element a i
    | .apply "values" [.held '%' h] =>
      let a ← addressAt k '%' fuel h
      return ((← get).table a).pairs.map fun p => .entry a p.1
    | .several es =>
      let ss ← es.mapM (spotsOf k fuel)
      return ss.flatten
    | .held '$' _ => return [← spotOf k fuel e]
    | .part '$' _ _ _ => return [← spotOf k fuel e]
    | .declared word target =>
      declareAs k word fuel target
      spotsOf k fuel target
    | .store target value =>
      if target.isPlural then
        let _ ← storeAll k fuel target value
        spotsOf k fuel (undeclared target)
      else return [← storeOne k fuel target value]
    | e => return (← all k fuel e).map Spot.loose

/-- Declares the variables of a term, or changes them for a while. -/
def declareAs (k : Plan) (word : String) : Nat → Term → Act Unit
  | 0, _ => return ()
  | fuel + 1, e => do
    match e with
    | .several es => es.forM (declareAs k word fuel)
    | .held mark (.named name) =>
      match word with
      | "my" => let _ ← declare (mark :: name)
      | "local" => bindForWhile (mark :: name)
      | "state" =>
        let lasting := lastingName (← get).line (mark :: name)
        bindTo (mark :: name) (← addressOf lasting)
      | _ => return ()
    | .part '$' _ _ _ =>
      if word = "local" then
        let s ← spotOf k fuel e
        let m ← get
        let v := m.load s
        set { m with saved := .value s v :: m.saved }
        match signalTarget? e with
        | some _ => return ()
        | none => keep s .none
    | .store target value =>
      declareAs k word fuel target
      let _ ← storeOne k fuel target value
    | _ => return ()

/-- Keeps the value of an expression; the answer is where. -/
def storeOne (k : Plan) : Nat → Term → Term → Act Spot
  | 0, _, _ => fault "Deep recursion".toList
  | fuel + 1, target, value => do
    match target with
    | .declared "state" (.held '$' (.named name)) =>
      let lasting := lastingName (← get).line ('$' :: name)
      let isOld := ((← get).globals[lasting]?).isSome
      let a ← addressOf lasting
      if !isOld then keep (.cell a) (← one k fuel value)
      bindTo ('$' :: name) a
      return .cell a
    | .held '#' h =>
      let v ← one k fuel value
      let a ← addressAt k '@' fuel h
      let vs := (← get).list a
      let n := (v.int + 1).toNat
      setList a (if n ≤ vs.size then vs.take n else vs ++ Array.replicate (n - vs.size) Scalar.none)
      return .loose v
    | .apply "substr" es =>
      let v ← one k fuel value
      let _ ← replacePart k fuel es v
      return .loose v
    | .apply "local" [e] => storeOne k fuel e value
    | target =>
      let v ← one k fuel value
      let s ← spotOf k fuel target
      keep s v
      match target with
      | .held '$' (.named ['|']) => flushAll
      | .held '$' (.named ['!']) => setErrorNumber v.int.toNat
      | target =>
        match signalTarget? target with
        | some key => handleAs (signalNumber (← one k fuel key)) v
        | none => pure ()
      return s

/-- Keeps the values of an expression in lists, tables and variables; the answer is these values. -/
def storeAll (k : Plan) : Nat → Term → Term → Act (List Scalar)
  | 0, _, _ => fault "Deep recursion".toList
  | fuel + 1, target, value => do
    let vs ← all k fuel value
    assignAll k fuel [target] vs
    return vs

/-- Gives values to targets, one after the other; a list or a table takes all that are left. -/
def assignAll (k : Plan) : Nat → List Term → List Scalar → Act Unit
  | 0, _, _ => return ()
  | fuel + 1, targets, vs => do
    match targets with
    | [] => return ()
    | .declared word (.several es) :: rest =>
      assignAll k fuel (es.map (Term.declared word) ++ rest) vs
    | .declared word (.held mark h) :: rest =>
      declareAs k word fuel (.held mark h)
      assignAll k fuel (.held mark h :: rest) vs
    | .several es :: rest => assignAll k fuel (es ++ rest) vs
    | .held '@' h :: rest =>
      let a ← addressAt k '@' fuel h
      setList a vs.toArray
      assignAll k fuel rest []
    | .held '%' h :: rest =>
      let a ← addressAt k '%' fuel h
      setTable a (registerOf vs {})
      assignAll k fuel rest []
    | .part '@' isTable h index :: rest =>
      let is ← all k fuel index
      let a ← addressAt k (if isTable then '%' else '@') fuel h
      for (i, v) in is.zip (vs ++ List.replicate is.length Scalar.none) do
        if isTable then keep (.entry a i.asText) v
        else
          match indexIn ((← get).list a).size i.int with
          | some n => keep (.element a n) v
          | none => pure ()
      assignAll k fuel rest (vs.drop is.length)
    | .apply "undef" [] :: rest => assignAll k fuel rest (vs.drop 1)
    | target :: rest =>
      let s ← spotOf k fuel target
      keep s (vs.headD .none)
      assignAll k fuel rest (vs.drop 1)

/-- Changes a variable by an operator; the answer is where it is kept. -/
def updateAt (k : Plan) (o : String) : Nat → Term → Term → Act Spot
  | 0, _, _ => fault "Deep recursion".toList
  | fuel + 1, target, value => do
    match target, o with
    | .held '@' h, _ =>
      let a ← addressAt k '@' fuel h
      let vs := ((← get).list a).toList
      if o = "x=" then
        let n ← one k fuel value
        setList a (List.replicate n.int.toNat vs).flatten.toArray
      else if (o = "||=" || o = "//=") && vs.isEmpty then setList a (← all k fuel value).toArray
      return .loose (.ofNat ((← get).list a).size)
    | target, o =>
      let s ← spotOf k fuel target
      let old := (← get).load s
      match o with
      | "||=" => if !old.isTrue then keep s (← one k fuel value)
      | "&&=" => if old.isTrue then keep s (← one k fuel value)
      | "//=" => if !old.isDefined then keep s (← one k fuel value)
      | o =>
        let v ← one k fuel value
        let old := (← get).load s
        keep s (← operatorResult (String.ofList o.toList.dropLast) old v)
      return s

/-- The routine that a value leads to. -/
def routineAt (k : Plan) : Nat → Term → Act Routine
  | 0, _ => fault "Deep recursion".toList
  | fuel + 1, code => do
    match ← one k fuel code with
    | .link .routine a =>
      match (← get).closures[a]? with
      | some r => return r
      | none => fault "Not a CODE reference".toList
    | .text name =>
      match (← get).routine? name with
      | some r => return r
      | none => fault ("Undefined subroutine &main::".toList ++ name ++ " called".toList)
    | .none => fault "Can't use an undefined value as a subroutine reference".toList
    | _ => fault "Not a CODE reference".toList

/-- Calls a routine with values. -/
def callRoutine (k : Plan) (isPlural : Bool) (vs : List Scalar) : Nat → Routine → Act (List Scalar)
  | 0, _ => fault "Deep recursion".toList
  | fuel + 1, r => do
    let before ← get
    let a ← freshAddress
    setList a vs.toArray
    let known := if r.names.isEmpty then before.outermost else r.names
    modify fun m => { m with names := [("@_".toList, a)] :: known, wantsList := isPlural }
    let result ← tried (inBraces (bodyValue k isPlural fuel r.body))
    modify fun m => { m with names := before.names, wantsList := before.wantsList,
                             line := before.line }
    returned result

/-- Calls what a name stands for: a routine of the program, or a function that has been asked for. A
name that stands for neither is a text. -/
def callNamed (k : Plan) (name : Bytes) (passesOn isPlural : Bool) :
    Nat → List Term → Act (List Scalar)
  | 0, _ => fault "Deep recursion".toList
  | fuel + 1, es => do
    match (← get).routine? (plainName name) with
    | some r =>
      let vs ← if passesOn then all k fuel (.held '@' (.named ['_'])) else allOf k fuel es
      callRoutine k isPlural vs fuel r
    | none =>
      let word := String.ofList (lastPart name)
      let missing : Act (List Scalar) := do
        if es.isEmpty && !passesOn then return [.text name]
        else fault ("Undefined subroutine &main::".toList ++ name ++ " called".toList)
      match word with
      | "uniq" =>
        let vs := differentOnes (← allOf k fuel es)
        return if isPlural then vs else [.ofNat vs.length]
      | "shuffle" => allOf k fuel es
      | "croak" => throw (.die (← lastWords (← allOf k fuel es)))
      | "confess" => throw (.die (← lastWords (← allOf k fuel es)))
      | "carp" =>
        warn (← allOf k fuel es)
        return []
      | "_exit" => throw (.exit ((← allOf k fuel es).headD .none).int.toNat)
      | word =>
        if es.isEmpty && !(["time", "sleep", "alarm", "fork"].contains word) then missing
        else
          let vs ← allOf k fuel es
          match ← givenResult? k word vs with
          | some v => return [v]
          | none => missing

/-- Calls a method of an object or of a class, or of a conduit. -/
def callMethod (k : Plan) (isPlural : Bool) : Nat → List Term → Act (List Scalar)
  | 0, _ => fault "Deep recursion".toList
  | fuel + 1, es => do
    match es with
    | object :: method :: es =>
      let o ← one k fuel object
      let f ← one k fuel method
      let vs ← allOf k fuel es
      let name := f.asText
      let m ← get
      let kind := (m.class? o).getD (match o with | .link _ _ => [] | v => v.asText)
      match f with
      | .link .routine a =>
        match m.closures[a]? with
        | some r => callRoutine k isPlural (o :: vs) fuel r
        | none => return []
      | _ =>
        match m.method? (lastPart name) 100 kind with
        | some r => callRoutine k isPlural (o :: vs) fuel r
        | none =>
          let own := (m.class? o).isNone
          let conduit ← if own then conduitOf? o else pure none
          match String.ofList name, conduit with
          | "can", _ =>
            match m.method? ((vs.headD .none).asText) 100 kind with
            | some r => return [← linkToRoutine r]
            | none => return [.ofBool false]
          | "isa", _ => return [.ofBool (m.isKind (vs.headD .none).asText 100 kind)]
          | "autoflush", some n =>
            flushConduit n
            return [.whole 1]
          | "flush", some n =>
            flushConduit n
            return [.whole 1]
          | "print", some n => return [.ofBool (← putText n (vs.flatMap Scalar.asText))]
          | "say", some n => return [.ofBool (← putText n (line (vs.flatMap Scalar.asText)))]
          | "printf", some n =>
            let form := (vs.headD .none).asText
            return [.ofBool (← putText n (filledText (form.length + 1) form (vs.drop 1)))]
          | "getline", some n => return [((← nextLine n).map Scalar.text).getD .none]
          | "getlines", some n => (Source.conduit n).rest streamFuel
          | "opened", some n => return [.ofBool ((m.conduits[n]?.bind Conduit.descriptor).isSome)]
          | "eof", some n => return [.ofBool (← isFinished n)]
          | "import", _ => return []
          | word, some n =>
            match ← givenResult? k word (.link .conduit n :: vs) with
            | some v => return [v]
            | none => fault ("Can't locate object method \"".toList ++ name
              ++ "\" via package \"IO::File\"".toList)
          | _, none =>
            match o with
            | .none =>
              fault ("Can't call method \"".toList ++ name ++ "\" on an undefined value".toList)
            | .link _ _ =>
              if own then
                fault ("Can't call method \"".toList ++ name ++ "\" on unblessed reference".toList)
              else
                fault ("Can't locate object method \"".toList ++ name ++ "\" via package \"".toList
                  ++ kind ++ ['"'])
            | _ =>
              fault ("Can't locate object method \"".toList ++ name ++ "\" via package \"".toList
                ++ kind
                ++ "\" (perhaps you forgot to load \"".toList ++ kind ++ "\"?)".toList)
    | _ => return []

/-- Where lines are read from. -/
def sourceOf (k : Plan) : Nat → Option Term → Act Source
  | 0, _ => fault "Deep recursion".toList
  | fuel + 1, conduit => do
    match conduit with
    | none => return .arguments
    | some e =>
      let v ← one k fuel e
      if v.asText = "ARGV".toList then return .arguments
      else
        match ← conduitOf? v with
        | some n => return .conduit n
        | none => return .nothing

/-- Writes values to a conduit. -/
def writeValues (k : Plan) (name : String) : Nat → Option Term → List Term → Act Scalar
  | 0, _, _ => fault "Deep recursion".toList
  | fuel + 1, conduit, es => do
    let number ← match conduit with
      | none => do pure (some (← get).selected)
      | some e => do conduitOf? (← one k fuel e)
    let vs ← if es.isEmpty then do pure [← one k fuel topic] else allOf k fuel es
    let m ← get
    let texts := vs.map Scalar.asText
    let text := match name with
      | "printf" => filledText ((texts.headD []).length + 1) (texts.headD []) (vs.drop 1)
      | "say" => joinWith (m.setting ",").asText texts ++ ['\n']
      | _ => joinWith (m.setting ",").asText texts ++ (m.setting "\\").asText
    match number with
    | some n => return .ofBool (← putText n text)
    | none => return .ofBool false

/-- The expression for matching that a pattern means. -/
def matcherFor (k : Plan) : Nat → Pattern → Act Matcher
  | 0, _ => fault "Deep recursion".toList
  | fuel + 1, p => do
    let .mk t flags := p
    let text := (← one k fuel t).asText
    matcherOf text flags

/-- Matches once; with the flag for it, from where the last match has ended. -/
def matchOnce (k : Plan) : Nat → Pattern → Option Term → Act (Option (Matcher × Match))
  | 0, _, _ => fault "Deep recursion".toList
  | fuel + 1, p, target => do
    let .mk _ flags := p
    let s ← spotOf k fuel (target.getD topic)
    let r ← matcherFor k fuel p
    let m ← get
    let text := (m.load s).asText
    let isGoing := flags.contains 'g'
    let (position, isAfterEmpty) := if isGoing then (m.positions[s.tag]?).getD (0, false)
      else (0, false)
    match r.search text position isAfterEmpty with
    | some found =>
      modify fun m =>
        { m with
          found := some found
          positions := if isGoing then
            m.positions.insert s.tag (found.place.position, found.isEmpty)
            else m.positions }
      return some (r, found)
    | none =>
      if isGoing && !flags.contains 'c' then
        modify fun m => { m with positions := m.positions.erase s.tag }
      return none

/-- Replaces matches; the answer is how many, or the new text if that is asked for. -/
def replaceIn (k : Plan) : Nat → Pattern → Term → Option Term → Act Scalar
  | 0, _, _, _ => fault "Deep recursion".toList
  | fuel + 1, p, replacement, target => do
    let .mk _ flags := p
    let s ← spotOf k fuel (target.getD topic)
    let r ← matcherFor k fuel p
    let text := ((← get).load s).asText
    let found := if flags.contains 'g' then r.matches text (text.length + 2) 0 false
      else (r.search text 0 false).toList
    if found.isEmpty then return if flags.contains 'r' then .text text else .ofBool false
    else
      let (pieces', last) ← found.foldlM (fun (p : List Bytes × Nat) (m : Match) => do
        modify fun memory => { memory with found := some m }
        let new ← one k fuel replacement
        return (new.asText :: (text.take m.start).drop p.2 :: p.1, m.place.position)) ([], 0)
      let whole := (pieces'.reverse.flatten) ++ text.drop last
      if flags.contains 'r' then return .text whole
      else
        keep s (.text whole)
        return .ofNat found.length

/-- Replaces a part of a text; the answer is the part. -/
def replacePart (k : Plan) : Nat → List Term → Scalar → Act Scalar
  | 0, _, _ => fault "Deep recursion".toList
  | fuel + 1, es, new => do
    match es with
    | target :: start :: rest =>
      let s ← spotOf k fuel target
      let start ← one k fuel start
      let most ← match rest with
        | e :: _ => do pure (some (← one k fuel e).int)
        | [] => pure none
      let text := ((← get).load s).asText
      match rangeIn text.length start.int most with
      | some (start, size) =>
        keep s (.text (text.take start ++ new.asText ++ text.drop (start + size)))
        return .text ((text.drop start).take size)
      | none => fault "substr outside of string".toList
    | _ => return .none

/-- Tries statements. What stops them is kept as the message of the fault. -/
def attempt (k : Plan) (isPlural : Bool) : Nat → List Statement → Act (List Scalar)
  | 0, _ => fault "Deep recursion".toList
  | fuel + 1, body => do
    let before := (← get).names
    match ← tried (inBraces (bodyValue k isPlural fuel body)) with
    | .ok vs =>
      setSetting "@" (.text [])
      return vs
    | .error (.give vs) =>
      setSetting "@" (.text [])
      return vs
    | .error (.die v) =>
      modify fun m => { m with names := before }
      setSetting "@" v
      return if isPlural then [] else [.none]
    | .error h => throw h

/-- The values of functions that are given statements and values. -/
def goThrough (k : Plan) (name : String) (body : List Statement) :
    Nat → List Term → Act (List Scalar)
  | 0, _ => fault "Deep recursion".toList
  | fuel + 1, es => do
    let vs ← allOf k fuel es
    let holds (v : Scalar) : Act Bool := do
      let r ← standingFor ['$', '_'] (.loose v) (inBraces (bodyValue k false fuel body))
      return ((r.getLast?).getD .none).isTrue
    match name with
    | "map" =>
      let rs ← vs.mapM fun v =>
        standingFor ['$', '_'] (.loose v) (inBraces (bodyValue k true fuel body))
      return rs.flatten
    | "grep" => vs.filterM holds
    | "first" =>
      let found ← vs.findM? holds
      return [found.getD .none]
    | "any" => return [.ofBool (← vs.anyM holds)]
    | "all" => return [.ofBool (← vs.allM holds)]
    | "none" => return [.ofBool !(← vs.anyM holds)]
    | _ =>
      let both (a b : Scalar) : Act Scalar := do
        setSetting "a" a
        setSetting "b" b
        let r ← inBraces (bodyValue k false fuel body)
        return (r.getLast?).getD .none
      if name = "reduce" then
        match vs with
        | [] => return [.none]
        | v :: vs => return [← vs.foldlM both v]
      else if body.isEmpty then
        ordered (fun a b => return compareTexts a.asText b.asText == .gt) (vs.length + 1) vs
      else ordered (fun a b => return 0 < (← both a b).int) (vs.length + 1) vs

/-- What an operator or a function comes to as one value. -/
def applyOne (k : Plan) (name : String) : Nat → List Term → Act Scalar
  | 0, _ => fault "Deep recursion".toList
  | fuel + 1, es => do
    match name, es with
    | "!", [e] => return .ofBool !(← one k fuel e).isTrue
    | "~", [e] => return .whole ((18446744073709551615 - (← one k fuel e).count.bits : Nat) : Int)
    | "-_", [e] => return (← one k fuel e).opposite
    | "++_", [e] =>
      let s ← spotOf k fuel e
      let v := ((← get).load s).stepped true
      keep s v
      return v
    | "--_", [e] =>
      let s ← spotOf k fuel e
      let v := ((← get).load s).stepped false
      keep s v
      return v
    | "_++", [e] =>
      let s ← spotOf k fuel e
      let v := (← get).load s
      keep s (v.stepped true)
      return if v.isDefined then v else .whole 0
    | "_--", [e] =>
      let s ← spotOf k fuel e
      let v := (← get).load s
      keep s (v.stepped false)
      return if v.isDefined then v else .whole 0
    | "&&", [a, b] =>
      let v ← one k fuel a
      if v.isTrue then one k fuel b else return v
    | "||", [a, b] =>
      let v ← one k fuel a
      if v.isTrue then return v else one k fuel b
    | "//", [a, b] =>
      let v ← one k fuel a
      if v.isDefined then return v else one k fuel b
    | "?:", [c, a, b] => if (← one k fuel c).isTrue then one k fuel a else one k fuel b
    | "\\", [e] =>
      match e with
      | .held '@' h => return .link .list (← addressAt k '@' fuel h)
      | .held '%' h => return .link .table (← addressAt k '%' fuel h)
      | .declared word target => do
        declareAs k word fuel target
        applyOne k "\\" fuel [target]
      | .call name [] true =>
        match (← get).routine? name with
        | some r => linkToRoutine r
        | none => return .none
      | e =>
        match ← spotOf k fuel e with
        | .cell a => return .link .cell a
        | s => do
          let m ← get
          linkToValue (m.load s)
    | "..", [a, b, .whole id] =>
      let bound (e : Term) : Act Bool := do
        match e with
        | .whole n => return (((← get).special? ['.']).getD .none).int = n
        | e => return (← one k fuel e).isTrue
      inRange id.toNat (bound a) (bound b)
    | "qr", [t, .text flags] =>
      let text := (← one k fuel t).asText
      let _ ← matcherOf text flags
      let flags := flags.filter fun c => ['i', 'm', 's', 'x'].contains c
      return .pattern ("(?^".toList ++ flags ++ ':' :: text ++ [')'])
    | "qx", [e] => return .text (← outputOf k (← one k fuel e).asText)
    | "scalar", [e] => one k fuel e
    | "defined", [e] =>
      match e with
      | .held '@' _ => return .ofBool !(← all k fuel e).isEmpty
      | .held '%' _ => return .ofBool !(← all k fuel e).isEmpty
      | .call name [] true => return .ofBool ((← get).routine? name).isSome
      | e => return .ofBool (← one k fuel e).isDefined
    | "defined", [] => return .ofBool (← one k fuel topic).isDefined
    | "exists", [e] =>
      match e with
      | .call name [] true => return .ofBool ((← get).routine? name).isSome
      | e =>
        match ← spotOf k fuel e with
        | .entry a key => return .ofBool (((← get).table a).entries[key]?).isSome
        | .element a i => return .ofBool (i < ((← get).list a).size)
        | _ => return .ofBool false
    | "delete", [e] => return ((← applyAll k "delete" fuel [e]).getLast?).getD .none
    | "undef", [] => return .none
    | "undef", [e] =>
      match e with
      | .held '@' h => setList (← addressAt k '@' fuel h) #[]
      | .held '%' h => setTable (← addressAt k '%' fuel h) {}
      | .call _ _ _ => pure ()
      | e => keep (← spotOf k fuel e) .none
      return .none
    | "push", .held '@' h :: es =>
      let vs ← allOf k fuel es
      let a ← addressAt k '@' fuel h
      modify fun m =>
        let old := m.list a
        let m := { m with lists := m.lists.erase a }
        { m with lists := m.lists.insert a (old ++ vs.toArray) }
      return .ofNat ((← get).list a).size
    | "unshift", .held '@' h :: es =>
      let vs ← allOf k fuel es
      let a ← addressAt k '@' fuel h
      setList a (vs.toArray ++ (← get).list a)
      return .ofNat ((← get).list a).size
    | "shift", es =>
      let a ← listFor k fuel es
      let vs := (← get).list a
      setList a (vs.extract 1 vs.size)
      return (vs[0]?).getD .none
    | "pop", es =>
      let a ← listFor k fuel es
      let vs := (← get).list a
      setList a vs.pop
      return vs.back?.getD .none
    | "keys", [.held mark h] =>
      let a ← addressAt k mark fuel h
      let m ← get
      set { m with rounds := m.rounds.erase a }
      return .ofNat (if mark = '%' then (m.table a).entries.size else (m.list a).size)
    | "values", [.held mark h] =>
      let a ← addressAt k mark fuel h
      let m ← get
      return .ofNat (if mark = '%' then (m.table a).entries.size else (m.list a).size)
    | "each", es => return (← applyAll k "each" fuel es).headD .none
    | "wantarray", _ => return .ofBool (← get).wantsList
    | "chomp", es =>
      let ss ← spotsOf k fuel (if es.isEmpty then topic else .several es)
      let m ← get
      let mut count := 0
      for s in ss do
        let v := (← get).load s
        let (text, n) := withoutLineEnd m.separator v.asText
        if n ≠ 0 then keep s (.text text)
        count := count + n
      return .ofNat count
    | "chop", es =>
      let ss ← spotsOf k fuel (if es.isEmpty then topic else .several es)
      let mut last : Scalar := .text []
      for s in ss do
        let text := ((← get).load s).asText
        last := .text (text.drop (text.length - 1))
        keep s (.text (text.take (text.length - 1)))
      return last
    | "->", es => return ((← callMethod k false fuel es).getLast?).getD .none
    | "constant", es => do
      let vs ← allOf k fuel es
      let entries : List (Bytes × List Scalar) ← match vs with
        | [.link .table a] => do pure (((← get).table a).pairs.map fun p => (p.1, [p.2]))
        | v :: vs => pure [(v.asText, vs)]
        | [] => pure []
      for (name, values) in entries do
        let own := '\x00' :: name
        match values with
        | [v] =>
          keep (.cell (← addressOf ('$' :: own))) v
          modify fun m =>
            { m with routines := m.routines.insert name ⟨[.plain 0 (.held '$' (.named own))], []⟩ }
        | vs =>
          setList (← addressOf ('@' :: own)) vs.toArray
          modify fun m =>
            { m with routines := m.routines.insert name ⟨[.plain 0 (.held '@' (.named own))], []⟩ }
      return .none
    | "return", es =>
      let vs ← if (← get).wantsList then allOf k fuel es
        else do pure [← lastOf k fuel es]
      throw (.give vs)
    | "next", [.text label] => throw (.next label)
    | "last", [.text label] => throw (.last label)
    | "redo", _ => throw .redo
    | "substr", [a, b, c, new] =>
      let v ← one k fuel new
      replacePart k fuel [a, b, c] v
    | "open", es => openFor k fuel es
    | "pipe", [a, b] => do
      let (source, sink) ← ask (request .pipe)
      let n ← newConduit { title := [], descriptor := some source }
      giveName k fuel a (.link .conduit n)
      let n ← newConduit { title := [], descriptor := some sink }
      giveName k fuel b (.link .conduit n)
      return .ofBool true
    | "opendir", target :: es =>
      let path := (← allOf k fuel es).headD .none
      let names ← ask (inquire fun d => (d.find path.asText).bind fun f =>
        if f.node.kind = .directory then .ok (['.'] :: ['.', '.'] :: d.names f.location)
        else .error .notDirectory)
      match names with
      | .ok names =>
        let n ← newConduit { title := [], descriptor := none, names := names }
        giveName k fuel target (.link .conduit n)
        return .ofBool true
      | .error e =>
        noteError e
        return .ofBool false
    | "readdir", [e] => return (← applyAll k "nextname" fuel [e]).headD .none
    | "readline", [e] => one k fuel (.input (some e))
    | "read", es => readInto k fuel es
    | "sysread", es => readInto k fuel es
    | "eof", es =>
      match es with
      | [e] =>
        match ← conduitOf? (← one k fuel e) with
        | some n => return .ofBool (← isFinished n)
        | none => return .ofBool true
      | _ =>
        match (← get).lastRead with
        | some n => return .ofBool (← isFinished n)
        | none => return .ofBool true
    | "pos", es =>
      let s ← spotOf k fuel (es.headD topic)
      match (← get).positions[s.tag]? with
      | some (n, _) => return .ofNat n
      | none => return .none
    | "split", es => return .ofNat (← applyAll k "split" fuel es).length
    | "splice", es => return ((← applyAll k "splice" fuel es).getLast?).getD .none
    | "reverse", es =>
      let vs ← if es.isEmpty then do pure [← one k fuel topic] else allOf k fuel es
      return .text (vs.flatMap Scalar.asText).reverse
    | "localtime", es => dateLine k false fuel es
    | "gmtime", es => dateLine k true fuel es
    | "stat", es => return .ofBool !(← applyAll k "stat" fuel es).isEmpty
    | "lstat", es => return .ofBool !(← applyAll k "lstat" fuel es).isEmpty
    | "glob", es => return (← applyAll k "glob" fuel es).headD .none
    | "unpack", es => return (← applyAll k "unpack" fuel es).headD .none
    | "caller", _ => return .text "main".toList
    | "times", _ => return .real 0
    | "eval", es =>
      let text := (← lastOf k fuel es).asText
      return ((← evalText k false fuel text).getLast?).getD .none
    | "do", [e] =>
      let path := (← one k fuel e).asText
      match ← ask (readFile path) with
      | .ok text => return ((← evalText k false fuel text).getLast?).getD .none
      | .error e =>
        noteError e
        return .none
    | "exit", es =>
      let v ← if es.isEmpty then pure (.whole 0) else lastOf k fuel es
      throw (.exit (v.int % 256).toNat)
    | "sprintf", es =>
      let vs ← allOf k fuel es
      return (textResult? "sprintf" vs).getD .none
    | name, [a, b] =>
      if (levelOf? name).isSome || name = "**" || name = "xor" then
        let isCounted := countingNames.contains name
        let number := fun (e : Term) => do
          if isCounted && isFaultNumber e then return Scalar.ofNat (← get).errorNumber
          else one k fuel e
        let x ← number a
        let y ← number b
        operatorResult name x y
      else if name.length = 2 && name.toList.head? = some '-' then
        return .none
      else givenFor k name fuel [a, b]
    | name, es =>
      match name.toList with
      | ['-', letter] => testFile letter (← one k fuel (es.headD topic))
      | _ => givenFor k name fuel es

/-- What a function comes to that only needs the values that it is given. -/
def givenFor (k : Plan) (name : String) : Nat → List Term → Act Scalar
  | 0, _ => fault "Deep recursion".toList
  | fuel + 1, es => do
    let es := if es.isEmpty && topicNames.contains name then [topic] else es
    let vs ← match name, es with
      | "int", [e] =>
        if isFaultNumber e then do pure [Scalar.ofNat (← get).errorNumber]
        else do pure [← one k fuel e]
      | name, es => if singleNames.contains name then es.mapM (one k fuel) else allOf k fuel es
    match ← givenResult? k name vs with
    | some v => return v
    | none => fault ("Unsupported function ".toList ++ name.toList)

/-- The list that a function takes values from. -/
def listFor (k : Plan) : Nat → List Term → Act Nat
  | 0, _ => fault "Deep recursion".toList
  | fuel + 1, es => do
    match es with
    | [.held '@' h] => addressAt k '@' fuel h
    | [e] =>
      let s ← spotOf k fuel e
      leadTo '@' s
    | _ => usualList

/-- A date in words. -/
def dateLine (k : Plan) (isUniversal : Bool) : Nat → List Term → Act Scalar
  | 0, _ => fault "Deep recursion".toList
  | fuel + 1, es => do
    let d ← dateOf isUniversal (← allOf k fuel es)
    return .text (d.inFormat "%a %b %e %H:%M:%S %Y".toList)

/-- Runs the text of a program; what stops it is kept as the message of the fault. -/
def evalText (k : Plan) (isPlural : Bool) : Nat → Bytes → Act (List Scalar)
  | 0, _ => fault "Deep recursion".toList
  | fuel + 1, text => do
    match readProgram text with
    | .ok body => attempt k isPlural fuel body
    | .error mistake =>
      setSetting "@" (.text (mistake.text "(eval 1)".toList))
      return if isPlural then [] else [.none]

/-- Gives a conduit to a variable, or a name to it. -/
def giveName (k : Plan) : Nat → Term → Scalar → Act Unit
  | 0, _, _ => return ()
  | fuel + 1, target, conduit => do
    match target, conduit with
    | .call name [] _, .link _ n => nameConduit name n
    | .text name, .link _ n => nameConduit name n
    | target, conduit => keep (← spotOf k fuel target) conduit

/-- Opens a conduit. -/
def openFor (k : Plan) : Nat → List Term → Act Scalar
  | 0, _ => fault "Deep recursion".toList
  | fuel + 1, es => do
    match es with
    | target :: es =>
      let vs ← allOf k fuel es
      let title : Bytes := match undeclared target with
        | .call name _ _ => name
        | .text name => name
        | .held mark (.named name) => mark :: name
        | _ => "__ANONIO__".toList
      let opened ← match vs with
        | [] => pure none
        | [.link .cell a] => do
          let text := (← get).load (.cell a)
          pure (some (← newConduit
            { title := title, descriptor := none, buffer := text.asText, isAtEnd := true }))
        | [v] =>
          let (way, path) := openingOf v.asText
          openConduit k title way [path]
        | way :: vs =>
          let way := (way.asText.takeWhile (· ≠ ':')).filter fun c => !isSpaceChar c
          match vs with
          | [.link .cell a] => do
            let text := (← get).load (.cell a)
            pure (some (← newConduit
              { title := title, descriptor := none, buffer := text.asText, isAtEnd := true }))
          | vs => openConduit k title way (vs.map Scalar.asText)
      match opened with
      | some n =>
        giveName k fuel target (.link .conduit n)
        return .ofBool true
      | none => return .ofBool false
    | [] => return .ofBool false

/-- Reads bytes from a conduit into a variable. -/
def readInto (k : Plan) : Nat → List Term → Act Scalar
  | 0, _ => fault "Deep recursion".toList
  | fuel + 1, es => do
    match es with
    | conduit :: target :: size :: _ =>
      match ← conduitOf? (← one k fuel conduit) with
      | some n =>
        let size := (← one k fuel size).int.toNat
        let s ← spotOf k fuel target
        let text ← takeBytes n size streamFuel []
        keep s (.text text)
        return .ofNat text.length
      | none => return .none
    | _ => return .none

/-- What an operator or a function comes to as all of its values. -/
def applyAll (k : Plan) (name : String) : Nat → List Term → Act (List Scalar)
  | 0, _ => fault "Deep recursion".toList
  | fuel + 1, es => do
    match name, es with
    | "&&", [a, b] =>
      let v ← one k fuel a
      if v.isTrue then all k fuel b else return [v]
    | "||", [a, b] =>
      let v ← one k fuel a
      if v.isTrue then return [v] else all k fuel b
    | "//", [a, b] =>
      let v ← one k fuel a
      if v.isDefined then return [v] else all k fuel b
    | "?:", [c, a, b] => if (← one k fuel c).isTrue then all k fuel a else all k fuel b
    | "..", a :: b :: _ =>
      let x ← one k fuel a
      let y ← one k fuel b
      return rangeOf x y
    | "x", [.several es, n] =>
      let vs ← allOf k fuel es
      let n ← one k fuel n
      return (List.replicate n.int.toNat vs).flatten
    | "\\", [.several es] =>
      let vs ← es.mapM fun e => applyOne k "\\" fuel [e]
      return vs
    | "keys", [.held '%' h] =>
      let a ← addressAt k '%' fuel h
      let m ← get
      set { m with rounds := m.rounds.erase a }
      return (m.table a).pairs.map fun p => .text p.1
    | "keys", [.held '@' h] =>
      let a ← addressAt k '@' fuel h
      return (List.range ((← get).list a).size).map Scalar.ofNat
    | "values", [.held '%' h] =>
      let a ← addressAt k '%' fuel h
      return ((← get).table a).pairs.map (·.2)
    | "values", [.held '@' h] =>
      let a ← addressAt k '@' fuel h
      return ((← get).list a).toList
    | "each", [.held mark h] =>
      let a ← addressAt k mark fuel h
      let m ← get
      let n := (m.rounds[a]?).getD 0
      let pairs : List (List Scalar) :=
        if mark = '%' then (((m.table a).pairs.drop n).take 1).map fun p => [.text p.1, p.2]
        else match (m.list a)[n]? with
          | some v => [[.ofNat n, v]]
          | none => []
      match pairs with
      | p :: _ =>
        set { m with rounds := m.rounds.insert a (n + 1) }
        return p
      | [] =>
        set { m with rounds := m.rounds.erase a }
        return []
    | "delete", [.part '@' true h index] =>
      let a ← addressAt k '%' fuel h
      let keys ← all k fuel index
      keys.mapM fun key => do
        let m ← get
        let t := m.table a
        setTable a { t with entries := t.entries.erase key.asText }
        return m.load (.entry a key.asText)
    | "delete", [e] =>
      let s ← spotOf k fuel (undeclared e)
      let m ← get
      let v := m.load s
      match s with
      | .entry a key =>
        let t := m.table a
        setTable a { t with entries := t.entries.erase key }
      | .element a i =>
        let vs := m.list a
        setList a (if i + 1 = vs.size then vs.pop else vs.setIfInBounds i .none)
      | _ => pure ()
      return [v]
    | "reverse", es => return (← allOf k fuel es).reverse
    | "split", es =>
      let text ← match es with
        | _ :: e :: _ => do pure (← one k fuel e).asText
        | _ => do pure (← one k fuel topic).asText
      let limit ← match es with
        | _ :: _ :: e :: _ => do pure (← one k fuel e).int
        | _ => pure 0
      let divider ← match es with
        | [] => pure none
        | e :: _ =>
          if isWordDivider e then pure none
          else match e with
            | .matched (.mk t flags) none _ => do
              let source := (← one k fuel t).asText
              pure (some (← matcherOf source (if source = ['^'] then 'm' :: flags else flags)))
            | e => do
              let source := (← one k fuel e).asText
              if source = [' '] then pure none else pure (some (← matcherOf source []))
      return divide divider text limit
    | "splice", target :: es =>
      let a ← listFor k fuel [target]
      let vs := ((← get).list a).toList
      let given ← allOf k fuel es
      let n : Int := vs.length
      let start := match given with
        | v :: _ => (if v.int < 0 then n + v.int else v.int).toNat
        | [] => 0
      let size := match given with
        | _ :: v :: _ => if v.int < 0 then (n - start + v.int).toNat else v.int.toNat
        | _ => vs.length
      setList a (vs.take start ++ given.drop 2 ++ vs.drop (start + size)).toArray
      return (vs.drop start).take size
    | "localtime", es =>
      let d ← dateOf false (← allOf k fuel es)
      return dateParts d ((← get).environment.zone.isSummer d.seconds)
    | "gmtime", es => return dateParts (← dateOf true (← allOf k fuel es)) false
    | "stat", es => fileNumbers (← one k fuel (es.headD topic)) false
    | "lstat", es => fileNumbers (← one k fuel (es.headD topic)) true
    | "glob", es => pathsFor (← lastOf k fuel (if es.isEmpty then [topic] else es)).asText
    | "unpack", es =>
      let vs ← allOf k fuel es
      let source ← match vs with
        | _ :: v :: _ => pure v
        | _ => one k fuel topic
      let form := (vs.headD .none).asText
      return unpacked (form.length + 1) form source.asText
    | "qx", [e] =>
      let text ← outputOf k (← one k fuel e).asText
      let (lines, isEnded) := linesOf text
      return lines.mapIdx fun i cs =>
        .text (if isEnded || i + 1 < lines.length then cs ++ ['\n'] else cs)
    | "readdir", [e] =>
      let first ← applyAll k "nextname" fuel [e]
      if first.isEmpty then return [] else return first ++ (← applyAll k "readdir" fuel [e])
    | "nextname", [e] =>
      match ← conduitOf? (← one k fuel e) with
      | some n =>
        match (← get).conduits[n]? with
        | some p =>
          match p.names with
          | name :: names =>
            setConduit n { p with names := names }
            return [.text name]
          | [] => return []
        | none => return []
      | none => return []
    | "readline", [e] => all k fuel (.input (some e))
    | "->", es => callMethod k true fuel es
    | "caller", _ => return [.text "main".toList, .text (← get).title, .ofNat (← get).line]
    | "times", _ => return [.real 0, .real 0, .real 0, .real 0]
    | "eval", es =>
      let text := (← lastOf k fuel es).asText
      evalText k true fuel text
    | "wantarray", _ => return [.ofBool (← get).wantsList]
    | name, es => return [← applyOne k name fuel es]

/-- The values of statements: those of the last one. -/
def bodyValue (k : Plan) (isPlural : Bool) : Nat → List Statement → Act (List Scalar)
  | 0, _ => fault "Deep recursion".toList
  | fuel + 1, body => do
    match body with
    | [] => return []
    | [.plain line e] =>
      if line ≠ 0 then modify fun m => { m with line := line }
      let vs ← if isPlural then all k fuel e else do pure [← one k fuel e]
      serveSignals k fuel
      return vs
    | [.block _ body] => inBraces (bodyValue k isPlural fuel body)
    | [.branch line cases otherwise] =>
      if line ≠ 0 then modify fun m => { m with line := line }
      match cases with
      | (c, chosen) :: rest =>
        let v ← one k fuel c
        if v.isTrue then bodyValue k isPlural fuel chosen
        else if rest.isEmpty && otherwise.isEmpty then return [v]
        else bodyValue k isPlural fuel [.branch 0 rest otherwise]
      | [] => bodyValue k isPlural fuel otherwise
    | s :: rest =>
      runStatement k fuel s
      bodyValue k isPlural fuel rest

/-- Runs statements one after the other. -/
def runAll (k : Plan) : Nat → List Statement → Act Unit
  | 0, _ => fault "Deep recursion".toList
  | fuel + 1, body => do
    match body with
    | [] => return ()
    | s :: rest =>
      runStatement k fuel s
      runAll k fuel rest

/-- Deals with the signals that have been noticed. -/
def serveSignals (k : Plan) : Nat → Act Unit
  | 0 => return ()
  | fuel + 1 => do
    let m ← get
    match m.noticed with
    | [] => return ()
    | signal :: rest =>
      set { m with noticed := rest }
      let name : Bytes := (signalLabel signal).toList
      let a ← addressOf "%SIG".toList
      let routine := match (← get).load (.entry a name) with
        | .link .routine r => m.closures[r]?
        | .text cs => m.routine? (plainName cs)
        | _ => none
      match routine with
      | some r => let _ ← callRoutine k false [.text name] fuel r
      | none => pure ()
      serveSignals k fuel

/-- Runs a statement. -/
def runStatement (k : Plan) : Nat → Statement → Act Unit
  | 0, _ => fault "Deep recursion".toList
  | fuel + 1, s => do
    match s with
    | .plain line e =>
      if line ≠ 0 then modify fun m => { m with line := line }
      let _ ← one k fuel e
      serveSignals k fuel
    | .block label body =>
      let result ← oneRound k fuel body
      let _ ← goesOn label result
    | .branch line cases otherwise =>
      if line ≠ 0 then modify fun m => { m with line := line }
      match cases with
      | (c, chosen) :: rest =>
        if (← one k fuel c).isTrue then
          match chosen with
          | [.plain _ _] => runAll k fuel chosen
          | chosen => inBraces (runAll k fuel chosen)
        else runStatement k fuel (.branch 0 rest otherwise)
      | [] => inBraces (runAll k fuel otherwise)
    | .loop label line start condition after body =>
      inBraces do
        if line ≠ 0 then modify fun m => { m with line := line }
        match start with
        | some e => let _ ← one k fuel e
        | none => pure ()
        rounds k label ((condition.map (Statement.plain line)).toList) after fuel body
    | .again line body condition => do
      if line ≠ 0 then modify fun m => { m with line := line }
      runAll k fuel body
      if (← one k fuel condition).isTrue then runStatement k fuel s
    | .each label line target values body =>
      if line ≠ 0 then modify fun m => { m with line := line }
      let spots ← spotsOf k fuel values
      match target with
      | .declared _ (.held mark (.named name)) =>
        eachRound k label (mark :: name) true body fuel spots
      | .held _ (.named name) =>
        let isOwn := (← get).isDeclared ('$' :: name)
        eachRound k label ('$' :: name) isOwn body fuel spots
      | _ => return ()
    | .routine name body =>
      let m ← get
      let names := if m.names.length ≤ 1 then [] else m.names
      set { m with routines := m.routines.insert name ⟨body, names⟩ }
    | .phase false body => inBraces (runAll k fuel body)
    | .phase true body => modify fun m => { m with endings := (body, m.names) :: m.endings }

/-- Runs the statements of a loop once, and again if they ask for it. -/
def oneRound (k : Plan) : Nat → List Statement → Act (Except Halt Unit)
  | 0, _ => fault "Deep recursion".toList
  | fuel + 1, body => do
    match ← tried (inBraces (runAll k fuel body)) with
    | .error .redo => oneRound k fuel body
    | result => return result

/-- The rounds of a loop with a condition. -/
def rounds (k : Plan) (label : Bytes) (condition after : List Statement) :
    Nat → List Statement → Act Unit
  | 0, _ => fault "Deep recursion".toList
  | fuel + 1, body => do
    let answer ← bodyValue k false fuel condition
    if condition.isEmpty || ((answer.getLast?).getD .none).isTrue then
      letPass roundTime
      let result ← oneRound k fuel body
      if ← goesOn label result then
        runAll k fuel after
        rounds k label condition after fuel body

/-- The rounds of a loop over spots: the variable stands for each of them. -/
def eachRound (k : Plan) (label name : Bytes) (isOwn : Bool) (body : List Statement) :
    Nat → List Spot → Act Unit
  | 0, _ => fault "Deep recursion".toList
  | fuel + 1, spots => do
    match spots with
    | [] => return ()
    | s :: rest =>
      let v := (← get).load s
      let result ← tried (if isOwn then
          inBraces (do
            let a ← declare name
            keep (.cell a) v
            let result ← oneRound k fuel body
            keep s ((← get).load (.cell a))
            match result with
            | .ok _ => return ()
            | .error h => throw h)
        else standingFor name s (do
            match ← oneRound k fuel body with
            | .ok _ => return ()
            | .error h => throw h))
      if ← goesOn label result then eachRound k label name isOwn body fuel rest

end

end LinkWatch.Host.Sigil
