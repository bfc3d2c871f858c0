import LinkWatch.Host.Kernel.Installed
import LinkWatch.Host.Shell.Braces
import LinkWatch.Host.Shell.Calculation
import LinkWatch.Host.Shell.Pattern
import LinkWatch.Host.Shell.Reshaping
import LinkWatch.Host.Shell.State
import LinkWatch.Host.Utility.Condition

/-!
# The values of words

A word is expanded to pieces, of which some may be divided further. The pieces are divided into
fields, and a field that is a pattern stands for the paths that match it.
-/

namespace LinkWatch.Host.Shell

open LinkWatch.Text LinkWatch.Host.Kernel LinkWatch.Host.Utility

/-- A piece of an expanded word. -/
inductive Piece where
  /-- Characters that are not divided. -/
  | fixed (gs : List Glyph)
  /-- Characters that are divided into fields. -/
  | loose (cs : Bytes)
  /-- A place where something has been quoted, so that a field is there even if it is empty. -/
  | mark
  /-- A place between two fields; an empty field before it may count or not. -/
  | cut (keepsEmpty : Bool)
  /-- The end of quoted arguments: in the piece that is divided next, every divider ends a field. -/
  | strict
  /-- Several quoted values of which there are none. -/
  | nothing

/-- Whether a piece stands for values of which there are none. -/
def Piece.isNothing : Piece → Bool
  | .nothing => true
  | _ => false

/-- Quoted characters. -/
def quotedGlyphs (cs : Bytes) : List Glyph :=
  cs.map (⟨·, true⟩)

/-! ## Fields -/

/-- What dividing has come to: the fields, and the one that has begun, in reverse. -/
structure Dividing where
  fields : List (List Glyph) := []
  current : List Glyph := []
  isPresent : Bool := false
  /-- Whether every divider of the next piece ends a field. -/
  isStrict : Bool := false

/-- Ends the field that has begun. -/
def Dividing.close (d : Dividing) (keepsEmpty : Bool) : Dividing :=
  if keepsEmpty || d.isPresent then
    { fields := d.current.reverse :: d.fields, isStrict := d.isStrict }
  else d

/-- Whether a divider is a blank, of which several count as one. -/
def isBlankMark (c : Char) : Bool :=
  c ∈ [' ', '\t', '\n', valueMark]

/-- What follows the divider at the end of a field: blanks, and one divider that is none if the
first one was a blank. -/
def skipDividers (dividers : Bytes) : Bool → Bytes → Bytes
  | _, [] => []
  | mayTake, c :: cs =>
    if !dividers.contains c then c :: cs
    else if isBlankMark c then skipDividers dividers mayTake cs
    else if mayTake then skipDividers dividers false cs
    else c :: cs

/-- Divides a text, with the field that has begun before it. -/
def Dividing.divide (dividers : Bytes) : Nat → Bytes → Dividing → Dividing
  | 0, _, d => d
  | fuel + 1, cs, d =>
    match cs with
    | [] => d
    | c :: rest =>
      if !dividers.contains c then
        divide dividers fuel rest { d with current := ⟨c, false⟩ :: d.current, isPresent := true }
      else
        let isBlank := isBlankMark c && !d.isStrict
        if isBlank && !d.isPresent then divide dividers fuel rest d
        else
          let rest := if d.isStrict then rest else skipDividers dividers isBlank rest
          divide dividers fuel rest (d.close true)

/-- Adds a piece. -/
def Dividing.add (dividers : Bytes) (d : Dividing) (p : Piece) : Dividing :=
  match p with
  | .fixed gs => { d with current := gs.reverse ++ d.current, isPresent := d.isPresent || gs ≠ [] }
  | .loose cs => { d.divide dividers (cs.length + 1) cs with isStrict := false }
  | .mark => { d with isPresent := true }
  | .cut keepsEmpty => d.close keepsEmpty
  | .strict => { d with isStrict := true }
  | .nothing => d

/-- The fields of pieces. -/
def fieldsOf (dividers : Bytes) (pieces : List Piece) : List (List Glyph) :=
  let start : Dividing := {}
  let marks := valueMark :: dividers
  ((pieces.foldl (fun d p => d.add marks p) start).close false).fields.reverse

/-- The characters of pieces that are not divided. -/
def glyphsOfPieces (pieces : List Piece) : List Glyph :=
  pieces.flatMap fun
    | .fixed gs => gs
    | .loose cs => glyphsOf cs
    | _ => []

/-- The text of characters. -/
def glyphText (gs : List Glyph) : Bytes :=
  gs.map Glyph.char

/-! ## Paths that match -/

/-- Parts between slashes. -/
def slashParts (gs : List Glyph) : List (List Glyph) :=
  gs.foldr (fun g parts =>
    if g.char = '/' then [] :: parts
    else
      match parts with
      | part :: rest => (g :: part) :: rest
      | [] => [[g]]) [[]]

/-- The text of a part of a path that is no pattern; a backslash protects what follows it. -/
def plainPart : List Glyph → Bytes
  | [] => []
  | ⟨'\\', false⟩ :: g :: rest => g.char :: plainPart rest
  | g :: rest => g.char :: plainPart rest

/-- How paths are matched. -/
structure PathStyle where
  isPattern : List Glyph → Bool
  isMatch : List Glyph → Bytes → Bool
  /-- Whether a star matches a dot at the start of a name. -/
  showsHidden : Bool := false
  /-- Names that directories have besides those of what is in them. -/
  dots : List Bytes := []
  /-- Whether two stars match directories within directories. -/
  goesDeep : Bool := false

/-- The names in the directory of a path. -/
def namesIn (d : Disk) (path : Bytes) : List Bytes :=
  match d.find (if path = [] then ['.'] else path) with
  | .ok f => d.names f.location
  | .error _ => []

/-- The paths of the directories within a directory, that one included. Links are not followed. -/
def directoriesWithin (style : PathStyle) (d : Disk) : Nat → Bytes → List Bytes
  | 0, path => [path]
  | fuel + 1, path =>
    let inner := (namesIn d path).filter fun n =>
      (n.head? ≠ some '.' || style.showsHidden) && match d.look true (path ++ n) with
        | .ok f => f.node.kind = .directory
        | .error _ => false
    path :: inner.flatMap fun n => directoriesWithin style d fuel (path ++ n ++ ['/'])

/-- The paths that match parts, after a path to a directory. -/
def matchParts (style : PathStyle) (d : Disk) : Bytes → List (List Glyph) → List Bytes
  | path, [] => [path]
  | path, part :: rest =>
    let isLast := rest = []
    let join (path name : Bytes) : Bytes := path ++ name ++ (if isLast then [] else ['/'])
    let go (name : Bytes) : List Bytes :=
      if name = [] then
        if isLast then [path] else matchParts style d (join path []) rest
      else if isLast then
        if (d.look true (join path name)).toOption.isSome then [join path name] else []
      else if d.isDirectory (path ++ name) then matchParts style d (join path name) rest
      else []
    if style.goesDeep && part = [⟨'*', false⟩, ⟨'*', false⟩] then
      let directories := directoriesWithin style d 100 path
      if isLast then
        directories.flatMap fun p =>
          (if p = [] then [] else [p]) ++ (namesIn d p).filterMap fun n =>
            let path := p ++ n
            let isHidden := n.head? = some '.' && !style.showsHidden
            if isHidden || d.isDirectory path then none else some path
      else directories.flatMap fun p => matchParts style d p rest
    else if style.isPattern part then
      let showsHidden := (part.head?.map Glyph.char) = some '.' || style.showsHidden
      let names := style.dots ++ namesIn d path
      (names.filter fun n =>
        (n.head? ≠ some '.' || showsHidden) && style.isMatch part n).flatMap go
    else go (plainPart part)

/-- The paths that a pattern stands for, sorted. -/
def matchingPaths (style : PathStyle) (d : Disk) (gs : List Glyph) : List Bytes :=
  let paths :=
    match slashParts gs with
    | [] :: rest => matchParts style d ['/'] (rest.dropWhile (· = []))
    | parts => matchParts style d [] parts
  let paths := if style.goesDeep then
      paths.map fun p => if p.getLast? = some '/' && 1 < p.length
        && (gs.getLast?).any (·.char ≠ '/') && p ++ ['*', '*'] ≠ glyphText gs
        then p.dropLast else p
    else paths
  (paths.filter (· ≠ [])).mergeSort fun a b => !isBefore b a

/-- How patterns are read and matched in the rich language. -/
def State.shapeStyle (s : State) : ShapeStyle :=
  ⟨s.switched "extglob", s.switched "nocasematch"⟩

/-- How paths are matched. -/
def State.pathStyle (s : State) : PathStyle :=
  if s.isRich then
    let style : ShapeStyle := ⟨s.switched "extglob", s.switched "nocaseglob"⟩
    { isPattern := isShaped style, isMatch := fun gs => (matcherOf style gs).isMatch
      showsHidden := s.switched "dotglob", goesDeep := s.switched "globstar" }
  else { isPattern := isPattern, isMatch := matchesPattern, dots := [['.'], ['.', '.']] }

/-- What a field stands for: the paths that match it if it is a pattern, or itself. -/
def expandField (gs : List Glyph) : Act (List Bytes) := do
  let s ← get
  let style := s.pathStyle
  if s.has 'f' || !style.isPattern gs then return [glyphText gs]
  else
    let paths ← ask (.files fun t => (matchingPaths style t gs, t))
    if paths ≠ [] then return paths
    else if s.isRich && s.switched "failglob" then
      giveUp [] ("no match: ".toList ++ glyphText gs)
    else return if s.isRich && s.switched "nullglob" then [] else [glyphText gs]

/-! ## Home directories -/

/-- The home directory that a text starts with: the directory and the rest of the text. -/
def homeAt? (home : Option Bytes) (isWhole : Bool) (endings : List Char) (cs : Bytes) :
    Option (Bytes × Bytes) :=
  match cs with
  | '~' :: rest =>
    let name := rest.takeWhile fun c => !endings.contains c
    let after := rest.drop name.length
    if after = [] && !isWhole then none
    else if name = [] then home.map (·, after)
    else if name = "root".toList then some ("/root".toList, after)
    else none
  | _ => none

/-- The parts of a word with its home directory at the start. -/
def withHome (home : Option Bytes) (parts : List Part) : List Part :=
  match parts with
  | .text cs :: rest =>
    match homeAt? home (rest = []) ['/'] cs with
    | some (directory, after) => .quoted directory :: .text after :: rest
    | none => parts
  | _ => parts

/-- The parts of a word with the working directory, or the one before it, at the start. -/
def withPlace (s : State) (parts : List Part) : List Part :=
  let placed (name : String) (after : Bytes) (rest : List Part) : List Part :=
    match s.stored? name.toList with
    | some directory =>
      if after = [] || after.head? = some '/' then .quoted directory :: .text after :: rest
      else parts
    | none => parts
  match parts with
  | .text ('~' :: '+' :: after) :: rest => placed "PWD" after rest
  | .text ('~' :: '-' :: after) :: rest => placed "OLDPWD" after rest
  | parts => parts

/-- The text of an assignment with home directories after its colons. -/
def homesAfterColons (home : Option Bytes) (isLast : Bool) : Nat → Bytes → List Part
  | 0, cs => [.text cs]
  | fuel + 1, cs =>
    match homeAt? home isLast ['/', ':'] cs with
    | some (directory, after) => .quoted directory :: homesAfterColons home isLast fuel after
    | none =>
      match cutAt? ':' cs with
      | some (before, after) =>
        .text (before ++ [':']) :: homesAfterColons home isLast fuel after
      | none => [.text cs]

/-- The value of an assignment with its home directories. -/
def withHomes (home : Option Bytes) (parts : List Part) : List Part :=
  match parts with
  | .text cs :: rest => homesAfterColons home (rest = []) (cs.length + 1) cs ++ rest
  | _ => parts

/-! ## Values -/

/-- How commands within words are run. -/
structure Substitute where
  /-- Runs a command for its output. -/
  output : Command → Act Bytes
  /-- Starts a command whose output is read, or input written, by the path that comes back. -/
  stream : Bool → Command → Act Bytes

/-- Whether a value stands for all arguments. -/
def isAllArguments (name : Bytes) : Bool :=
  name = ['@'] || name = ['*']

/-- The pieces of a text where it is quoted or not. -/
def piecesOfText (isQuoted : Bool) (cs : Bytes) : List Piece :=
  if isQuoted then [.fixed (quotedGlyphs cs)] else [.loose cs]

/-- All arguments as one text, with marks between them where fields are wanted. -/
def argumentText (s : State) (name : Bytes) (isQuoted divides : Bool) : Bytes :=
  if !divides || (isQuoted && name = ['*']) || (!isQuoted && (s.stored? "IFS".toList).isNone) then
    s.joinedArguments
  else joinWith [valueMark] s.arguments

/-- The pieces of a text of values, of which quoted ones are fields even if they are empty. -/
def piecesOfValues (isQuoted : Bool) (cs : Bytes) : List Piece :=
  if isQuoted then
    (List.intersperse [Piece.cut true] ((pieces valueMark cs).map (piecesOfText true))).flatten
  else piecesOfText false cs

/-- All arguments, each a field of its own where fields are wanted. -/
def piecesOfArguments (s : State) (name : Bytes) (isQuoted divides : Bool) : List Piece :=
  let pieces := piecesOfValues isQuoted (argumentText s name isQuoted divides)
  if isQuoted && name = ['@'] && s.arguments ≠ [] then pieces ++ [.strict] else pieces

/-- The pieces of several values: fields of their own where fields are wanted. -/
def piecesOfMany (s : State) (isJoined isQuoted divides : Bool) (values : List Bytes) :
    List Piece :=
  let joined := joinWith (if isJoined then s.dividers.take 1 else [' ']) values
  if !divides || (isQuoted && isJoined) then piecesOfText isQuoted joined
  else if isQuoted then
    if values = [] then [.nothing]
    else (List.intersperse [Piece.cut true] (values.map (piecesOfText true))).flatten
  else (List.intersperse [Piece.cut false] (values.map (piecesOfText false))).flatten

/-! ## Numbers in the rich language -/

/-- The words for an expression that has no value. -/
def flawWords (text : Bytes) (f : FormulaFlaw) : Bytes :=
  match f with
  | .message words token =>
    skipSpaces text ++ ':' :: ' ' :: words.toList ++ " (error token is \"".toList ++ token
      ++ "\")".toList
  | .unbound name => name ++ ": unbound variable".toList
  | .unclosed => skipSpaces text

/-- Ends the shell for a variable that has no value. -/
def leaveUnbound {α : Type} (words : Bytes) : Act α := do
  warn words
  throw (.exit (if (← get).copies = 0 then 127 else 1))

/-- Evaluates an expression of the rich language, and changes the variables that it changes. -/
def reckonRich (text : Bytes) : Act (Except FormulaFlaw Int) := do
  (["RANDOM", "LINENO", "BASHPID"] : List String).forM fun name =>
    if (Text.cut? name.toList text).isSome then refresh name.toList else pure ()
  let s ← get
  match calculate (s.has 'u') s.contents text with
  | .ok (n, changed) =>
    changed.reverse.forM fun c => assignContents false c.1 c.2
    return .ok n
  | .error (.unbound name) => leaveUnbound (name ++ ": unbound variable".toList)
  | .error f => return .error f

/-- The number that an expression of the rich language stands for. -/
def numberOf (text : Bytes) : Act Int := do
  match ← reckonRich text with
  | .ok n => return n
  | .error f => giveUp [] (flawWords text f)

/-- The place that a text names in the contents of a variable. -/
def keyIn (name : Bytes) (c : Contents) (text : Bytes) : Act Key := do
  match c with
  | .table _ => return .name text
  | _ =>
    let n ← numberOf text
    let n := if n < 0 then n + c.limit else n
    if n < 0 then giveUp [] (name ++ '[' :: text ++ "]: bad array subscript".toList)
    else return .number n.toNat

/-- The variable and the place that a text names. -/
def targetOf? (text : Bytes) : Option (Bytes × Place) :=
  match cutAt? '[' text with
  | some (name, key) =>
    if isName name && key.getLast? = some ']' then
      match key.dropLast with
      | ['@'] => some (name, .all false)
      | ['*'] => some (name, .all true)
      | key => some (name, .key [.text key])
    else none
  | none =>
    let isParameter := isName text || (text ≠ [] && text.all Char.isDigit)
      || [['@'], ['*'], ['#'], ['?'], ['-'], ['$'], ['!']].contains text
    if isParameter then some (text, .usual) else none

/-- The values of a parameter in the rich language. -/
structure Held where
  /-- None if there is no value. -/
  values : Option (List Bytes)
  isMany : Bool := false
  /-- Whether several values are joined where they are quoted. -/
  isJoined : Bool := false
  contents : Contents := .nothing
  key : Option Key := none
  /-- The parameter as messages name it. -/
  label : Bytes

/-- The letters of what is declared of a variable. -/
def declaredLetters (b : Binding) : Bytes :=
  let kind := match b.contents with
    | .row _ => ['a']
    | .table _ => ['A']
    | _ => []
  kind ++ (['i', 'n', 'r', 't', 'x', 'l', 'u'].filter fun c =>
    if c = 'r' then b.fixed else if c = 'x' then b.exported else b.traits.contains c)

mutual

/-- Expands the parts of a word. `isInner` tells whether the word belongs to a parameter, so that
its own text is divided; `divides` whether fields are wanted. -/
def expandParts (sub : Substitute) :
    Nat → Bool → Bool → Bool → List Part → Act (List Piece)
  | 0, _, _, _, _ => fail "too deep".toList
  | fuel + 1, isQuoted, isInner, divides, parts => do
    match parts with
    | [] => return []
    | part :: rest =>
      let pieces ← match part with
        | .text cs =>
          if isQuoted then pure [Piece.fixed (quotedGlyphs cs)]
          else if isInner then pure [Piece.loose cs]
          else pure [Piece.fixed (glyphsOf cs)]
        | .quoted cs => pure [Piece.mark, .fixed (quotedGlyphs cs)]
        | .group inside => do
          let s ← get
          let isAll := match inside with
            | [.parameter ['@'] .plain false []] => !s.isRich
            | _ => false
          if isAll && s.arguments = [] then pure []
          else if isAll then
            pure ([Piece.mark] ++ piecesOfArguments s ['@'] true divides ++ [Piece.mark])
          else
            let pieces ← expandParts sub fuel true isInner divides inside
            if !pieces.isEmpty && pieces.all Piece.isNothing then pure []
            else pure ([Piece.mark] ++ pieces ++ [Piece.mark])
        | .parameter name form colon word => do
          if (← get).isRich then
            expandChosen sub fuel isQuoted divides name false .usual form colon word none
          else expandParameter sub fuel isQuoted divides name form colon word
        | .chosen name isIndirect place form colon word other =>
          expandChosen sub fuel isQuoted divides name isIndirect place form colon word other
        | .place inside => do
          let pieces ← expandParts sub fuel isQuoted isInner divides inside
          pure ([Piece.fixed (glyphsOf ['['])] ++ pieces ++ [Piece.fixed (glyphsOf [']'])])
        | .list _ => pure []
        | .stream isOutput c => do
          let path ← sub.stream isOutput c
          pure [Piece.fixed (quotedGlyphs path)]
        | .output c _ => do
          let text ← sub.output c
          pure (piecesOfText isQuoted text)
        | .arithmetic inside => do
          let pieces ← expandParts sub fuel true false false inside
          let text := glyphText (glyphsOfPieces pieces)
          let s ← get
          if s.isRich then
            let n ← numberOf text
            pure (piecesOfText isQuoted (numeralOf n))
          else
            match evaluate s.stored? text with
            | .ok (n, assigned) =>
              assigned.reverse.forM fun a => assign a.1 (numeralOf a.2)
              pure (piecesOfText isQuoted (numeralOf n))
            | .error (.notNumber value) => fail ("Illegal number: ".toList ++ value)
            | .error (.message words) =>
              fail ("arithmetic expression: ".toList ++ words.toList ++ ": \"".toList ++ text
                ++ ['"'])
        | .improper text =>
          giveUp "Bad substitution".toList (text ++ ": bad substitution".toList)
      return pieces ++ (← expandParts sub fuel isQuoted isInner divides rest)

/-- Expands a parameter. -/
def expandParameter (sub : Substitute) :
    Nat → Bool → Bool → Bytes → Form → Bool → List Part → Act (List Piece)
  | 0, _, _, _, _, _, _ => fail "too deep".toList
  | fuel + 1, isQuoted, divides, name, form, colon, word => do
    let s ← get
    let value :=
      if isAllArguments name then some (argumentText s name isQuoted divides) else s.value? name
    let refuse : Act (List Piece) := fail (name ++ ": parameter not set".toList)
    let isMissing := value.isNone || (colon && value = some [])
    let shown : Act (List Piece) := do
      let s ← get
      if isAllArguments name then return piecesOfArguments s name isQuoted divides
      else
        match s.value? name with
        | some text => return piecesOfText isQuoted text
        | none =>
          if s.has 'u' then refuse else return piecesOfText isQuoted []
    let other : Act (List Piece) := do
      let s ← get
      let word := if isQuoted then word else withHome (s.stored? "HOME".toList) word
      expandParts sub fuel isQuoted (!isQuoted) divides word
    match form with
    | .plain => shown
    | .length =>
      match if isAllArguments name then some s.joinedArguments else value with
      | some text => return piecesOfText isQuoted (digitsOf text.length)
      | none =>
        if s.has 'u' && !isAllArguments name then refuse
        else return piecesOfText isQuoted ['0']
    | .missing => if isMissing then other else shown
    | .present => if isMissing then return piecesOfText isQuoted [] else other
    | .assigned =>
      if isMissing then
        if !isName name then fail (name ++ ": bad variable name".toList)
        else
          let pieces ← expandParts sub fuel isQuoted false false word
          assign name (glyphText (glyphsOfPieces pieces))
          shown
      else shown
    | .demanded =>
      if isMissing then
        if word.isEmpty then
          fail (name ++ ": parameter not set".toList ++ (if colon then " or null".toList else []))
        else
          let pieces ← expandParts sub fuel isQuoted false false word
          fail (name ++ ':' :: ' ' :: glyphText (glyphsOfPieces pieces))
      else shown
    | .trimmed atEnd longest =>
      match value with
      | none =>
        if s.has 'u' && !isAllArguments name then refuse else return piecesOfText isQuoted []
      | some text =>
        let pieces ← expandParts sub fuel false false false
          (withHome (s.stored? "HOME".toList) word)
        return piecesOfValues isQuoted (trimmedValues atEnd longest (glyphsOfPieces pieces) text)
    | _ => shown

/-- The text of parts that are not divided. -/
def expandText (sub : Substitute) : Nat → Bool → List Part → Act (List Glyph)
  | 0, _, _ => fail "too deep".toList
  | fuel + 1, isQuoted, parts => do
    let s ← get
    let parts := if isQuoted then parts else withHome (s.stored? "HOME".toList) parts
    let pieces ← expandParts sub fuel isQuoted false false parts
    return glyphsOfPieces pieces

/-- The values that a parameter of the rich language has. -/
def heldBy (sub : Substitute) : Nat → Bytes → Place → Act Held
  | 0, _, _ => fail "too deep".toList
  | fuel + 1, name, place => do
    refresh name
    let s ← get
    let label := if !name.isEmpty && name.all Char.isDigit then '$' :: name else name
    if isAllArguments name then
      let values := if s.arguments = [] then none else some s.arguments
      return { values := values, isMany := true, isJoined := name = ['*'], label := label }
    else
      let c := s.contents name
      match place with
      | .usual =>
        let value := if isName name then c.usual? else s.value? name
        return { values := value.map ([·]), contents := c, label := label }
      | .all isJoined =>
        let values := if c.values = [] then none else some c.values
        return { values := values, isMany := true, isJoined := isJoined, contents := c
                 label := name ++ (if isJoined then "[*]" else "[@]").toList }
      | .key parts =>
        let text := glyphText (← expandText sub fuel false parts)
        let key ← keyIn name c text
        return { values := (c.get? key).map ([·]), contents := c, key := some key
                 label := name ++ '[' :: text ++ [']'] }

/-- Expands a parameter of the rich language. -/
def expandChosen (sub : Substitute) : Nat → Bool → Bool → Bytes → Bool → Place → Form → Bool →
    List Part → Option (List Part) → Act (List Piece)
  | 0, _, _, _, _, _, _, _, _, _ => fail "too deep".toList
  | fuel + 1, isQuoted, divides, name, isIndirect, place, form, colon, word, other => do
    if isIndirect then
      let h ← heldBy sub fuel name place
      let s ← get
      let naming := (s.binding? name).filter fun b => b.traits.contains 'n'
      match naming, h.values with
      | some b, _ => return piecesOfText isQuoted (b.value.getD [])
      | none, some [text] =>
        match targetOf? text with
        | some (name, place) =>
          expandChosen sub fuel isQuoted divides name false place form colon word other
        | none => giveUp [] (text ++ ": invalid variable name".toList)
      | none, _ => giveUp [] (h.label ++ ": invalid indirect expansion".toList)
    else
      let h ← heldBy sub fuel name place
      let s ← get
      let single (value : Bytes) : Act (List Piece) := return piecesOfText isQuoted value
      let refuse : Act (List Piece) := leaveUnbound (h.label ++ ": unbound variable".toList)
      let several (values : List Bytes) : Act (List Piece) := do
        let s ← get
        if h.isMany then return piecesOfMany s h.isJoined isQuoted divides values
        else return piecesOfText isQuoted (values.headD [])
      let shown : Act (List Piece) :=
        match h.values with
        | some values => several values
        | none => if s.has 'u' && !h.isMany then refuse else several []
      let changed (change : Bytes → Bytes) : Act (List Piece) :=
        match h.values with
        | some values => several (values.map change)
        | none => if s.has 'u' && !h.isMany then refuse else several []
      let otherWord : Act (List Piece) := do
        let word := if isQuoted then word else withHome (s.stored? "HOME".toList) word
        expandParts sub fuel isQuoted (!isQuoted) divides word
      let isMissing := match h.values with
        | none => true
        | some values => colon && values.all (· = [])
      let matcher (parts : List Part) : Act Matcher := do
        let gs ← expandText sub fuel false parts
        return matcherOf s.shapeStyle gs
      match form with
      | .plain => shown
      | .length =>
        if h.isMany then single (digitsOf (h.values.getD []).length)
        else
          match h.values with
          | some values => single (digitsOf (values.headD []).length)
          | none => if s.has 'u' then refuse else single ['0']
      | .missing => if isMissing then otherWord else shown
      | .present => if isMissing then single [] else otherWord
      | .assigned =>
        if !isMissing then shown
        else if !isName name then giveUp [] (h.label ++ ": cannot assign in this way".toList)
        else if h.isMany then giveUp [] (h.label ++ ": bad array subscript".toList)
        else
          let text := glyphText (← expandText sub fuel isQuoted word)
          match h.key with
          | some key => assignContents false name (h.contents.put key text)
          | none => assign name text
          single text
      | .demanded =>
        if !isMissing then shown
        else if word.isEmpty then
          leaveUnbound (h.label
            ++ (if colon then ": parameter null or not set" else ": parameter not set").toList)
        else
          let text := glyphText (← expandText sub fuel isQuoted word)
          leaveUnbound (h.label ++ ':' :: ' ' :: text)
      | .trimmed atEnd longest => do
        let m ← matcher word
        changed (m.trim atEnd longest)
      | .replaced extent => do
        let m ← matcher word
        let gs ← match other with
          | some parts => expandText sub fuel false parts
          | none => pure []
        changed (replacedText extent m (replacementOf gs))
      | .recased how every => do
        let m ← matcher word
        changed (recasedText how every fun c => m.shapes.isEmpty || m.isMatch [c])
      | .sliced => do
        let offset ← numberOf (glyphText (← expandText sub fuel true word))
        let size ← match other with
          | some parts => do pure (some (← numberOf (glyphText (← expandText sub fuel true parts))))
          | none => pure none
        let refused (n : Int) : Act (List Piece) :=
          giveUp [] (numeralOf n ++ ": substring expression < 0".toList)
        if isAllArguments name then
          let all := s.name :: s.arguments
          match slicedValues (fun n => all.drop n) all.length offset size with
          | .ok values => several values
          | .error n => refused n
        else if h.isMany then
          match slicedValues h.contents.valuesFrom h.contents.limit offset size with
          | .ok values => several values
          | .error n => refused n
        else
          match h.values with
          | none => if s.has 'u' then refuse else single []
          | some values =>
            match slicedText offset size (values.headD []) with
            | .ok text => single text
            | .error n => refused n
      | .shown letter =>
        let b := (s.meant? name).getD { name := name }
        let traits := (if isName name then declaredLetters b else [])
        match letter with
        | 'a' => single traits
        | 'A' =>
          if h.values.isNone then several []
          else
            let start := if traits = [] then [] else "declare -".toList ++ traits ++ [' ']
            if h.isMany then single (start ++ name ++ declaredValue h.contents)
            else changed fun v => start ++ name ++ '=' :: reusable v
        | 'K' =>
          if h.isMany && isName name then single (pairedText h.contents)
          else changed (shownText letter)
        | 'k' =>
          if h.isMany && isName name then several (h.contents.entries.flatMap fun e => [e.1, e.2])
          else changed (shownText letter)
        | _ => changed (shownText letter)
      | .keys =>
        let keys := if isAllArguments name then [] else h.contents.entries.map Prod.fst
        several keys
      | .named =>
        let names := (s.bindings.filter fun b =>
          name.isPrefixOf b.name && b.contents ≠ .nothing).map Binding.name
        several (names.mergeSort fun a b => !isBefore b a)

end

/-- Enough fuel for every word. -/
def wordFuel : Nat := 100000

/-- The fields of a word. -/
def expandWord (sub : Substitute) (w : Word) : Act (List Bytes) := do
  let s ← get
  let home := s.stored? "HOME".toList
  let parts := match if s.isRich then assignment? true w.parts else none, w.parts with
    | some (.mk name none false value), .text _ :: _ =>
      Part.text (name ++ ['=']) :: withHomes home value
    | _, parts => withHome home (if s.isRich then withPlace s parts else parts)
  match parts with
  | [.text cs] =>
    if cs.all fun c => isNameChar c || c ∈ ['-', '/', '.', ':', '=', ',', '+', '%', '@'] then
      return [cs]
    else expand parts
  | _ => expand parts
where
  /-- The fields of parts. -/
  expand (parts : List Part) : Act (List Bytes) := do
    let pieces ← expandParts sub wordFuel false false true parts
    let s ← get
    let fields := fieldsOf s.dividers pieces
    let found ← fields.mapM expandField
    return found.flatten

/-- The words that a word stands for once its braces are expanded. -/
def bracedWords (w : Word) : Act (List Word) := do
  let s ← get
  return if s.isRich && s.has 'B' then expandBraces w else [w]

/-- The fields of words. -/
def expandWords (sub : Substitute) (ws : List Word) : Act (List Bytes) := do
  let words ← ws.mapM bracedWords
  let fields ← words.flatten.mapM (expandWord sub)
  return fields.flatten

/-- The characters of a word that is not divided. -/
def expandWhole (sub : Substitute) (parts : List Part) : Act (List Glyph) := do
  let s ← get
  let pieces ← expandParts sub wordFuel false false false
    (withHome (s.stored? "HOME".toList) parts)
  return glyphsOfPieces pieces

/-- The value of an assignment. -/
def expandValue (sub : Substitute) (parts : List Part) : Act Bytes := do
  let s ← get
  let pieces ← expandParts sub wordFuel false false false
    (withHomes (s.stored? "HOME".toList) parts)
  return glyphText (glyphsOfPieces pieces)

/-- The text of a document. -/
def expandDocument (sub : Substitute) (parts : List Part) : Act Bytes := do
  let pieces ← expandParts sub wordFuel true false false parts
  return glyphText (glyphsOfPieces pieces)

end LinkWatch.Host.Shell
