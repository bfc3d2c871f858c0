import LinkWatch.Host.Utility.Stream

/-!
# Fields of lines

Parts of lines, chosen by the numbers of their bytes or fields, and lines of several files put side
by side.
-/

namespace LinkWatch.Host.Utility

open LinkWatch.Text LinkWatch.Host.Kernel

/-- Numbers from one on, up to another one if it is given. -/
structure Span where
  first : Nat
  last : Option Nat
  deriving DecidableEq

/-- Whether a number lies in a span. -/
def Span.contains (s : Span) (n : Nat) : Bool :=
  s.first ≤ n && s.last.all (n ≤ ·)

/-- A span given by its ends. -/
def spanOf? (cs : Bytes) : Option Span :=
  match cutAt? '-' cs with
  | none => (natural? cs).map fun n => ⟨n, some n⟩
  | some ([], []) => none
  | some ([], last) => (natural? last).map fun n => ⟨1, some n⟩
  | some (first, []) => (natural? first).map fun n => ⟨n, none⟩
  | some (first, last) => (natural? first).bind fun m => (natural? last).map fun n => ⟨m, some n⟩

/-- Spans with commas or blanks between them. -/
def spansOf (cs : Bytes) : Except Bytes (List Span) :=
  (pieces ',' (cs.map fun c => if isBlankChar c then ',' else c)).mapM fun p =>
    match spanOf? p with
    | none => .error ("invalid field range".toList)
    | some s =>
      if s.first = 0 then .error "fields are numbered from 1".toList
      else if s.last.any (· < s.first) then .error "invalid decreasing range".toList
      else .ok s

/-- The chosen parts of a list, from number one on. -/
def chosenParts {α : Type} (wanted : Nat → Bool) (parts : List α) : List α :=
  (parts.mapIdx fun i p => (i + 1, p)).filterMap fun p => if wanted p.1 then some p.2 else none

/-- Spans in their order, those that overlap made one. -/
def mergedSpans (spans : List Span) : List Span :=
  let sorted := spans.mergeSort fun a b => a.first ≤ b.first
  (sorted.foldl (fun (done : List Span) s =>
    match done with
    | [] => [s]
    | d :: rest =>
      if d.last.all (s.first ≤ ·) then
        ⟨d.first, d.last.bind fun m => s.last.map fun n => max m n⟩ :: rest
      else s :: d :: rest) []).reverse

/-- The spans between some spans that are in their order. -/
def gapsBetween : Nat → List Span → List Span
  | start, [] => [⟨start, none⟩]
  | start, s :: rest =>
    let before : List Span := if start < s.first then [⟨start, some (s.first - 1)⟩] else []
    match s.last with
    | some last => before ++ gapsBetween (last + 1) rest
    | none => before

/-- The parts of lines that are cut out. -/
structure Cutting where
  spans : List Span
  isOfFields : Bool
  mark : Char
  /-- What stands between the parts of the output. -/
  between : Bytes
  /-- Whether lines without a mark are left out. -/
  needsMark : Bool
  ending : Char

/-- What is cut out of a line. -/
def Cutting.line (k : Cutting) (text : Bytes) : Bytes :=
  let wanted (n : Nat) : Bool := k.spans.any (·.contains n)
  if k.isOfFields then
    let parts := pieces k.mark text
    if parts.length ≤ 1 then if k.needsMark then [] else text ++ [k.ending]
    else joinWith k.between (chosenParts wanted parts) ++ [k.ending]
  else if k.between = [] then chosenParts wanted text ++ [k.ending]
  else
    let starts (n : Nat) : Bool := k.spans.any fun s => s.first = n
    let chosen := (text.mapIdx fun i d => (i + 1, d)).filter fun p => wanted p.1
    let shown := chosen.mapIdx fun i p => if 0 < i && starts p.1 then k.between ++ [p.2] else [p.2]
    shown.flatten ++ [k.ending]

/-- Cuts parts out of lines. -/
def cut (c : Call) : Program Nat :=
  let t : OptionTable :=
    { plain := ['s', 'n', 'z', 'C']
      valued := ['b', 'c', 'f', 'd', 'O']
      long := [("bytes", 'b'), ("characters", 'c'), ("fields", 'f'), ("delimiter", 'd'),
        ("only-delimited", 's'), ("complement", 'C'), ("output-delimiter", 'O'),
        ("zero-terminated", 'z')] }
  c.withOptions t 1 fun o =>
    let lists := o.flags.filter fun f => f.1 ∈ ['b', 'c', 'f']
    match lists with
    | [] => c.misuse 1 "you must specify a list of bytes, characters, or fields".toList
    | _ :: _ :: _ => c.misuse 1 "only one list may be specified".toList
    | [(kind, list)] =>
      let isOfFields := kind = 'f'
      let delimiter := (o.value? 'd').getD ['\t']
      if !isOfFields && (o.value? 'd').isSome then
        c.misuse 1 "an input delimiter may be specified only when operating on fields".toList
      else if !isOfFields && o.has 's' then
        c.misuse 1
          "suppressing non-delimited lines makes sense\n\tonly when operating on fields".toList
      else if delimiter.length > 1 then
        c.misuse 1 "the delimiter must be a single character".toList
      else
        match spansOf list with
        | .error words => c.misuse 1 words
        | .ok spans =>
          let spans := mergedSpans spans
          let mark := delimiter.headD '\x00'
          let between := match o.value? 'O' with
            | some [] => ['\x00']
            | some text => text
            | none => if isOfFields then [mark] else []
          let k : Cutting :=
            { spans := if o.has 'C' then gapsBetween 1 spans else spans, isOfFields := isOfFields
              mark := mark, between := between, needsMark := o.has 's'
              ending := if o.has 'z' then '\x00' else '\n' }
          let step : LineStep Unit := fun _ text _ => ((), k.line text, true)
          overRecords k.ending c .usual o.operands () step (fun _ => ([], 0)) 1

/-- The marks that a list of delimiters stands for. -/
def delimitersOf : Bytes → List Bytes
  | [] => []
  | '\\' :: c :: rest =>
    let mark : Bytes := match c with
      | 'n' => ['\n']
      | 't' => ['\t']
      | '0' => []
      | 'b' => ['\x08']
      | 'f' => ['\x0c']
      | 'r' => ['\r']
      | 'v' => ['\x0b']
      | c => [c]
    mark :: delimitersOf rest
  | c :: rest => [c] :: delimitersOf rest

/-- Parts with marks between them, which are used in turn. -/
def joinInTurn (marks : List Bytes) : Nat → List Bytes → Bytes
  | _, [] => []
  | _, [p] => p
  | i, p :: rest => p ++ (marks[i % marks.length]?).getD [] ++ joinInTurn marks (i + 1) rest

/-- Puts lines side by side. -/
def paste (c : Call) : Program Nat :=
  let t : OptionTable :=
    { plain := ['s', 'z'], valued := ['d']
      long := [("delimiters", 'd'), ("serial", 's'), ("zero-terminated", 'z')] }
  c.withOptions t 1 fun o => do
    let marks := match delimitersOf ((o.value? 'd').getD ['\t']) with
      | [] => [[]]
      | marks => marks
    let files := if o.operands = [] then [['-']] else o.operands
    let shares := (files.filter (· = ['-'])).length
    let input ← if shares > 0 then readAll 0 else pure (.ok [])
    let ending := if o.has 'z' then '\x00' else '\n'
    let inputLines := recordsOf ending (input.toOption.getD [])
    let contents ← (files.mapIdx fun i f => (i, f)).mapM fun (i, file) => do
      if file = ['-'] then
        let rank := ((files.take i).filter (· = ['-'])).length
        if o.has 's' then return some (if rank = 0 then inputLines else [])
        else return some (chosenParts (fun n => (n - 1) % shares = rank) inputLines)
      else
        match ← readFile file with
        | .ok text => return some (recordsOf ending text)
        | .error e =>
          c.complain (Wording.usual.opening file e)
          return none
    let known := contents.filterMap id
    if known.length < contents.length && !o.has 's' then return 1
    else
      let text :=
        if o.has 's' then known.flatMap fun lines => joinInTurn marks 0 lines ++ [ending]
        else
          let height := (known.map List.length).foldl max 0
          (List.range height).flatMap fun i =>
            joinInTurn marks 0 (known.map fun lines => (lines[i]?).getD []) ++ [ending]
      c.deliver text (if known.length < contents.length then 1 else 0)

end LinkWatch.Host.Utility
