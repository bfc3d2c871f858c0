import LinkWatch.Decimal.Fixed
import LinkWatch.Host.Utility.Stream

/-!
# Counting

The lines, words and bytes of inputs, in columns that are as wide as the largest count can be.
-/

namespace LinkWatch.Host.Utility

open LinkWatch.Text LinkWatch.Host.Kernel LinkWatch.Decimal

/-- What has been counted. -/
structure Tally where
  lines : Nat := 0
  words : Nat := 0
  bytes : Nat := 0
  longest : Nat := 0
  /-- The width of the line that has begun. -/
  width : Nat := 0
  isInWord : Bool := false

/-- Counts a piece of input. -/
def Tally.take (t : Tally) (piece : Bytes) : Tally :=
  piece.foldl (fun t c =>
    let isSpace := isSpaceChar c
    let t := { t with
      bytes := t.bytes + 1
      words := if !isSpace && !t.isInWord then t.words + 1 else t.words
      isInWord := !isSpace }
    if c = '\n' then { t with lines := t.lines + 1, longest := max t.longest t.width, width := 0 }
    else if c = '\t' then { t with width := t.width + 8 - t.width % 8 }
    else if c.toNat < 32 || 126 < c.toNat then t
    else { t with width := t.width + 1 }) t

/-- Two counts together. -/
def Tally.add (a b : Tally) : Tally :=
  { lines := a.lines + b.lines, words := a.words + b.words, bytes := a.bytes + b.bytes
    longest := max a.longest b.longest }

/-- Which counts are wanted. -/
structure Columns where
  lines : Bool
  words : Bool
  chars : Bool
  bytes : Bool
  longest : Bool

/-- The wanted counts in their order. -/
def Columns.of (k : Columns) (t : Tally) : List Nat :=
  (if k.lines then [t.lines] else []) ++ (if k.words then [t.words] else [])
    ++ (if k.chars then [t.bytes] else []) ++ (if k.bytes then [t.bytes] else [])
    ++ (if k.longest then [max t.longest t.width] else [])

/-- A row of counts. -/
def Columns.row (k : Columns) (width : Nat) (t : Tally) (name : Bytes) : Bytes :=
  let counts := (k.of t).map fun n => padLeft width ' ' (digitsOf n)
  line (joinWords (counts ++ if name = [] then [] else [name]))

/-- The size of what an operand names: none if there is nothing, and no number if it is no file. -/
def sizeIfFile (file : Bytes) : Program (Option (Option Nat)) := do
  let sizeOf (d : Disk) (number : Nat) : Option Nat :=
    match d.nodes.lookup number with
    | some ⟨.file text, _, _⟩ => some text.length
    | _ => none
  if file = ['-'] then
    match ← request (.inspect 0) with
    | some (.node number) => request (.files fun d => (some (sizeOf d number), d))
    | some _ => return some none
    | none => return none
  else
    request (.files fun d => ((d.find file).toOption.map fun f => sizeOf d f.number, d))

/-- Counts what inputs hold. -/
def wordCount (c : Call) : Program Nat :=
  let t : OptionTable :=
    { plain := ['l', 'w', 'c', 'm', 'L']
      long := [("lines", 'l'), ("words", 'w'), ("bytes", 'c'), ("chars", 'm'),
        ("max-line-length", 'L')] }
  c.withOptions t 1 fun o => do
    let k : Columns :=
      if o.flags = [] then ⟨true, true, false, true, false⟩
      else ⟨o.has 'l', o.has 'w', o.has 'm', o.has 'c', o.has 'L'⟩
    let files := if o.operands = [] then [['-']] else o.operands
    let natures ← files.mapM sizeIfFile
    let sizes := natures.filterMap fun size => size.bind id
    let others := natures.contains (some none)
    let isSingle := files.length = 1 && (k.of {}).length = 1
    let width :=
      if isSingle then 1
      else max (if others then 7 else 1) (digitsOf (sizes.foldl (· + ·) 0)).length
    let w : Worker Tally := { take := fun t piece => (t.take piece, []) }
    let results ← files.mapM fun file => do
      let opened ←
        if file = ['-'] then pure (.ok ()) else request (.open fileDescriptor file .read false)
      match opened with
      | .error e =>
        c.complain (Wording.usual.opening file e)
        return (none, false)
      | .ok _ =>
        let (p, trouble) ← w.pump (if file = ['-'] then 0 else fileDescriptor) streamFuel
          { state := {} }
        if file ≠ ['-'] then request (.close fileDescriptor)
        let isFine ← match trouble with
          | some (.reading e) => do
            c.complain (Wording.usual.reading file e)
            pure false
          | _ => pure true
        return (some (p.state, if o.operands = [] then [] else file), isFine)
    let rows := results.filterMap (·.1)
    let total := rows.foldl (fun t r => t.add { r.1 with longest := max r.1.longest r.1.width }) {}
    let text := rows.flatMap (fun r => k.row width r.1 r.2)
      ++ (if files.length > 1 then k.row width total "total".toList else [])
    c.deliver text (if results.all (·.2) then 0 else 1)

end LinkWatch.Host.Utility
