import LinkWatch.Host.Utility.Excerpt

/-!
# Lines in an order of chance

Lines, words or numbers are written in an order that looks like one of chance.
-/

namespace LinkWatch.Host.Utility

open LinkWatch.Text LinkWatch.Host.Kernel

/-- The next number of a series that looks like one of chance. -/
def chanceAfter (n : Nat) : Nat :=
  (n * 6364136223846793005 + 1442695040888963407) % 18446744073709551616

/-- Values in an order of chance. -/
def inChanceOrder (seed : Nat) (xs : List Bytes) : List Bytes :=
  let (_, drawn) := xs.foldl (fun (p : Nat × List (Nat × Bytes)) x =>
    (chanceAfter p.1, (chanceAfter p.1 / 65536, x) :: p.2)) (chanceAfter seed, [])
  (drawn.mergeSort fun a b => a.1 ≤ b.1).map Prod.snd

/-- Values drawn again and again. -/
def drawnFrom (xs : Array Bytes) : Nat → Nat → List Bytes
  | 0, _ => []
  | n + 1, seed =>
    let next := chanceAfter seed
    ((xs[next / 65536 % xs.size]?).getD []) :: drawnFrom xs n next

/-- Draws values for ever. -/
def drawForever (c : Call) (xs : Array Bytes) (ending : Char) : Nat → Nat → Program Nat
  | 0, _ => return 0
  | fuel + 1, seed => do
    let drawn := drawnFrom xs 512 seed
    match ← writeTo 1 (drawn.flatMap (· ++ [ending])) with
    | .ok _ => drawForever c xs ending fuel (chanceAfter (seed + fuel))
    | .error e => c.refuse 1 ("write error: ".toList ++ wordsOf e)

/-- A range of numbers. -/
def chanceRange? (cs : Bytes) : Option (Nat × Nat) :=
  match cutAt? '-' cs with
  | some (first, last) =>
    (natural? first).bind fun a => (natural? last).bind fun b => if a ≤ b + 1 then some (a, b)
      else none
  | none => none

/-- Writes lines in an order of chance. -/
def mixLines (c : Call) : Program Nat :=
  let t : OptionTable :=
    { plain := ['e', 'r', 'z'], valued := ['i', 'n', 'o', 's']
      long := [("echo", 'e'), ("input-range", 'i'), ("head-count", 'n'), ("output", 'o'),
        ("random-source", 's'), ("repeat", 'r'), ("zero-terminated", 'z')] }
  c.withOptions t 1 fun o => do
    let ranges := o.values 'i'
    let counts := (o.values 'n').map fun cs => (cs, natural? cs)
    let ending := if o.has 'z' then '\x00' else '\n'
    match ranges.find? fun cs => (chanceRange? cs).isNone, counts.find? fun n => n.2.isNone with
    | some cs, _ => c.refuse 1 ("invalid input range: ".toList ++ inQuotes cs)
    | none, some (cs, _) => c.refuse 1 ("invalid line count: ".toList ++ inQuotes cs)
    | none, none =>
      if 1 < ranges.length then c.refuse 1 "multiple -i options specified".toList
      else if o.has 'e' && ranges ≠ [] then c.misuse 1 "cannot combine -e and -i options".toList
      else
        let most := if ranges ≠ [] then 0 else 1
        match if o.has 'e' then none else (o.operands.drop most).head? with
        | some extra => c.misuse 1 ("extra operand ".toList ++ inQuotes extra)
        | none =>
          let absent ← match o.value? 's' with
            | none => pure none
            | some file => do
              match ← readFile file with
              | .ok _ => pure none
              | .error e => pure (some (shellQuoted file ++ ':' :: ' ' :: wordsOf e))
          let input : Except Bytes (List Bytes) ←
            if o.has 'e' then pure (.ok o.operands)
            else match ranges.head?.bind chanceRange? with
              | some (a, b) => pure (.ok ((List.range (b + 1 - a)).map fun i => digitsOf (a + i)))
              | none => do
                let file := o.operands.headD ['-']
                match ← readFile file with
                | .ok text => pure (.ok (recordsOf ending text))
                | .error .isDirectory => pure (.error "read error: Is a directory".toList)
                | .error e => pure (.error (shellQuoted file ++ ':' :: ' ' :: wordsOf e))
          match input, absent with
          | .error words, _ => c.refuse 1 words
          | .ok _, some words => c.refuse 1 words
          | .ok xs, none =>
            let (self, _) ← request .identity
            let least :=
              (counts.filterMap Prod.snd).foldl min ((counts.filterMap Prod.snd).headD xs.length)
            if o.has 'r' && xs = [] && (counts = [] || least ≠ 0) then
              c.refuse 1 "no lines to repeat".toList
            else if o.has 'r' && counts = [] then drawForever c xs.toArray ending streamFuel self
            else
              let drawn := if o.has 'r' then drawnFrom xs.toArray least self
                else (inChanceOrder self xs).take least
              let text := drawn.flatMap (· ++ [ending])
              match o.value? 'o' with
              | none => c.deliver text 0
              | some file =>
                match ← request (.files fun d => match d.write file text with
                  | .ok d => (none, d)
                  | .error e => (some e, d)) with
                | none => return 0
                | some (e : OsError) => c.refuse 1 (shellQuoted file ++ ':' :: ' ' :: wordsOf e)

end LinkWatch.Host.Utility
