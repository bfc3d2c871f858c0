import LinkWatch.Decimal.Fixed
import LinkWatch.Host.Shell.Syntax

/-!
# Braces

A word with alternatives between braces, or with the two ends of a sequence, stands for several
words. Braces are expanded before anything else, so that only what stands in the script counts.
-/

namespace LinkWatch.Host.Shell

open LinkWatch.Text LinkWatch.Decimal

/-- A character that stands unquoted in a word, or one of its other parts. -/
inductive Atom where
  | char (c : Char)
  | part (p : Part)

/-- The atoms of a word. -/
def atomsOf (parts : List Part) : List Atom :=
  parts.flatMap fun
    | .text cs => cs.map .char
    | p => [.part p]

/-- The parts that some atoms form. -/
def partsOf : List Atom → List Part
  | [] => []
  | .part p :: rest => p :: partsOf rest
  | .char c :: rest =>
    match partsOf rest with
    | .text cs :: parts => .text (c :: cs) :: parts
    | parts => .text [c] :: parts

/-- Whether an atom is a certain character. -/
def Atom.is (a : Atom) (c : Char) : Bool :=
  match a with
  | .char d => d = c
  | .part _ => false

/-- Cuts atoms after an opening brace at the one that closes it. -/
def cutBrace : Nat → List Atom → Option (List Atom × List Atom)
  | _, [] => none
  | depth, a :: rest =>
    if a.is '\x7d' && depth = 0 then some ([], rest)
    else
      let depth := if a.is '\x7b' then depth + 1 else if a.is '\x7d' then depth - 1 else depth
      (cutBrace depth rest).map fun p => (a :: p.1, p.2)

/-- The alternatives that are divided by commas outside of inner braces. -/
def alternatives : Nat → List Atom → List (List Atom)
  | _, [] => [[]]
  | depth, a :: rest =>
    if a.is ',' && depth = 0 then [] :: alternatives 0 rest
    else
      let depth := if a.is '\x7b' then depth + 1 else if a.is '\x7d' then depth - 1 else depth
      match alternatives depth rest with
      | first :: others => (a :: first) :: others
      | [] => [[a]]

/-- Numbers from one end to the other, so far apart. -/
def stepsBetween (first last : Int) (step : Nat) : List Int :=
  let step := max 1 step
  let count := (last - first).natAbs / step + 1
  (List.range count).map fun i =>
    if first ≤ last then first + (i * step : Nat) else first - (i * step : Nat)

/-- A number of a sequence with zeros in front of it, up to a width. -/
def paddedNumeral (width : Nat) (n : Int) : Bytes :=
  if n < 0 then '-' :: padLeft (width - 1) '0' (digitsOf n.natAbs)
  else padLeft width '0' (digitsOf n.natAbs)

/-- Whether a number of a sequence is written with zeros in front. -/
def hasPadding (cs : Bytes) : Bool :=
  match cs with
  | '0' :: _ :: _ => true
  | '-' :: '0' :: _ :: _ => true
  | _ => false

/-- The words of a sequence between two ends, perhaps with a step. -/
def sequence? (cs : Bytes) : Option (List Bytes) :=
  let number? (cs : Bytes) : Option Int :=
    match cs with
    | '+' :: digits => (natural? digits).map Int.ofNat
    | '-' :: digits => (natural? digits).map fun n => -(n : Int)
    | digits => (natural? digits).map Int.ofNat
  let steps (first last : Bytes) (step : Int) : Option (List Bytes) :=
    match number? first, number? last, first, last with
    | some m, some n, _, _ =>
      let width := if hasPadding first || hasPadding last then max first.length last.length else 0
      some ((stepsBetween m n step.natAbs).map (paddedNumeral width))
    | none, none, [a], [b] =>
      if a.isAlpha && b.isAlpha then
        some ((stepsBetween a.toNat b.toNat step.natAbs).map fun n => [Char.ofNat n.toNat])
      else none
    | _, _, _, _ => none
  match Text.cut? ['.', '.'] cs with
  | none => none
  | some (first, rest) =>
    match Text.cut? ['.', '.'] rest with
    | none => steps first rest 1
    | some (last, step) => (number? step).bind (steps first last)

/-- The words that a word with braces stands for. -/
def expandAtoms : Nat → List Atom → List (List Atom)
  | 0, atoms => [atoms]
  | fuel + 1, atoms =>
    match atoms with
    | [] => [[]]
    | a :: rest =>
      let plain : List (List Atom) := (expandAtoms fuel rest).map (a :: ·)
      if !a.is '\x7b' then plain
      else
        match cutBrace 0 rest with
        | none => plain
        | some (inside, after) =>
          let product (firsts : List (List Atom)) : List (List Atom) :=
            let lasts := expandAtoms fuel after
            firsts.flatMap fun f => lasts.map fun l => f ++ l
          match alternatives 0 inside with
          | [_] =>
            match (plainText? (partsOf inside)).bind sequence? with
            | some words => product (words.map (·.map .char))
            | none => plain
          | choices => product (choices.flatMap (expandAtoms fuel))

/-- The words that a word stands for once its braces are expanded. One that assigns stays as it
is. -/
def expandBraces (w : Word) : List Word :=
  let parts := w.parts
  let hasBraces := parts.any fun
    | .text cs => cs.contains '\x7b'
    | _ => false
  if !hasBraces || (assignment? true parts).isSome then [w]
  else
    let atoms := atomsOf parts
    (expandAtoms (atoms.length + 1) atoms).map fun atoms => .mk (partsOf atoms)

end LinkWatch.Host.Shell
