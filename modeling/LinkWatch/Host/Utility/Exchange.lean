import LinkWatch.Host.Utility.Escape
import LinkWatch.Host.Utility.Stream

/-!
# Exchanging characters

Characters of one set are replaced by those of another one, deleted, or squeezed where they repeat.
-/

namespace LinkWatch.Host.Utility

open LinkWatch.Text LinkWatch.Host.Kernel

/-- A part of a set of characters. -/
inductive SetPart where
  | chars (cs : Bytes)
  /-- A class, by its name. -/
  | named (name : String) (cs : Bytes)
  /-- A character so many times, or as often as needed. -/
  | repeated (c : Char) (count : Option Nat)

/-- All bytes. -/
def allBytes : Bytes :=
  (List.range 256).map Char.ofNat

/-- The members of a class. -/
def classMembers? (name : String) : Option Bytes :=
  let isGraph (c : Char) : Bool := 0x21 ≤ c.toNat && c.toNat ≤ 0x7e
  let only (f : Char → Bool) : Option Bytes := some (allBytes.filter f)
  match name with
  | "alpha" => only Char.isAlpha
  | "digit" => only Char.isDigit
  | "alnum" => only Char.isAlphanum
  | "upper" => only Char.isUpper
  | "lower" => only Char.isLower
  | "space" => only isSpaceChar
  | "blank" => only isBlankChar
  | "cntrl" => only fun c => c.toNat < 0x20 || c.toNat = 0x7f
  | "graph" => only isGraph
  | "print" => only fun c => isGraph c || c = ' '
  | "punct" => only fun c => isGraph c && !c.isAlphanum
  | "xdigit" => only fun c => digitValue c < 16
  | _ => none

/-- A character at the start of a set, which may be written with a backslash. -/
def setCharacter (cs : Bytes) : Option (Char × Bytes) :=
  match cs with
  | [] => none
  | '\\' :: c :: rest =>
    if isOctal c then some (readOctal 3 (c :: rest))
    else if c = 'e' then some ('e', rest)
    else some ((simpleEscape? c).getD c, rest)
  | c :: rest => some (c, rest)

/-- The parts of a set, or what is wrong with it. -/
def setParts : Nat → Bytes → Except Bytes (List SetPart)
  | 0, _ => .ok []
  | fuel + 1, cs =>
    let named : Option (Except Bytes (SetPart × Bytes)) :=
      match cs with
      | '[' :: ':' :: rest =>
        (cut? [':', ']'] rest).map fun (name, after) =>
          match classMembers? (String.ofList name) with
          | some members => .ok (.named (String.ofList name) members, after)
          | none => .error ("invalid character class '".toList ++ name ++ ['\''])
      | '[' :: '=' :: c :: '=' :: ']' :: rest => some (.ok (.chars [c], rest))
      | '[' :: rest =>
        (setCharacter rest).bind fun (c, after) =>
          match after with
          | '*' :: after =>
            let digits := after.takeWhile Char.isDigit
            match after.drop digits.length with
            | ']' :: rest =>
              let n := if digits.head? = some '0' then (readBased 8 digits).1
                else (readBased 10 digits).1
              some (.ok (.repeated c (if n = 0 then none else some n), rest))
            | _ => none
          | _ => none
      | _ => none
    match named with
    | some (.error words) => .error words
    | some (.ok (part, rest)) => (setParts fuel rest).map (part :: ·)
    | none =>
      match setCharacter cs with
      | none => .ok []
      | some (a, '-' :: rest) =>
        match setCharacter rest with
        | none => .ok [.chars [a, '-']]
        | some (b, after) =>
          if b < a then
            .error ("range-endpoints of '".toList ++ [a, '-', b]
              ++ "' are in reverse collating sequence order".toList)
          else
            let range := (List.range (b.toNat + 1 - a.toNat)).map fun i => Char.ofNat (a.toNat + i)
            (setParts fuel after).map (.chars range :: ·)
      | some (a, rest) => (setParts fuel rest).map (.chars [a] :: ·)

/-- The members of a set in their order, as many as needed if some may be repeated. -/
def expandParts (needed : Nat) (parts : List SetPart) : Bytes :=
  let size (p : SetPart) : Nat := match p with
    | .chars cs => cs.length
    | .named _ cs => cs.length
    | .repeated _ count => count.getD 0
  let fixed := (parts.map size).foldl (· + ·) 0
  parts.flatMap fun
    | .chars cs => cs
    | .named _ cs => cs
    | .repeated c count => List.replicate (count.getD (needed - fixed)) c

/-- The pairs of characters that two sets exchange; a class of letters of one case stands for those
of the other case. -/
def exchangePairs (complement truncates : Bool) (from_ into : List SetPart) : List (Char × Char) :=
  let source := expandParts 0 from_
  let source := if complement then allBytes.filter fun c => !source.contains c else source
  let target := expandParts source.length into
  let last := target.getLast?.getD ' '
  let target := if truncates then target
    else target ++ List.replicate (source.length - target.length) last
  source.zip target

/-- The state of an exchange: the last character written. -/
abbrev LastWritten := Option Char

/-- Exchanges, deletes and squeezes the characters of a piece. -/
def exchangePiece (table : Array Char) (deleted squeezed : Array Bool) (last : LastWritten)
    (piece : Bytes) : LastWritten × Bytes :=
  let p := piece.foldl (fun (acc : LastWritten × Bytes) c =>
    if deleted.getD c.toNat false then acc
    else
      let d := table.getD c.toNat c
      if squeezed.getD d.toNat false && acc.1 = some d then acc
      else (some d, d :: acc.2)) (last, [])
  (p.1, p.2.reverse)

/-- Which bytes are members of a set. -/
def memberArray (cs : Bytes) : Array Bool :=
  cs.foldl (fun a c => a.setIfInBounds c.toNat true) (Array.replicate 256 false)

/-- Exchanges characters of the input. -/
def exchange (c : Call) : Program Nat :=
  let t : OptionTable :=
    { plain := ['c', 'C', 'd', 's', 't']
      long := [("complement", 'c'), ("delete", 'd'), ("squeeze-repeats", 's'),
        ("truncate-set1", 't')]
      isStrict := true }
  c.withOptions t 1 fun o =>
    let complement := o.has 'c' || o.has 'C'
    let deletes := o.has 'd'
    let squeezes := o.has 's'
    let wanted := if deletes == squeezes then 2 else 1
    let least := if squeezes && !deletes then 1 else wanted
    let most := if deletes && !squeezes then 1 else 2
    match o.operands with
    | [] => c.misuse 1 "missing operand".toList
    | first :: others =>
      if o.operands.length < least then
        c.misuse 1 ("missing operand after '".toList ++ first
          ++ "'\nTwo strings must be given when ".toList
          ++ (if deletes then "both deleting and squeezing repeats.".toList
            else "translating.".toList))
      else if most < o.operands.length then
        c.misuse 1 ("extra operand '".toList ++ (others.drop (most - 1)).headD [] ++ ['\'']
          ++ (if o.operands.length = 2 then
              "\nOnly one string may be given when deleting without squeezing repeats.".toList
            else []))
      else
        let second := others.headD []
        match setParts (first.length + 1) first, setParts (second.length + 1) second with
        | .error words, _ => c.refuse 1 words
        | _, .error words => c.refuse 1 words
        | .ok a, .ok b =>
          let members := expandParts 0 a
          let inFirst := if complement then allBytes.filter fun c => !members.contains c
            else members
          let translates := !deletes && others ≠ []
          if translates && second = [] && !o.has 't' then
            c.refuse 1 "when not truncating set1, string2 must be non-empty".toList
          else
            let pairs := if translates then exchangePairs complement (o.has 't') a b else []
            let table := pairs.foldl (fun t p => t.setIfInBounds p.1.toNat p.2)
              (Array.ofFn fun i : Fin 256 => Char.ofNat i.val)
            let deleted := memberArray (if deletes then inFirst else [])
            let squeezed := memberArray
              (if !squeezes then [] else if others = [] then inFirst else expandParts 0 b)
            let w : Worker LastWritten := { take := exchangePiece table deleted squeezed }
            w.run c .usual [] none (fun _ => ([], 0)) 1

end LinkWatch.Host.Utility
