import LinkWatch.Host.Shell.Quoting
import LinkWatch.Host.Shell.Shape
import LinkWatch.Host.Shell.Token

/-!
# Changed values

The ways in which the rich language changes a value: other letters, other texts for what matches a
pattern, a part of it, or a form in which it is shown.
-/

namespace LinkWatch.Host.Shell

open LinkWatch.Text

/-! ## Letters -/

/-- A letter changed. -/
def Recasing.apply (how : Recasing) (c : Char) : Char :=
  match how with
  | .upper => c.toUpper
  | .lower => c.toLower
  | .swapped => if c.isUpper then c.toLower else c.toUpper

/-- A text with letters changed where they match: all of them, or only the first one. -/
def recasedText (how : Recasing) (every : Bool) (admits : Char → Bool) (cs : Bytes) : Bytes :=
  let change (c : Char) : Char := if admits c then how.apply c else c
  match cs with
  | [] => []
  | c :: rest => change c :: (if every then rest.map change else rest)

/-! ## Texts for matches -/

/-- A text with something else for what matches a pattern. -/
def replacedText (extent : Extent) (m : Matcher) (word : Bytes → Bytes) (cs : Bytes) : Bytes :=
  let isEmpty := m.shapes.isEmpty
  match extent with
  | .first =>
    if isEmpty then cs else replacePlaces word 0 (m.places false (cs.length + 1) 0 cs) cs
  | .every =>
    if isEmpty then cs else replacePlaces word 0 (m.places true (cs.length + 1) 0 cs) cs
  | .atStart =>
    match (m.sizes cs).max? with
    | some n => word (cs.take n) ++ cs.drop n
    | none => cs
  | .atEnd =>
    match (List.range (cs.length + 1)).find? fun n => m.isMatch (cs.drop n) with
    | some n => cs.take n ++ word (cs.drop n)
    | none => cs

/-- The text that stands for a match: a mark in it stands for what has matched. -/
def replacementOf (gs : List Glyph) (found : Bytes) : Bytes :=
  match gs with
  | [] => []
  | ⟨'\\', false⟩ :: ⟨'&', false⟩ :: rest => '&' :: replacementOf rest found
  | ⟨'&', false⟩ :: rest => found ++ replacementOf rest found
  | g :: rest => g.char :: replacementOf rest found

/-! ## Parts -/

/-- The part of a text from an offset on. A negative offset counts from the end, and so does a
negative size, which then must not stand before the offset. -/
def slicedText (offset : Int) (size : Option Int) (cs : Bytes) : Except Int Bytes :=
  let length : Int := cs.length
  let start := if offset < 0 then length + offset else offset
  if start < 0 || length < start then .ok []
  else
    let rest := cs.drop start.toNat
    match size with
    | none => .ok rest
    | some n =>
      if 0 ≤ n then .ok (rest.take n.toNat)
      else if length + n < start then .error n
      else .ok (rest.take (length + n - start).toNat)

/-- Some of several values from an offset on; the limit is where negative offsets count from. -/
def slicedValues (valuesFrom : Nat → List Bytes) (limit : Nat) (offset : Int) (size : Option Int) :
    Except Int (List Bytes) :=
  let start := if offset < 0 then (limit : Int) + offset else offset
  if start < 0 then .ok []
  else
    match size with
    | none => .ok (valuesFrom start.toNat)
    | some n => if n < 0 then .error n else .ok ((valuesFrom start.toNat).take n.toNat)

/-! ## Forms in which a value is shown -/

/-- A text with its escapes resolved. -/
def resolveDollar : Nat → Bytes → Bytes
  | 0, cs => cs
  | fuel + 1, cs =>
    match cs with
    | [] => []
    | '\\' :: rest =>
      let p := dollarEscape rest
      p.1 ++ resolveDollar fuel p.2
    | c :: rest => c :: resolveDollar fuel rest

/-- A text in a form that a letter names. -/
def shownText (letter : Char) (cs : Bytes) : Bytes :=
  match letter with
  | 'Q' => reusable cs
  | 'U' => cs.map Char.toUpper
  | 'u' => recasedText .upper false (fun _ => true) cs
  | 'L' => cs.map Char.toLower
  | 'E' => resolveDollar (cs.length + 1) cs
  | 'K' => reusable cs
  | 'k' => reusable cs
  | _ => cs

/-- The places and values of a variable, one after another. -/
def pairedText (c : Contents) : Bytes :=
  let isName := match c with
    | .table _ => true
    | _ => false
  let place (k : Bytes) : Bytes := if isName && !isUnquoted k then inDeclaration k else k
  joinWith [' '] (c.entries.map fun e => place e.1 ++ ' ' :: inDeclaration e.2)
    ++ (if isName && c.entries ≠ [] then [' '] else [])

end LinkWatch.Host.Shell
