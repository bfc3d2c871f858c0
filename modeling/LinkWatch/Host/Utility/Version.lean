import LinkWatch.Text.Bytes

/-!
# The order of versions

Names in which numbers count by their values. A tilde comes before everything, even before the end,
then letters, then other characters. What follows the last number as a suffix counts only if all
else is the same.
-/

namespace LinkWatch.Host.Utility

open LinkWatch.Text

/-- The rank of the character that a text starts with, as long as it is no digit. -/
def versionRank : Bytes → Int
  | [] => -1
  | c :: _ =>
    if c.isDigit then 0
    else if c.isAlpha then c.toNat
    else if c = '~' then -2
    else c.toNat + 256

/-- Compares the parts before numbers; what comes after them is returned if they are the same. -/
def compareUntilDigits : Nat → Bytes → Bytes → Except Ordering (Bytes × Bytes)
  | 0, a, b => .ok (a, b)
  | fuel + 1, a, b =>
    let isOther (cs : Bytes) : Bool := cs.head?.any fun c => !c.isDigit
    if !isOther a && !isOther b then .ok (a, b)
    else
      let m := versionRank a
      let n := versionRank b
      if m ≠ n then .error (compare m n) else compareUntilDigits fuel (a.drop 1) (b.drop 1)

/-- Compares texts in which numbers count by their values. -/
def compareNumbered : Nat → Bytes → Bytes → Ordering
  | 0, _, _ => .eq
  | fuel + 1, a, b =>
    if a = [] && b = [] then .eq
    else
      match compareUntilDigits (a.length + b.length + 1) a b with
      | .error order => order
      | .ok (a, b) =>
        let (m, restA) := readBased 10 a
        let (n, restB) := readBased 10 b
        (compare m n).then (compareNumbered fuel restA restB)

/-- The length of a name without its suffix: parts that start with a point and a letter or a
tilde. -/
def versionStem (cs : Bytes) : Nat :=
  let rec skip : Nat → Bytes → Bytes
    | 0, cs => cs
    | fuel + 1, cs =>
      match cs with
      | '.' :: c :: rest =>
        if c.isAlpha || c = '~' then skip fuel (rest.dropWhile fun d => d.isAlphanum || d = '~')
        else cs
      | _ => cs
  let rec go : Nat → Nat → Bytes → Nat
    | 0, stem, _ => stem
    | fuel + 1, stem, rest =>
      match rest with
      | [] => stem
      | _ :: rest => go fuel (cs.length - rest.length) (skip (rest.length + 1) rest)
  go (cs.length + 1) 0 cs

/-- Compares two names as versions. -/
def compareVersions (a b : Bytes) : Ordering :=
  let rank (cs : Bytes) : Nat :=
    if cs = [] then 0
    else if cs = ['.'] then 1
    else if cs = ['.', '.'] then 2
    else if cs.head? = some '.' then 3
    else 4
  (compare (rank a) (rank b)).then
    (let fuel := a.length + b.length + 2
    (compareNumbered fuel (a.take (versionStem a)) (b.take (versionStem b))).then
      (compareNumbered fuel a b))

end LinkWatch.Host.Utility
