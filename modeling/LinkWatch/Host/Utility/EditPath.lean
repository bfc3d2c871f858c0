import Std.Data.HashMap
import LinkWatch.Text.Bytes

/-!
# Shortest ways from one list to another

A way from one list of lines to another leaves out some of the first and adds some of the second. A
shortest way is found from both ends at once, and divided where the two searches meet. Runs of
changes are then moved as far down as they can be, and joined with each other where that is
possible.
-/

namespace LinkWatch.Host.Utility

open LinkWatch.Text

/-- What is changed between two lists: which of the first are left out, and which of the second
added. -/
structure Changes where
  removed : Array Bool
  added : Array Bool

/-! ## Where two searches meet -/

/-- Two lists of classes of lines, of which a part is compared. -/
structure Span2 where
  xs : Array Nat
  ys : Array Nat
  xStart : Nat
  xStop : Nat
  yStart : Nat
  yStop : Nat

/-- How far two searches have come on each diagonal. -/
structure Fronts where
  forward : Array Int
  backward : Array Int
  forwardLow : Int
  forwardHigh : Int
  backwardLow : Int
  backwardHigh : Int

/-- The index of a diagonal. -/
def Span2.index (s : Span2) (d : Int) : Nat :=
  (d + (s.ys.size : Int) + 2).toNat

/-- Follows equal lines forward. -/
def Span2.slide (s : Span2) : Nat → Int → Int → Int
  | 0, x, _ => x
  | fuel + 1, x, y =>
    if x < s.xStop && y < s.yStop && s.xs[x.toNat]? = s.ys[y.toNat]? then
      s.slide fuel (x + 1) (y + 1)
    else x

/-- Follows equal lines backward. -/
def Span2.slideBack (s : Span2) : Nat → Int → Int → Int
  | 0, x, _ => x
  | fuel + 1, x, y =>
    if s.xStart < x && s.yStart < y && s.xs[(x - 1).toNat]? = s.ys[(y - 1).toNat]? then
      s.slideBack fuel (x - 1) (y - 1)
    else x

/-- A value that no search comes to. -/
def farAway (s : Span2) : Int :=
  s.xs.size + s.ys.size + 10

/-- Takes a step forward on each second diagonal from one down to another. The place where the
searches meet ends it. -/
def Span2.stepForward (s : Span2) (isOdd : Bool) : Nat → Int → Fronts → Except (Nat × Nat) Fronts
  | 0, _, f => .ok f
  | fuel + 1, d, f =>
    if d < f.forwardLow then .ok f
    else
      let low := f.forward.getD (s.index (d - 1)) (-1)
      let high := f.forward.getD (s.index (d + 1)) (-1)
      let start := if low < high then high else low + 1
      let x := s.slide (s.xs.size + 1) start (start - d)
      let f := { f with forward := f.forward.setIfInBounds (s.index d) x }
      if isOdd && f.backwardLow ≤ d && d ≤ f.backwardHigh
          && f.backward.getD (s.index d) (farAway s) ≤ x then .error (x.toNat, (x - d).toNat)
      else s.stepForward isOdd fuel (d - 2) f

/-- Takes a step backward on each second diagonal from one down to another. -/
def Span2.stepBackward (s : Span2) (isOdd : Bool) : Nat → Int → Fronts → Except (Nat × Nat) Fronts
  | 0, _, f => .ok f
  | fuel + 1, d, f =>
    if d < f.backwardLow then .ok f
    else
      let low := f.backward.getD (s.index (d - 1)) (farAway s)
      let high := f.backward.getD (s.index (d + 1)) (farAway s)
      let start := if low < high then low else high - 1
      let x := s.slideBack (s.xs.size + 1) start (start - d)
      let f := { f with backward := f.backward.setIfInBounds (s.index d) x }
      if !isOdd && f.forwardLow ≤ d && d ≤ f.forwardHigh
          && x ≤ f.forward.getD (s.index d) (-1) then .error (x.toNat, (x - d).toNat)
      else s.stepBackward isOdd fuel (d - 2) f

/-- The place where a search from the start and one from the end meet. -/
def Span2.meet (s : Span2) : Nat → Bool → Fronts → Nat × Nat
  | 0, _, _ => (s.xStop, s.yStop)
  | fuel + 1, isOdd, f =>
    let least : Int := (s.xStart : Int) - s.yStop
    let greatest : Int := (s.xStop : Int) - s.yStart
    let f : Fronts :=
      if least < f.forwardLow then
        { f with
          forwardLow := f.forwardLow - 1
          forward := f.forward.setIfInBounds (s.index (f.forwardLow - 2)) (-1) }
      else { f with forwardLow := f.forwardLow + 1 }
    let f : Fronts :=
      if f.forwardHigh < greatest then
        { f with
          forwardHigh := f.forwardHigh + 1
          forward := f.forward.setIfInBounds (s.index (f.forwardHigh + 2)) (-1) }
      else { f with forwardHigh := f.forwardHigh - 1 }
    let steps := s.xs.size + s.ys.size + 3
    match s.stepForward isOdd steps f.forwardHigh f with
    | .error place => place
    | .ok f =>
      let f : Fronts :=
        if least < f.backwardLow then
          { f with
            backwardLow := f.backwardLow - 1
            backward := f.backward.setIfInBounds (s.index (f.backwardLow - 2)) (farAway s) }
        else { f with backwardLow := f.backwardLow + 1 }
      let f : Fronts :=
        if f.backwardHigh < greatest then
          { f with
            backwardHigh := f.backwardHigh + 1
            backward := f.backward.setIfInBounds (s.index (f.backwardHigh + 2)) (farAway s) }
        else { f with backwardHigh := f.backwardHigh - 1 }
      match s.stepBackward isOdd steps f.backwardHigh f with
      | .error place => place
      | .ok f => s.meet fuel isOdd f

/-- The place where a part is divided. -/
def Span2.middle (s : Span2) : Nat × Nat :=
  let size := s.xs.size + s.ys.size + 5
  let first : Int := (s.xStart : Int) - s.yStart
  let last : Int := (s.xStop : Int) - s.yStop
  let f : Fronts :=
    { forward := (Array.replicate size (-1)).setIfInBounds (s.index first) s.xStart
      backward := (Array.replicate size (farAway s)).setIfInBounds (s.index last) s.xStop
      forwardLow := first, forwardHigh := first, backwardLow := last, backwardHigh := last }
  s.meet size ((first - last) % 2 ≠ 0) f

/-- A part without equal lines at its start. -/
def Span2.withoutStart (s : Span2) : Nat → Span2
  | 0 => s
  | fuel + 1 =>
    if s.xStart < s.xStop && s.yStart < s.yStop && s.xs[s.xStart]? = s.ys[s.yStart]? then
      withoutStart { s with xStart := s.xStart + 1, yStart := s.yStart + 1 } fuel
    else s

/-- A part without equal lines at its end. -/
def Span2.withoutStop (s : Span2) : Nat → Span2
  | 0 => s
  | fuel + 1 =>
    if s.xStart < s.xStop && s.yStart < s.yStop && s.xs[s.xStop - 1]? = s.ys[s.yStop - 1]? then
      withoutStop { s with xStop := s.xStop - 1, yStop := s.yStop - 1 } fuel
    else s

/-- Flags set from one place up to another, where places stand for others. -/
def setFlags (flags : Array Bool) (places : Array Nat) (start stop : Nat) : Array Bool :=
  (List.range (stop - start)).foldl (fun flags i =>
    flags.setIfInBounds (places.getD (start + i) 0) true) flags

/-- Notes a shortest way through a part. -/
def Span2.compare (xPlaces yPlaces : Array Nat) : Nat → Span2 → Changes → Changes
  | 0, _, c => c
  | fuel + 1, s, c =>
    let s := s.withoutStart (s.xs.size + 1)
    let s := s.withoutStop (s.xs.size + 1)
    if s.xStart = s.xStop then { c with added := setFlags c.added yPlaces s.yStart s.yStop }
    else if s.yStart = s.yStop then
      { c with removed := setFlags c.removed xPlaces s.xStart s.xStop }
    else
      let (x, y) := s.middle
      let c := Span2.compare xPlaces yPlaces fuel { s with xStop := x, yStop := y } c
      Span2.compare xPlaces yPlaces fuel { s with xStart := x, yStart := y } c

/-! ## Moving runs of changes -/

/-- Whether a flag is set; outside there are none. -/
def flagAt (flags : Array Bool) (i : Int) : Bool :=
  if i < 0 then false else flags.getD i.toNat false

/-- The first place from one on where no flag is set. -/
def nextClear (flags : Array Bool) : Nat → Int → Int
  | 0, i => i
  | fuel + 1, i => if flagAt flags i then nextClear flags fuel (i + 1) else i

/-- The last place before one where no flag is set. -/
def lastClear (flags : Array Bool) : Nat → Int → Int
  | 0, i => i - 1
  | fuel + 1, i => if flagAt flags (i - 1) then lastClear flags fuel (i - 1) else i - 1

/-- A run of changes: where it starts and stops, and the place in the other list. -/
structure Run where
  flags : Array Bool
  start : Int
  stop : Int
  other : Int
  /-- The last place where there is a run in the other list as well. -/
  matching : Option Int := none

/-- What does not change while runs are moved. -/
structure RunContext where
  lines : Array Nat
  others : Array Bool

/-- Enough steps to go through both lists. -/
def RunContext.fuel (k : RunContext) : Nat :=
  k.lines.size + k.others.size + 2

/-- Whether two lines are the same. -/
def RunContext.areSame (k : RunContext) (i j : Int) : Bool :=
  k.lines[i.toNat]? = k.lines[j.toNat]?

/-- Moves a run up as long as the line before it is the same as its last one. -/
def RunContext.moveUp (k : RunContext) : Nat → Run → Run
  | 0, r => r
  | fuel + 1, r =>
    if 0 < r.start && k.areSame (r.start - 1) (r.stop - 1) then
      let flags :=
        (r.flags.setIfInBounds (r.start - 1).toNat true).setIfInBounds (r.stop - 1).toNat false
      let start := lastClear flags k.fuel (r.start - 1) + 1
      k.moveUp fuel { r with
        flags := flags, start := start, stop := r.stop - 1,
        other := lastClear k.others k.fuel r.other }
    else r

/-- The place after a line of the other list, and the last place so far where a run stands in it. -/
def RunContext.passOther (k : RunContext) (stop : Int) : Nat → Int → Option Int → Int × Option Int
  | 0, other, matching => (other, matching)
  | fuel + 1, other, matching =>
    if flagAt k.others (other + 1) then k.passOther stop fuel (other + 1) (some stop)
    else (other + 1, matching)

/-- Moves a run down as long as its first line is the same as the one after it. -/
def RunContext.moveDown (k : RunContext) : Nat → Run → Run
  | 0, r => r
  | fuel + 1, r =>
    if r.stop < k.lines.size && k.areSame r.start r.stop then
      let flags := (r.flags.setIfInBounds r.start.toNat false).setIfInBounds r.stop.toNat true
      let stop := nextClear flags k.fuel (r.stop + 1)
      let (other, matching) := k.passOther stop k.fuel r.other r.matching
      k.moveDown fuel { flags := flags, start := r.start + 1, stop := stop, other := other,
                        matching := matching }
    else r

/-- Moves a run up and down until it has met no other one. -/
def RunContext.settle (k : RunContext) : Nat → Run → Run
  | 0, r => r
  | fuel + 1, r =>
    let up := k.moveUp k.fuel r
    let up := { up with matching := if flagAt k.others (up.other - 1) then some up.stop else none }
    let down := k.moveDown k.fuel up
    if down.stop - down.start = r.stop - r.start then down else k.settle fuel down

/-- Moves a run up to a place. -/
def RunContext.moveTo (k : RunContext) (place : Int) : Nat → Run → Run
  | 0, r => r
  | fuel + 1, r =>
    if place < r.stop then
      let flags :=
        (r.flags.setIfInBounds (r.start - 1).toNat true).setIfInBounds (r.stop - 1).toNat false
      k.moveTo place fuel { r with
        flags := flags, start := r.start - 1, stop := r.stop - 1,
        other := lastClear k.others k.fuel r.other }
    else r

/-- Goes over unchanged lines. -/
def RunContext.skip (k : RunContext) (flags : Array Bool) : Nat → Int → Int → Int × Int
  | 0, i, other => (i, other)
  | fuel + 1, i, other =>
    if i < k.lines.size && !flagAt flags i then
      k.skip flags fuel (i + 1) (nextClear k.others k.fuel other + 1)
    else (i, other)

/-- Moves all runs from a place on. -/
def RunContext.moveRuns (k : RunContext) : Nat → Array Bool → Int → Int → Array Bool
  | 0, flags, _, _ => flags
  | fuel + 1, flags, i, other =>
    let (start, other) := k.skip flags k.fuel i other
    if (k.lines.size : Int) ≤ start then flags
    else
      let stop := nextClear flags k.fuel start
      let r := k.settle k.fuel
        { flags := flags, start := start, stop := stop, other := nextClear k.others k.fuel other }
      let r := match r.matching with
        | some place => k.moveTo place k.fuel r
        | none => r
      k.moveRuns fuel r.flags r.stop r.other

/-! ## The way -/

/-- Numbers for the classes of lines in two lists. -/
def classesOf (xs ys : List Bytes) : Array Nat × Array Nat :=
  let number (p : Std.HashMap Bytes Nat × List Nat) (line : Bytes) :
      Std.HashMap Bytes Nat × List Nat :=
    match p.1[line]? with
    | some n => (p.1, n :: p.2)
    | none => (p.1.insert line p.1.size, p.1.size :: p.2)
  let (known, first) := xs.foldl number ({}, [])
  let (_, second) := ys.foldl number (known, [])
  (first.reverse.toArray, second.reverse.toArray)

/-- A shortest way from one list of lines to another. -/
def changesBetween (xs ys : List Bytes) : Changes :=
  let (xClasses, yClasses) := classesOf xs ys
  let count := xs.length + ys.length + 1
  let occurs (classes : Array Nat) : Array Bool :=
    classes.foldl (fun flags n => flags.setIfInBounds n true) (Array.replicate count false)
  let kept (classes : Array Nat) (others : Array Bool) : Array Nat :=
    ((List.range classes.size).filter fun i => others.getD (classes.getD i 0) false).toArray
  let xPlaces := kept xClasses (occurs yClasses)
  let yPlaces := kept yClasses (occurs xClasses)
  let unkept (classes : Array Nat) (others : Array Bool) : Array Bool :=
    classes.map fun n => !others.getD n false
  let start : Changes := ⟨unkept xClasses (occurs yClasses), unkept yClasses (occurs xClasses)⟩
  let s : Span2 :=
    { xs := xPlaces.map fun i => xClasses.getD i 0, ys := yPlaces.map fun i => yClasses.getD i 0
      xStart := 0, xStop := xPlaces.size, yStart := 0, yStop := yPlaces.size }
  let found := Span2.compare xPlaces yPlaces (count + 1) s start
  let removed :=
    ({ lines := xClasses, others := found.added } : RunContext).moveRuns count found.removed 0 0
  let added :=
    ({ lines := yClasses, others := removed } : RunContext).moveRuns count found.added 0 0
  ⟨removed, added⟩

/-- A change: the places in both lists where it begins, how many lines are left out, and how many
are added. -/
structure Change where
  first : Nat
  second : Nat
  removed : Nat
  added : Nat
  deriving DecidableEq

/-- The changes in order. -/
def Changes.list (c : Changes) : Nat → Nat → Nat → List Change
  | 0, _, _ => []
  | fuel + 1, i, j =>
    if c.removed.size ≤ i && c.added.size ≤ j then []
    else
      let iStop := (nextClear c.removed (c.removed.size + 1) i).toNat
      let jStop := (nextClear c.added (c.added.size + 1) j).toNat
      if iStop = i && jStop = j then c.list fuel (i + 1) (j + 1)
      else ⟨i, j, iStop - i, jStop - j⟩ :: c.list fuel (iStop + 1) (jStop + 1)

end LinkWatch.Host.Utility
