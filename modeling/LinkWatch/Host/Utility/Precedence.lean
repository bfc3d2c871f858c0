import LinkWatch.Host.Utility.Order

/-!
# What comes before what

Pairs of names, of which the first is to come before the second, give an order of all names. Names
that nothing has to come before any more are taken in the order of their texts at first, and then as
they become free. If there is a loop, a pair of it is given up.
-/

namespace LinkWatch.Host.Utility

open LinkWatch.Text LinkWatch.Host.Kernel

/-- A name with how many names are still to come before it, and those that come after it, the newest
first. -/
structure Ranked where
  name : Bytes
  count : Nat := 0
  after : List Bytes := []
  isTaken : Bool := false

/-- All names, in the order of their texts. -/
abbrev Ranking := List Ranked

/-- The list with a name in it. -/
def Ranking.insert (r : Ranking) (name : Bytes) : Ranking :=
  match r with
  | [] => [{ name := name }]
  | x :: rest =>
    if x.name = name then x :: rest
    else if isBefore name x.name then { name := name } :: x :: rest
    else x :: Ranking.insert rest name

/-- The list with a change of one name. -/
def Ranking.change (r : Ranking) (name : Bytes) (f : Ranked → Ranked) : Ranking :=
  r.map fun x => if x.name = name then f x else x

/-- The list with a pair of names. -/
def Ranking.addPair (r : Ranking) (first second : Bytes) : Ranking :=
  let r := (r.insert first).insert second
  if first = second then r
  else
    (r.change first fun x => { x with after := second :: x.after }).change second fun x =>
      { x with count := x.count + 1 }

/-- The list without one of the pairs of two names. -/
def Ranking.dropPair (r : Ranking) (first second : Bytes) : Ranking :=
  (r.change first fun x => { x with after := x.after.erase second }).change second fun x =>
    { x with count := x.count - 1 }

/-- Takes the names that are free, and those that become free by that. -/
def Ranking.take : Nat → List Bytes → Ranking → List Bytes → Ranking × List Bytes
  | 0, _, r, out => (r, out)
  | fuel + 1, queue, r, out =>
    match queue with
    | [] => (r, out)
    | name :: queue =>
      let after := ((r.find? fun x => x.name = name).map Ranked.after).getD []
      let r := r.change name fun x => { x with isTaken := true }
      let step (p : Ranking × List Bytes) (next : Bytes) : Ranking × List Bytes :=
        let r := p.1.change next fun x => { x with count := x.count - 1 }
        let isFree := (r.find? fun x => x.name = next).any fun x => x.count = 0
        (r, if isFree then p.2 ++ [next] else p.2)
      let (r, queue) := after.foldl step (r, queue)
      Ranking.take fuel queue r (name :: out)

/-- Looks for a loop: goes through the names again and again, each time from a name to one that
comes before it. The trace holds the names that have been gone through, the last one first; the
answer is the loop. -/
def Ranking.findLoop (r : Ranking) : Nat → List Ranked → List Bytes → List Bytes
  | 0, _, trace => trace
  | fuel + 1, names, trace =>
    match names with
    | [] => if trace = [] then [] else Ranking.findLoop r fuel r trace
    | x :: rest =>
      if x.count = 0 then Ranking.findLoop r fuel rest trace
      else
        match trace with
        | [] => Ranking.findLoop r fuel rest [x.name]
        | last :: _ =>
          if !x.after.contains last then Ranking.findLoop r fuel rest trace
          else if trace.dropLast.contains x.name then
            trace.takeWhile (· ≠ x.name) ++ [x.name]
          else Ranking.findLoop r fuel rest (x.name :: trace)

/-- All names in order, and the loops that have been broken. -/
def Ranking.order : Nat → Ranking → List Bytes → List (List Bytes) → List Bytes × List (List Bytes)
  | 0, _, out, loops => (out, loops)
  | fuel + 1, r, out, loops =>
    let free := (r.filter fun x => x.count = 0 && !x.isTaken).map Ranked.name
    let (r, out) := Ranking.take (r.length + 1) free r out
    if r.all Ranked.isTaken then (out, loops)
    else
      let loop := Ranking.findLoop r ((r.length + 2) * (r.length + 2)) r []
      match loop, loop.getLast? with
      | first :: _, some last => Ranking.order fuel (r.dropPair last first) out (loop :: loops)
      | _, _ => (out, loops)

/-- Puts names in an order that pairs ask for. -/
def orderNames (c : Call) : Program Nat :=
  c.withOptions { plain := [] } 1 fun o => do
    let file := o.operands.headD ['-']
    if 1 < o.operands.length then
      c.misuse 1 ("extra operand '".toList ++ (o.operands[1]?).getD [] ++ ['\''])
    else
      match ← readFile file with
      | .error e => c.refuse 1 (Wording.usual.opening file e)
      | .ok text =>
        let blank (d : Char) : Char := if d = '\n' || d = '\t' then ' ' else d
        let words := (pieces ' ' (text.map blank)).filter (· ≠ [])
        if words.length % 2 = 1 then
          c.refuse 1 (file ++ ": input contains an odd number of tokens".toList)
        else
          let rec pairs : List Bytes → Ranking → Ranking
            | a :: b :: rest, r => pairs rest (r.addPair a b)
            | _, r => r
          let r := pairs words []
          let (out, loops) := Ranking.order (words.length + 1) r [] []
          loops.reverse.forM fun loop => do
            c.complain (file ++ ": input contains a loop:".toList)
            loop.forM c.complain
          c.deliver (out.reverse.flatMap line) (if loops = [] then 0 else 1)

end LinkWatch.Host.Utility
