import LinkWatch.Host.Utility.Order

/-!
# Lines that repeat

Neighbouring lines that are the same in a part of them form a group. Of each group the first line is
shown, with the size of the group if that is wanted, or all lines of it.
-/

namespace LinkWatch.Host.Utility

open LinkWatch.Text LinkWatch.Host.Kernel LinkWatch.Decimal

/-- Where lines stand that separate groups. -/
inductive GroupBreak where
  | none
  | separate
  /-- Before each group. -/
  | before
  /-- After each group. -/
  | after
  | both
  deriving DecidableEq

/-- A way to separate groups by its name. -/
def GroupBreak.ofName? (name : Bytes) : Option GroupBreak :=
  let names : List (String × GroupBreak) :=
    [("none", .none), ("separate", .separate), ("prepend", .before), ("append", .after),
      ("both", .both)]
  names.lookup (String.ofList name)

/-- The lines of a group. -/
structure Group where
  /-- The lines that are kept, the last one first. -/
  lines : List Bytes := []
  count : Nat := 0
  /-- Whether a group has been shown before. -/
  hasShown : Bool := false

/-- What is shown of groups. -/
structure GroupView where
  showsCount : Bool
  showsRepeated : Bool
  showsUnique : Bool
  /-- How all lines of groups are shown, if they are. -/
  whole : Option GroupBreak
  /-- Whether groups of one line are shown with those of several. -/
  showsAll : Bool
  ending : Char

/-- Whether a group is shown. -/
def GroupView.wants (v : GroupView) (g : Group) : Bool :=
  g.count ≠ 0 && (v.showsAll
    || ((!v.showsRepeated || 1 < g.count) && (!v.showsUnique || g.count = 1)))

/-- The text of a group. -/
def GroupView.text (v : GroupView) (g : Group) : Bytes :=
  if !v.wants g then []
  else
    match v.whole with
    | some how =>
      let starts := match how with
        | .separate => g.hasShown
        | .before => true
        | .both => true
        | _ => false
      (if starts then [v.ending] else []) ++ g.lines.reverse.flatMap (· ++ [v.ending])
        ++ (if how = .after then [v.ending] else [])
    | none =>
      let count := if v.showsCount then padLeft 7 ' ' (digitsOf g.count) ++ [' '] else []
      count ++ g.lines.getLast?.getD [] ++ [v.ending]

/-- Shows lines that repeat in the way that is asked for. -/
def unique (c : Call) : Program Nat :=
  let t : OptionTable :=
    { plain := ['c', 'd', 'D', 'u', 'i', 'z', 'G']
      valued := ['f', 's', 'w', 'A', 'H']
      long := [("count", 'c'), ("repeated", 'd'), ("unique", 'u'), ("ignore-case", 'i'),
        ("skip-fields", 'f'), ("skip-chars", 's'), ("check-chars", 'w'), ("zero-terminated", 'z'),
        ("all-repeated-as", 'A'), ("group-as", 'H')] }
  let arguments := c.arguments.map fun (a : Bytes) =>
    if a = "--all-repeated".toList then ['-', 'D']
    else if a = "--group".toList then "--group-as=separate".toList
    else
      match stripPrefix? "--all-repeated=".toList a, stripPrefix? "--group=".toList a, a with
      | some how, _, _ => "--all-repeated-as=".toList ++ how
      | _, some how, _ => "--group-as=".toList ++ how
      | _, _, '-' :: d :: _ => if d.isDigit then '-' :: 'f' :: a.drop 1 else a
      | _, _, a => a
  Call.withOptions { c with arguments := arguments } t 1 fun o =>
    let badNumber := ['f', 's', 'w'].findSome? fun flag =>
      (o.value? flag).bind fun v => if (natural? v).isNone then some (flag, v) else none
    let repeats : Option (Option GroupBreak) :=
      if o.has 'A' then some ((o.value? 'A').bind GroupBreak.ofName?)
      else if o.has 'D' then some (some .none) else none
    let groups : Option (Option GroupBreak) :=
      if o.has 'H' then some ((o.value? 'H').bind GroupBreak.ofName?) else none
    match badNumber, repeats, groups with
    | some (flag, v), _, _ =>
      let what := if flag = 'f' then "fields to skip" else if flag = 's' then "bytes to skip"
        else "bytes to compare"
      c.refuse 1 (v ++ ": invalid number of ".toList ++ what.toList)
    | none, some none, _ => c.misuse 1 "invalid argument for '--all-repeated'".toList
    | none, _, some none => c.misuse 1 "invalid argument for '--group'".toList
    | none, _, _ =>
      let number (flag : Char) : Option Nat := (o.value? flag).bind natural?
      let skipField (cs : Bytes) : Bytes :=
        (cs.dropWhile isBlankChar).dropWhile fun c => !isBlankChar c
      let fields := min ((number 'f').getD 0) 100000
      let part (cs : Bytes) : Bytes :=
        let cs := (List.range fields).foldl (fun cs _ => if cs = [] then [] else skipField cs) cs
        let cs := cs.drop ((number 's').getD 0)
        let cs := (number 'w').elim cs cs.take
        if o.has 'i' then cs.map Char.toLower else cs
      let view : GroupView :=
        { showsCount := o.has 'c', showsUnique := o.has 'u'
          showsRepeated := o.has 'd' || repeats.isSome
          whole := (groups.getD none).or (repeats.getD none), showsAll := groups.isSome
          ending := if o.has 'z' then '\x00' else '\n' }
      if groups.isSome && (o.has 'c' || o.has 'd' || o.has 'u' || repeats.isSome) then
        c.misuse 1 "--group is mutually exclusive with -c/-d/-D/-u".toList
      else if repeats.isSome && o.has 'c' then
        c.misuse 1 "printing all duplicated lines and repeat counts is meaningless".toList
      else if 2 < o.operands.length then
        c.misuse 1 ("extra operand '".toList ++ (o.operands[2]?).getD [] ++ ['\''])
      else
        let step : LineStep Group := fun g text _ =>
          let isSame := g.lines.head?.any fun before => part before = part text
          if isSame then
            let kept := if view.whole.isSome then text :: g.lines else g.lines
            ({ g with lines := kept, count := g.count + 1 }, [], true)
          else
            let shown := view.text g
            (⟨[text], 1, g.hasShown || view.wants g⟩, shown, true)
        let finish (g : Group) : Bytes × Nat :=
          let ends := view.whole = some .both && g.count ≠ 0
          (view.text g ++ (if ends then [view.ending] else []), 0)
        let work := overRecords view.ending c .usual (o.operands.take 1) {} step finish 1
        match o.operands[1]? with
        | none => work
        | some ['-'] => work
        | some file => do
          match ← request (.open 1 file .write false) with
          | .error e => c.refuse 1 (file ++ ':' :: ' ' :: wordsOf e)
          | .ok _ => work

end LinkWatch.Host.Utility
