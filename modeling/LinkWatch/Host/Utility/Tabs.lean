import LinkWatch.Host.Utility.Stream

/-!
# Tabs and blanks

Tabs go to the next stop. They are replaced by blanks, or blanks by them.
-/

namespace LinkWatch.Host.Utility

open LinkWatch.Text LinkWatch.Host.Kernel

/-- Where tabs go: to given columns, and after the last one to columns at a distance. -/
structure TabStops where
  columns : List Nat := []
  /-- The distance of the stops after the last column. -/
  every : Option Nat := none
  /-- Whether the distance counts from the last column, and not from the first. -/
  isRelative : Bool := false

/-- The next stop after a column, if there is one. -/
def TabStops.next? (t : TabStops) (column : Nat) : Option Nat :=
  match t.columns.find? fun c => column < c with
  | some c => some c
  | none =>
    t.every.map fun n =>
      let start := if t.isRelative then t.columns.getLast?.getD 0 else 0
      column + (n - (column - start) % n)

/-- Reads a list of stops. -/
def readTabStops (texts : List Bytes) : Except Bytes TabStops :=
  let parts := texts.flatMap fun text =>
    (pieces ',' (text.map fun c => if isBlankChar c then ',' else c)).filter (· ≠ [])
  let step (t : TabStops) (part : Bytes) : Except Bytes TabStops :=
    let (mark, digits) : Option Char × Bytes := match part with
      | '/' :: rest => (some '/', rest)
      | '+' :: rest => (some '+', rest)
      | rest => (none, rest)
    match natural? digits, mark with
    | none, _ => .error ("tab size contains invalid character(s): ".toList ++ inQuotes part)
    | some n, some m =>
      .ok { t with every := if n = 0 then none else some n, isRelative := m = '+' }
    | some n, none =>
      if n = 0 then .error "tab size cannot be 0".toList
      else if t.columns.getLast?.any (n ≤ ·) then .error "tab sizes must be ascending".toList
      else .ok { t with columns := t.columns ++ [n] }
  (parts.foldlM step {}).map fun t =>
    match t.columns, t.every with
    | [], none => { every := some 8 }
    | [n], none => { every := some n }
    | _, _ => t

/-- A line with blanks in the place of its tabs, perhaps only of those before all else. -/
def expandTabs (t : TabStops) (onlyFirst : Bool) : Bool → Nat → Bytes → Bytes
  | _, _, [] => []
  | converts, column, c :: cs =>
    if !converts then c :: cs
    else if c = '\t' then
      let stop := (t.next? column).getD (column + 1)
      List.replicate (stop - column) ' ' ++ expandTabs t onlyFirst true stop cs
    else if c = '\x08' then c :: expandTabs t onlyFirst (!onlyFirst) (column - 1) cs
    else c :: expandTabs t onlyFirst (!onlyFirst || isBlankChar c) (column + 1) cs

/-- The state of replacing blanks by tabs. -/
structure Tabbing where
  converts : Bool := true
  column : Nat := 0
  /-- Blanks that may still become a tab, in reverse. -/
  pending : Bytes := []
  /-- Whether a single blank stands just before a stop. -/
  isBeforeStop : Bool := false
  wasBlank : Bool := true
  /-- The text so far, in reverse. -/
  output : Bytes := []

/-- Writes the blanks that are pending, and a character. -/
def Tabbing.put (s : Tabbing) (c : Option Char) : Tabbing :=
  let pending := if 1 < s.pending.length && s.isBeforeStop then s.pending.dropLast ++ ['\t']
    else s.pending
  let output := pending ++ s.output
  { s with
    output := c.toList ++ output, pending := []
    isBeforeStop := if s.pending = [] then s.isBeforeStop else false }

/-- Takes up the next character of a line. -/
def Tabbing.take (t : TabStops) (onlyFirst : Bool) (s : Tabbing) (c : Char) : Tabbing :=
  let goesOn (blank : Bool) : Bool := !onlyFirst || blank
  if !s.converts then { s with output := c :: s.output }
  else if isBlankChar c then
    match t.next? s.column with
    | none => { (s.put (some c)) with converts := false, wasBlank := true }
    | some stop =>
      if c = '\t' then
        let pending := if s.pending = [] then [] else s.pending.dropLast ++ ['\t']
        let kept := if s.isBeforeStop then pending.drop (pending.length - 1) else []
        let s := { s with column := stop, pending := kept }
        { (s.put (some c)) with wasBlank := true }
      else
        let column := s.column + 1
        if s.wasBlank && column = stop then
          let pending := if s.pending = [] then ['\t'] else s.pending.dropLast ++ ['\t']
          let kept := if s.isBeforeStop then pending.drop (pending.length - 1) else []
          let s := { s with column := column, pending := kept }
          { (s.put (some '\t')) with wasBlank := true }
        else
          { s with
            column := column, pending := c :: s.pending, wasBlank := true
            isBeforeStop := s.isBeforeStop || column = stop }
  else
    let column := if c = '\x08' then s.column - 1 else s.column + 1
    let s := { s with column := column }
    { (s.put (some c)) with wasBlank := false, converts := goesOn false }

/-- A line with tabs in the place of its blanks, perhaps only of those before all else. -/
def unexpandTabs (t : TabStops) (onlyFirst : Bool) (cs : Bytes) : Bytes :=
  ((cs.foldl (Tabbing.take t onlyFirst) {}).put none).output.reverse

/-- The arguments with stops that are given without a letter made options. -/
def withTabOptions (arguments : List Bytes) : List Bytes :=
  arguments.map fun a => match a with
    | '-' :: d :: rest => if d.isDigit then '-' :: 't' :: d :: rest else a
    | a => a

/-- Replaces tabs by blanks. -/
def expand (c : Call) : Program Nat :=
  let t : OptionTable :=
    { plain := ['i'], valued := ['t'], long := [("tabs", 't'), ("initial", 'i')] }
  ({ c with arguments := withTabOptions c.arguments } : Call).withOptions t 1 fun o =>
    match readTabStops (o.values 't') with
    | .error words => c.refuse 1 words
    | .ok stops =>
      let step : LineStep Unit := fun _ text isEnded =>
        ((), lineAs (expandTabs stops (o.has 'i') true 0 text) isEnded, true)
      overLines c .usual o.operands () step (fun _ => ([], 0)) 1

/-- Replaces blanks by tabs. -/
def unexpand (c : Call) : Program Nat :=
  let t : OptionTable :=
    { plain := ['a', 'f'], valued := ['t'],
      long := [("tabs", 't'), ("all", 'a'), ("first-only", 'f')] }
  ({ c with arguments := withTabOptions c.arguments } : Call).withOptions t 1 fun o =>
    match readTabStops (o.values 't') with
    | .error words => c.refuse 1 words
    | .ok stops =>
      let onlyFirst := o.has 'f' || !(o.has 'a' || o.has 't')
      let step : LineStep Unit := fun _ text isEnded =>
        ((), lineAs (unexpandTabs stops onlyFirst text) isEnded, true)
      overLines c .usual o.operands () step (fun _ => ([], 0)) 1

end LinkWatch.Host.Utility
