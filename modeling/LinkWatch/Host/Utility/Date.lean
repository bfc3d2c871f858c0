import LinkWatch.Host.Utility.DateReader

/-!
# Showing dates

A program that shows the present time or a date in words, in a format.
-/

namespace LinkWatch.Host.Utility

open LinkWatch.Text LinkWatch.Host.Kernel

/-- The zone that the variables of a program name. -/
def Environment.zone (environment : Environment) : Zone :=
  .ofVariable (environment.lookup "TZ".toList)

/-- The present time: seconds and nanoseconds. -/
def presentTime : Program (Int × Nat) := do
  let now ← (request (.files fun d => (d.now, d)) : Program Nat)
  return ((now / 1000000000 : Nat), now % 1000000000)

/-- The format of a date as programs exchange it, with so many parts of the time. -/
def isoFormat? (parts : Bytes) (mark : String) (zone : String) : Option String :=
  let names := ["date", "hours", "minutes", "seconds", "ns"]
  let found := match names.filter fun n => parts.isPrefixOf n.toList with
    | [n] => some n
    | _ => names.find? fun n => n.toList = parts
  found.bind fun n =>
    match n with
    | "date" => some "%Y-%m-%d"
    | "hours" => some ("%Y-%m-%d" ++ mark ++ "%H" ++ zone)
    | "minutes" => some ("%Y-%m-%d" ++ mark ++ "%H:%M" ++ zone)
    | "seconds" => some ("%Y-%m-%d" ++ mark ++ "%H:%M:%S" ++ zone)
    | "ns" =>
      some ("%Y-%m-%d" ++ mark ++ "%H:%M:%S" ++ (if mark = "T" then "," else ".") ++ "%N" ++ zone)
    | _ => none

/-- The moment that digits name: month, day, hour, minute, perhaps a year, perhaps a second. -/
def digitsMoment? (own : Zone) (present : Int × Nat) (cs : Bytes) : Option Int :=
  let (main, second) := match cutAt? '.' cs with
    | some (a, b) => (a, some b)
    | none => (cs, none)
  let two (i : Nat) : Nat := (readBased 10 ((main.drop i).take 2)).1
  let now := own.moment present.1 0
  let year : Int := match main.length with
    | 8 => now.year
    | 10 => fullYear (two 8) 2
    | _ => two 8 * 100 + two 10
  let seconds : Option Nat := match second with
    | none => some 0
    | some s => if s.length = 2 then natural? s else none
  if !main.all Char.isDigit || !(main.length ∈ [8, 10, 12]) then none
  else
    seconds.bind fun s =>
      let m := two 0
      let d := two 2
      if m < 1 || 12 < m || d < 1 || 31 < d || 23 < two 4 || 59 < two 6 || 60 < s then none
      else
        let shown := clockSeconds year m d (two 4) (two 6) s
        let at_ := Moment.ofSeconds shown 0
        if at_.month = m && at_.day = d then some (own.secondsOf shown none) else none

/-- Shows a date. -/
def date (c : Call) : Program Nat :=
  let t : OptionTable :=
    { plain := ['u', 'R'], valued := ['d', 'r', 'f', 's', 'I', 'z']
      long := [("utc", 'u'), ("universal", 'u'), ("uct", 'u'), ("date", 'd'), ("rfc-email", 'R'),
        ("rfc-822", 'R'), ("rfc-2822", 'R'), ("iso-8601", 'I'), ("rfc-3339", 'z'), ("file", 'f'),
        ("reference", 'r'), ("set", 's')] }
  let arguments := c.arguments.map fun a =>
    if a = ['-', 'I'] then "-Idate".toList
    else if a = "--iso-8601".toList then "--iso-8601=date".toList else a
  Call.withOptions { c with arguments := arguments } t 1 fun o => do
    let zone := if o.has 'u' then Zone.universal else c.environment.zone
    let present ← presentTime
    let sources := ['d', 'r', 'f'].filter o.has
    let formats := (o.flags.filter fun f => f.1 ∈ ['R', 'I', 'z']).length
    let format : Except Bytes (Option String) := match o.value? 'I', o.value? 'z' with
      | some parts, _ =>
        match isoFormat? parts "T" "%:z" with
        | some f => .ok (some f)
        | none => .error ("invalid argument '".toList ++ parts ++ "' for '--iso-8601'".toList)
      | none, some parts =>
        match if parts.isPrefixOf "hours".toList || parts.isPrefixOf "minutes".toList then none
            else isoFormat? parts " " "%:z" with
        | some f => .ok (some f)
        | none => .error ("invalid argument '".toList ++ parts ++ "' for '--rfc-3339'".toList)
      | none, none => .ok (if o.has 'R' then some "%a, %d %b %Y %H:%M:%S %z" else none)
    match format with
    | .error words => c.misuse 1 words
    | .ok given =>
      let isMeant := sources ≠ [] || o.has 's'
      let operandFormat := o.operands.head?.bind fun a => match a with
        | '+' :: f => some f
        | _ => none
      if 1 < sources.length then
        c.misuse 1 "the options to specify dates for printing are mutually exclusive".toList
      else if sources ≠ [] && o.has 's' then
        c.misuse 1 "the options to print and set the time may not be used together".toList
      else if 1 < o.operands.length then
        c.misuse 1 ("extra operand '".toList ++ (o.operands[1]?).getD [] ++ ['\''])
      else if 1 < formats || (given.isSome && operandFormat.isSome) then
        c.refuse 1 "multiple output formats specified".toList
      else if isMeant && o.operands ≠ [] && operandFormat.isNone then
        c.misuse 1 ("the argument '".toList ++ o.operands.headD []
          ++ "' lacks a leading '+';\n".toList
          ++ "when using an option to specify date(s), any non-option\n".toList
          ++ "argument must be a format string beginning with '+'".toList)
      else
        let shape : Bytes := match operandFormat, given with
          | some f, _ => f
          | none, some f => f.toList
          | none, none => "%a %b %e %H:%M:%S %Z %Y".toList
        let text (m : Int × Nat) : Bytes := line ((zone.moment m.1 m.2).inFormat shape)
        let invalid (words : Bytes) : Bytes := "invalid date '".toList ++ words ++ ['\'']
        let set_ (words : Bytes) (m : Option (Int × Nat)) : Program Nat :=
          match m with
          | none => c.refuse 1 (invalid words)
          | some m => do
            c.complain "cannot set date: Operation not permitted".toList
            c.deliver (text m) 1
        match o.value? 's', o.value? 'd', o.value? 'r', o.value? 'f' with
        | some words, _, _, _ => set_ words (dateOf? zone present words)
        | none, some words, _, _ =>
          match dateOf? zone present words with
          | some m => c.deliver (text m) 0
          | none => c.refuse 1 (invalid words)
        | none, none, some path, _ =>
          let found ← (request (.files fun d => ((d.find path).map fun f => f.node.time, d)) :
            Program (Except OsError Nat))
          match found with
          | .ok time => c.deliver (text ((time / 1000000000 : Nat), time % 1000000000)) 0
          | .error e => c.refuse 1 (path ++ ':' :: ' ' :: wordsOf e)
        | none, none, none, some path =>
          match ← readFile path with
          | .error e => c.refuse 1 (path ++ ':' :: ' ' :: wordsOf e)
          | .ok all =>
            let results := (linesOf all).1.map fun l => (l, dateOf? zone present l)
            let status := if results.all fun r => r.2.isSome then 0 else 1
            results.forM fun r => if r.2.isNone then c.complain (invalid r.1) else return ()
            c.deliver (results.flatMap fun r => r.2.elim [] text) status
        | none, none, none, none =>
          match o.operands, operandFormat with
          | words :: _, none =>
            set_ words ((digitsMoment? zone present words).map (·, 0))
          | _, _ => c.deliver (text present) 0

end LinkWatch.Host.Utility
