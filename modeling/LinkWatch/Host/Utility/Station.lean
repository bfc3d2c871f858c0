import LinkWatch.Host.Utility.Condition
import LinkWatch.Host.Utility.Holdings
import LinkWatch.Host.Utility.Launching
import LinkWatch.Host.Utility.Template

/-!
# Small programs

Programs that write a fixed answer, fill a template, or test a condition.
-/

namespace LinkWatch.Host.Utility

open LinkWatch.Text LinkWatch.Files LinkWatch.Host.Kernel

/-- Tells about the system. -/
def systemName (c : Call) : Program Nat :=
  let t : OptionTable :=
    { plain := "asnrvmpio".toList
      long := [("all", 'a'), ("kernel-name", 's'), ("machine", 'm'), ("operating-system", 'o')] }
  c.withOptions t 1 fun o =>
    if o.operands ≠ [] then
      c.misuse 1 ("extra operand '".toList ++ o.operands.headD [] ++ ['\''])
    else
      let facts : List (Char × String) :=
        [('s', "Linux"), ('n', "localhost"), ('r', "6.1.0"), ('v', "#1 SMP"), ('m', "x86_64"),
          ('p', "unknown"), ('i', "unknown"), ('o', "GNU/Linux")]
      let wanted (f : Char × String) : Bool :=
        if o.has 'a' then f.1 ≠ 'p' && f.1 ≠ 'i'
        else if o.flags = [] then f.1 = 's'
        else o.has f.1
      c.deliver (line (joinWords ((facts.filter wanted).map fun f => f.2.toList))) 0

/-- Tells who runs the program. -/
def identity (c : Call) : Program Nat :=
  c.withOptions { plain := "ugGnrz".toList } 1 fun o =>
    let name := "root".toList
    let text :=
      if o.has 'u' || o.has 'g' || o.has 'G' then (if o.has 'n' then name else ['0'])
      else "uid=0(root) gid=0(root) groups=0(root)".toList
    c.deliver (line text) 0

/-- Writes one line. -/
def constant (text : String) (c : Call) : Program Nat :=
  c.deliver (line text.toList) 0

/-- Tells that there is no terminal. -/
def terminalName (c : Call) : Program Nat :=
  if c.arguments = [['-', 's']] then return 1 else c.deliver (line "not a tty".toList) 1

/-- Tells the working directory. -/
def workingDirectory (c : Call) : Program Nat := do
  let path ← request (.files fun d => (locationText d.working, d))
  c.deliver (line path) 0

/-- Fills a template. -/
def printFormatted (c : Call) : Program Nat := do
  match if c.arguments.head? = some ['-', '-'] then c.arguments.drop 1 else c.arguments with
  | [] => c.misuse 1 "missing operand".toList
  | template :: values =>
    let f := fillTemplate .system template values
    f.complaints.reverse.forM c.complain
    c.deliver f.text f.status

/-- Tests a condition. -/
def testCondition (c : Call) : Program Nat := do
  let isBracket := c.name.getLast? = some '['
  let closes := c.arguments.getLast? = some [']']
  if isBracket && !closes then c.refuse 2 "missing ']'".toList
  else
    let words := if isBracket then c.arguments.dropLast else c.arguments
    let verdict ← request (.files fun t => (judge .system t words, t))
    match verdict with
    | .ok true => return 0
    | .ok false => return 1
    | .error message => c.refuse 2 message

/-- Shows where programs are. -/
def showPrograms (c : Call) : Program Nat :=
  c.withOptions { plain := ['a', 's'] } 2 fun o => do
    let find (d : Disk) (name : Bytes) : List Bytes :=
      let candidates := if name.contains '/' then [name]
        else (searchDirectories c.environment).map fun directory => directory ++ '/' :: name
      let found := candidates.filter fun p => (d.program p).toOption.isSome
      if o.has 'a' then found else found.take 1
    let found ← (request (.files fun d => (o.operands.map (find d), d)) :
      Program (List (List Bytes)))
    c.deliver (found.flatten.flatMap line)
      (if found.all (· ≠ []) && found ≠ [] then 0 else 1)

/-- Sends signals to processes. -/
def sendSignals (c : Call) : Program Nat := do
  let plainName (text : Bytes) : Bytes :=
    let upper := text.map Char.toUpper
    (stripPrefix? "SIG".toList upper).getD upper
  let (signal, targets) : Option Nat × List Bytes := match c.arguments with
    | ['-', 's'] :: name :: rest => (signalOf? (plainName name), rest)
    | ['-', '-'] :: rest => (some endSignal, rest)
    | ('-' :: name) :: rest => (signalOf? (plainName name), rest)
    | rest => (some endSignal, rest)
  match signal with
  | none => c.refuse 1 "unknown signal".toList
  | some n =>
    let results ← targets.mapM fun a => do
      match integer? a with
      | none => return false
      | some target => request (.send target n)
    return if results ≠ [] && results.all id then 0 else 1

end LinkWatch.Host.Utility
