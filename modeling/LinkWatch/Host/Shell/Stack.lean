import LinkWatch.Host.Shell.Variables

/-!
# The stack of directories

The rich language remembers directories to which the shell may come back.
-/

namespace LinkWatch.Host.Shell

open LinkWatch.Text LinkWatch.Host.Kernel LinkWatch.Host.Utility

/-- A directory as it is shown: below the home directory it starts with a tilde. -/
def shownDirectory (home : Option Bytes) (path : Bytes) : Bytes :=
  match home with
  | some h =>
    if h = [] || h = ['/'] then path
    else if path = h then ['~']
    else if (h ++ ['/']).isPrefixOf path then '~' :: path.drop h.length
    else path
  | none => path

/-- Shows the stack, with the working directory on top of it. -/
def showStack (shorten : Bool) : Act Nat := do
  let s ← get
  let home := if shorten then s.stored? "HOME".toList else none
  say (line (joinWords ((s.directory :: s.stack).map (shownDirectory home)))) 0

/-- The position that an argument such as `+1` or `-1` names, from the top. -/
def stackPosition? (size : Nat) (word : Bytes) : Option Nat :=
  match word with
  | '+' :: digits => (natural? digits).filter (· < size)
  | '-' :: digits => ((natural? digits).filter (· < size)).map fun n => size - 1 - n
  | _ => none

/-- Goes to a directory. -/
def goTo (path : Bytes) : Act Bool := do
  let before := (← get).directory
  if ← enter false path then
    assignAs true "OLDPWD".toList before
    assignAs true "PWD".toList (← get).directory
    return true
  else
    let isThere ← ask (.files fun d => ((d.find path).toOption.isSome, d))
    warn (path ++ ':' :: ' ' :: wordsOf (if isThere then .notDirectory else .notFound))
    return false

/-- Goes to a directory and keeps the one before, or turns the stack. -/
def pushDirectory : Builtin := fun arguments => do
  let s ← get
  let all := s.directory :: s.stack
  let turn (n : Nat) : Act Nat := do
    match all.drop n ++ all.take n with
    | top :: rest =>
      if ← goTo top then
        modify fun s => { s with stack := rest }
        showStack true
      else return 1
    | [] => return 1
  match arguments with
  | [] =>
    match s.stack with
    | [] =>
      warn "no other directory".toList
      return 1
    | top :: rest =>
      if ← goTo top then
        modify fun t => { t with stack := s.directory :: rest }
        showStack true
      else return 1
  | word :: _ =>
    match stackPosition? all.length word with
    | some n => turn n
    | none =>
      if ← goTo word then
        modify fun t => { t with stack := s.directory :: s.stack }
        showStack true
      else return 1

/-- Drops a directory from the stack, and goes to the one below if it is the working directory. -/
def popDirectory : Builtin := fun arguments => do
  let s ← get
  let all := s.directory :: s.stack
  match s.stack with
  | [] =>
    warn "directory stack empty".toList
    return 1
  | top :: rest =>
    match arguments.head?.map (stackPosition? all.length) with
    | some none =>
      warn (arguments.headD [] ++ ": invalid argument".toList)
      return 1
    | some (some (n + 1)) =>
      set { s with stack := s.stack.eraseIdx n }
      showStack true
    | _ =>
      if ← goTo top then
        modify fun t => { t with stack := rest }
        showStack true
      else return 1

/-- Shows or clears the stack. -/
def listStack : Builtin := fun arguments =>
  withGiven ['c', 'l', 'p', 'v'] [] arguments fun g => do
    let s ← get
    let home := if g.has 'l' then none else s.stored? "HOME".toList
    let all := (s.directory :: s.stack).map (shownDirectory home)
    if g.has 'c' then
      set { s with stack := [] }
      return 0
    else if g.has 'v' then
      let rows := (List.range all.length).zip all
      say (rows.flatMap fun p =>
        let n := digitsOf p.1
        line (List.replicate (2 - n.length) ' ' ++ n ++ ' ' :: ' ' :: p.2)) 0
    else if g.has 'p' then say (all.flatMap line) 0
    else showStack (!g.has 'l')

end LinkWatch.Host.Shell
