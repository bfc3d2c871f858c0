import LinkWatch.Host.Kernel.Installed
import LinkWatch.Host.Utility.Series

/-!
# Starting other programs

Programs that start another one: with a limit of time, or in other circumstances.
-/

namespace LinkWatch.Host.Utility

open LinkWatch.Text LinkWatch.Host.Kernel LinkWatch.Child

/-- What an installed program does when it is called. -/
abbrev Performer := String → Call → Program Nat

/-- The call that words stand for. -/
def callOf (environment : Environment) (words : List Bytes) : Call where
  name := words.headD []
  arguments := words.drop 1
  environment := environment

/-- The directories in which programs are looked for. -/
def searchDirectories (environment : Environment) : List Bytes :=
  match environment.lookup "PATH".toList with
  | some path => pieces ':' path
  | none => ["/bin".toList, "/usr/bin".toList]

/-- The variables as they are passed on. -/
def environmentTexts (environment : Environment) : List Bytes :=
  environment.map fun v => v.1 ++ '=' :: v.2

/-- The installed program that does what a call asks for, and how it is called, if the program of
the call is looked for in some directories. A text that does not say who reads it is read by a shell
if that is allowed. -/
def Call.resolve (c : Call) (directories : List Bytes) (readsTexts : Bool) (d : Disk) :
    Except OsError (String × Call) :=
  if areTooLong (c.name :: c.arguments ++ environmentTexts c.environment) then .error .listTooLong
  else
    match d.locate directories c.name with
    | .error e => .error e
    | .ok (path, r) =>
      let shell : Bytes := "/bin/sh".toList
      let (path, r, words) := match r, readsTexts with
        | .text, true => (shell, Runnable.installed "sh".toList, (shell, path :: c.arguments))
        | r, _ => (path, r, (c.name, c.arguments))
      (d.interpret mostInterpreters path r words).map fun (program, name, arguments) =>
        (String.ofList program, { c with name := name, arguments := arguments })

/-- Looks for the program of a call. -/
def findProgram (c : Call) : Program (Except OsError (String × Call)) :=
  request (.files fun d => (c.resolve (searchDirectories c.environment) true d, d))

/-- Becomes the program of a call. Without it there is a message, and a status that tells whether it
has been found. -/
def becomeProgram (perform : Performer) (caller : Call) (naming : Bytes → Bytes) (c : Call) :
    Program Nat := do
  match ← findProgram c with
  | .ok (name, called) =>
    request .become
    perform name called
  | .error e =>
    caller.refuse (if e = .notFound then 127 else 126)
      (naming c.name ++ ':' :: ' ' :: wordsOf e)

/-- Runs the text of a shell for its output. -/
def outputOfText (perform : Performer) (caller : Call) (text : Bytes) : Program Bytes := do
  let (source, sink) ← request .pipe
  let shell := callOf caller.environment ["sh".toList, "-c".toList, text]
  let child ← request (.fork (do
    request (.close source)
    let _ ← request (.copy sink 1)
    request (.close sink)
    becomeProgram perform caller id shell : Program Nat).action)
  request (.close sink)
  let output ← readAll source
  request (.close source)
  let _ ← request (.wait (some [child]) none false)
  return output.toOption.getD []

/-- How a program that cannot be run is named by those that were to run it as a command. -/
def asCommand (name : Bytes) : Bytes :=
  "failed to run command ".toList ++ inQuotes name

/-- Runs a program for a limited time. -/
def limitTime (perform : Performer) (c : Call) : Program Nat :=
  let t : OptionTable :=
    { plain := ['p', 'f', 'v'], valued := ['s', 'k']
      long := [("preserve-status", 'p'), ("foreground", 'f'), ("verbose", 'v'), ("signal", 's'),
        ("kill-after", 'k')]
      isStrict := true }
  c.withOptions t 125 fun o => do
    let signal : Option Nat := match o.value? 's' with
      | none => some endSignal
      | some text =>
        let upper := text.map Char.toUpper
        signalOf? ((stripPrefix? "SIG".toList upper).getD upper)
    let grace : Option (Option Nat) := match o.value? 'k' with
      | none => some none
      | some text => (duration? text).map some
    match o.operands, signal, grace with
    | _, none, _ =>
      c.misuse 125 ('\'' :: (o.value? 's').getD [] ++ "': invalid signal".toList)
    | _, _, none =>
      c.misuse 125 ("invalid time interval '".toList ++ (o.value? 'k').getD [] ++ ['\''])
    | text :: word :: words, some signal, some grace =>
      match duration? text with
      | none => c.misuse 125 ("invalid time interval '".toList ++ text ++ ['\''])
      | some time => do
        if !o.has 'f' then request .lead
        let called := callOf c.environment (word :: words)
        let child ← request (.fork (becomeProgram perform c asCommand called).action)
        let among := some [child]
        let strike (signal : Nat) : Program Unit := do
          if signal ≠ killSignal then request (.handle signal .ignored)
          let _ ← request (.send child signal)
          if !o.has 'f' then
            let _ ← request (.send 0 signal)
            let _ ← request (.send child continueSignal)
        let outcome ← request (.wait among (if time = 0 then none else some time) false)
        match outcome with
        | .ended _ how =>
          match how with
          | .code status => return status
          | .signal n _ =>
            let (self, _) ← request .identity
            request (.handle n .usual)
            let _ ← request (.send self n)
            return 128 + n
        | _ =>
          strike signal
          let second ← request (.wait among grace false)
          let last ← match second with
            | .late => do
              strike killSignal
              request (.wait among none false)
            | w => pure w
          let (status, wasKilled) : Nat × Bool := match last with
            | .ended _ how => (statusOf how, how = .signal killSignal false)
            | _ => (124, false)
          return if o.has 'p' || wasKilled then status else 124
    | _, _, _ => c.adviseHelp 125

/-- Becomes another program after some options; `alone` is what is done if none is given. -/
def launchAfter (valued : List Char) (plain : List Char) (failure : Nat) (naming : Bytes → Bytes)
    (alone : Options → Program Nat) (perform : Performer) (prepare : Program Unit)
      (c : Call) : Program Nat :=
  c.withOptions { plain := plain, valued := valued, isStrict := true } failure fun o => do
    if o.operands = [] then alone o
    else
      prepare
      becomeProgram perform c naming (callOf c.environment o.operands)

end LinkWatch.Host.Utility
