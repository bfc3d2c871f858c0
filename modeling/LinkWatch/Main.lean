import LinkWatch.CommandLine.Run
import LinkWatch.Traffic.Interface

/-!
# The program

Reads the command line, the environment, the settings file and the system's table of devices, and
prints what the library makes of them. What goes wrong is reported on the error stream.
-/

namespace LinkWatch

open LinkWatch.CommandLine LinkWatch.Proxy LinkWatch.Traffic

/-- The variables that the program looks at. -/
def readEnvironment : IO Environment := do
  let mut env : Environment := []
  for name in "HOME" :: variableNames do
    if let some value ← IO.getEnv name then
      env := (name, Text.encodeText value) :: env
  return env

/-- What is said about a configuration text that is refused. -/
def briefWording : Wording := fun _ =>
  "not a text of settings"

/-- The most memory that the system is expected to give at once, in bytes. -/
def usualMemory : Nat := Decimal.twoTo 40

/-- The settings in a file. -/
def readSettings (file : String) (usual : Except Fault Settings) : IO (Except Fault Settings) := do
  try
    let bytes ← IO.FS.readBinFile file
    match Text.decode? bytes.toList with
    | some text => return Settings.ofToml briefWording text
    | none => return .error (.io .notText)
  catch e =>
    match e with
    | .noFileOrDirectory .. => return usual
    | _ => return .error (.io (.described (toString e)))

/-- The settings that a command line asks for. -/
def readSettingsFor (o : Options) (env : Environment) : IO (Except Fault Settings) :=
  match o.config with
  | some file => readSettings file (.error (.ofSystem .notFound))
  | none => readSettings (settingsFile (homeOf env)) (.ok {})

/-- The interfaces as they are now. -/
def readFrame : IO Frame := do
  try return Frame.ofTable (← IO.FS.readFile "/proc/net/dev")
  catch _ => return []

/-- The time of day. -/
def readStamp : IO String := do
  let number (cs : List Char) : Nat := (tableNumber (cs.takeWhile Char.isDigit)).toNat
  try
    let uptime := number (← IO.FS.readFile "/proc/uptime").toList
    let started := (Text.lines (← IO.FS.readFile "/proc/stat").toList).findSome?
      (Text.stripPrefix? "btime ".toList)
    return timeOfDay (uptime + number (started.getD []))
  catch _ => return timeOfDay 0

/-- Takes a sample of the interfaces as they are now. -/
def sampleNow (w : Watch) : IO (String × Watch) := do
  let feed := { w.session.source with upcoming := [← readFrame] }
  let w := { w with session := { w.session with source := feed } }
  return w.sample ⟨← IO.monoNanosNow, ← readStamp⟩

/-- Shows reports until there have been enough. -/
partial def showReports (w : Watch) (pause : Nat) (count : UInt64) (shown : Nat) : IO Unit := do
  if goesOn count shown then
    IO.sleep (UInt32.ofNat (min pause 4294967295))
    let (text, w) ← sampleNow w
    IO.print text
    (← IO.getStdout).flush
    showReports w pause count (shown + 1)

/-- Does a task and gives the code with which the program ends. -/
def perform (env : Environment) : Task → IO UInt32
  | .print text => do
    IO.print text
    return 0
  | .fail how reason => do
    IO.eprintln reason
    return match how with
      | .code n => UInt32.ofNat n
      | .signal n _ => UInt32.ofNat (128 + n)
  | .watch s style count => do
    let w := Watch.new style s env.text? (InterfaceFeed.ofFrames [← readFrame])
    let (_, w) ← sampleNow w
    showReports w (pauseOf s) count 0
    return 0

end LinkWatch

open LinkWatch LinkWatch.CommandLine in
/-- Runs the program. -/
def main (arguments : List String) : IO UInt32 := do
  let env ← readEnvironment
  let request := Request.ofArguments arguments
  let loaded ← match request with
    | .run o => readSettingsFor o env
    | _ => pure (.ok {})
  perform env (request.task usualMemory (fun _ => loaded) env)
