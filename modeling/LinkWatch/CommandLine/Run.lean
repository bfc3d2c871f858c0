import LinkWatch.Child.Ending
import LinkWatch.CommandLine.Options
import LinkWatch.CommandLine.Screen
import LinkWatch.Storage

/-!
# Runs of the program

A command line and the settings make a task: something to print, or a watch. A watch takes a first
sample that it does not show, and then shows one report after each pause.
-/

namespace LinkWatch.CommandLine

open LinkWatch.Proxy LinkWatch.Traffic LinkWatch.Child

/-- What the environment says about the home directory. -/
def homeOf (env : Environment) : Option (List UInt8) :=
  List.lookup "HOME" env

/-- The settings that a command line asks for, out of a tree of files. -/
def Options.load (o : Options) (wording : Wording) (t : Files.Tree) (env : Environment) :
    Except Fault Settings :=
  match o.config with
  | some file => loadFrom wording t file
  | none => LinkWatch.load wording t (homeOf env)

/-- Seconds as whole milliseconds, of which there are at least fifty. -/
def intervalOf (seconds : Float) : UInt64 :=
  let seconds := if 0.05 < seconds then seconds else 0.05
  (seconds * 1000.0).toUInt64

/-- Settings with the interval of a command line, if it gives one. -/
def Options.adjust (o : Options) (s : Settings) : Settings :=
  match o.interval with
  | none => s
  | some seconds => { s with sampling := { s.sampling with interval := intervalOf seconds } }

/-! ## Watching -/

/-- A watch that is going on. -/
structure Watch where
  style : Style
  env : Lookup
  session : Session InterfaceFeed

/-- The shortest pause between two reports, in milliseconds. -/
def shortestPause : Nat := 50

/-- The pause between two reports, in milliseconds. -/
def pauseOf (s : Settings) : Nat :=
  max s.sampling.interval.toNat shortestPause

/-- A watch on a feed of interfaces. -/
def Watch.new (style : Style) (s : Settings) (env : Lookup) (feed : InterfaceFeed) : Watch :=
  ⟨style, env, Session.new s feed⟩

/-- When a sample is taken: nanoseconds since the start, and the time of day as it is shown. -/
structure Tick where
  time : Nat
  stamp : String
  deriving DecidableEq, Repr

/-- Takes a sample and gives what it shows. A sample that fails shows nothing. -/
def Watch.sample (w : Watch) (tick : Tick) : String × Watch :=
  let r := w.session.snapshot interfaceSource w.env tick.time
  let w := { w with session := r.2.2 }
  match r.1 with
  | .ok report => (reportText w.style tick.stamp report, w)
  | .error _ => ("", w)

/-- Whether another report follows after so many have been shown. A count of zero has no end. -/
def goesOn (count : UInt64) (shown : Nat) : Bool :=
  count == 0 || shown < count.toNat

/-- Shows one report after another, until there have been enough: their texts, and the watch after
them. The ticks of the clock are counted from the sample before the first report. -/
def Watch.reports (clock : Nat → Tick) (count : UInt64) (hcount : count ≠ 0) (w : Watch)
    (shown : Nat) : List String × Watch :=
  if h : goesOn count shown = true then
    let r := w.sample (clock (shown + 1))
    let later := r.2.reports clock count hcount (shown + 1)
    (r.1 :: later.1, later.2)
  else ([], w)
termination_by count.toNat - shown
decreasing_by
  simp only [goesOn, Bool.or_eq_true, beq_iff_eq, hcount, false_or, decide_eq_true_eq] at h
  omega

/-- What a watch shows after a first sample that is not shown, and the watch at its end. -/
def Watch.shown (w : Watch) (clock : Nat → Tick) (count : UInt64) (hcount : count ≠ 0) :
    List String × Watch :=
  (w.sample (clock 0)).2.reports clock count hcount 0

/-- Ticks at equal distances, in nanoseconds. -/
def steadyClock (pause : Nat) (stamp : String) (j : Nat) : Tick :=
  ⟨j * pause, stamp⟩

/-! ## Tasks -/

/-- What is left to do when the command line and the settings are read. -/
inductive Task where
  | print (text : String)
  | fail (how : Ending) (reason : String)
  | watch (s : Settings) (style : Style) (count : UInt64)

/-- The signal by which a program ends itself. -/
def abortSignal : Nat := 6

/-- How a program ends that has no room for its histories. -/
def endingOf : NoRoom → Ending
  | .beyondAddresses => .code 101
  | .refused => .signal abortSignal false

/-- What a program says that has no room for its histories. -/
def reasonOf : NoRoom → String
  | .beyondAddresses => "capacity overflow"
  | .refused => "memory allocation failed"

/-- The task of a command line, given what loading its settings comes to. -/
def Options.task (o : Options) (memory : Nat) (loaded : Except Fault Settings)
    (env : Environment) : Task :=
  let style := Style.ofName o.format
  match loaded with
  | .error fault => .fail (.code 1) fault.message
  | .ok s =>
    let s := o.adjust s
    match o.command with
    | .watch =>
      match History.noRoom? memory s.sampling.trendCapacity.toNat with
      | some trouble => .fail (endingOf trouble) (reasonOf trouble)
      | none => .watch s style o.count
    | .proxy => .print (statusText style (detectIn s.detection env).status)
    | .config =>
      match s.toToml with
      | .ok text => .print (line text)
      | .error fault => .fail (.code 1) fault.message

/-- The task of a request that needs no settings. -/
def Request.task (r : Request) (memory : Nat) (load : Options → Except Fault Settings)
    (env : Environment) : Task :=
  match r with
  | .run o => o.task memory (load o) env
  | .version => .print versionText
  | .help => .print usageText
  | .misuse => .fail (.code 2) usageText

/-- How a run ended and what it printed. -/
structure Ended where
  ending : Ending
  output : String
  deriving DecidableEq, Repr

/-- The world that a run finds. -/
structure World where
  tree : Files.Tree
  env : Environment
  /-- What is seen of the interfaces, one after another. -/
  frames : List Frame
  /-- The time of day as it is shown. -/
  stamp : String
  /-- The most memory that the system gives at once, in bytes. -/
  memory : Nat
  wording : Wording

/-- The settings that a command line asks for in a world. -/
def World.load (w : World) (o : Options) : Except Fault Settings :=
  o.load w.wording w.tree w.env

/-- What a run in a world comes to. A watch without end shows nothing here. -/
def run (arguments : List String) (world : World) : Ended :=
  match (Request.ofArguments arguments).task world.memory world.load world.env with
  | .print text => ⟨.code 0, text⟩
  | .fail how _ => ⟨how, ""⟩
  | .watch s style count =>
    if hcount : count = 0 then ⟨.code 0, ""⟩
    else
      let w := Watch.new style s world.env.text? (InterfaceFeed.ofFrames world.frames)
      let clock := steadyClock (pauseOf s * 1000000) world.stamp
      ⟨.code 0, String.join (w.shown clock count hcount).1⟩

end LinkWatch.CommandLine
