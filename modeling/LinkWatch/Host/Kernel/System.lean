import LinkWatch.Host.Kernel.Request

/-!
# Processes, descriptors and pipes

The state of a system of processes. A descriptor of a process leads to a channel, which several
descriptors of several processes may share. A channel lives as long as some descriptor leads to it;
a pipe is at its end once no channel writes to it, and broken once none reads from it. Every process
has a clock of its own, and the one that is furthest behind is served next.
-/

namespace LinkWatch.Host.Kernel

open LinkWatch.Text LinkWatch.Files LinkWatch.Child

/-- What a descriptor leads to. -/
inductive Channel where
  | device (d : Device)
  | file (node : Nat) (offset : Nat) (how : Opening)
  | directory (node : Nat)
  /-- The end of a pipe from which is read. -/
  | source (pipe : Nat)
  /-- The end of a pipe to which is written. -/
  | sink (pipe : Nat)
  /-- What is written here is collected. -/
  | output
  deriving DecidableEq, Repr

/-- Descriptors with the numbers of their channels. -/
abbrev Descriptors := List (Nat × Nat)

/-- Whether a process can go on. -/
inductive Phase where
  | ready
  /-- Waits for something that others do. -/
  | blocked
  | stopped
  | ended (how : Ending)
  deriving DecidableEq, Repr

/-- A process. -/
structure Process where
  number : Nat
  parent : Nat
  group : Nat
  next : Action
  /-- The time at which it goes on. -/
  time : Nat
  phase : Phase := .ready
  /-- The time at which it stops waiting. -/
  due : Option Nat := none
  descriptors : Descriptors
  kept : List Descriptors := []
  working : Location
  mask : Nat := 18
  handling : List (Nat × Handling) := []
  /-- Signals that have been noticed and not yet been told. -/
  noticed : List Nat := []
  /-- Signals that came while it was stopped. -/
  delayed : List Nat := []

/-- All processes and what they share. -/
structure System where
  processes : List Process
  channels : List (Nat × Channel)
  /-- What is in each pipe. -/
  pipes : List (Nat × List Bytes) := []
  /-- Queues of the disk to which somebody has written. -/
  begun : List Nat := []
  disk : Disk
  /-- The process that everything has been started for. -/
  main : Nat
  /-- The next number for a process, a channel or a pipe. -/
  fresh : Nat
  /-- What has been collected, the newest first. -/
  output : List Bytes := []
  /-- When nobody could write any more what is collected. -/
  closed : Option Nat := none
  /-- When and how the main process has ended. -/
  finished : Option (Nat × Ending) := none

/-! ## Times -/

/-- The time of day at which everything begins, in nanoseconds since the first day of 1970. -/
def beginningTime : Nat := 1767225600 * 1000000000

/-- The time of day at a time of a clock. -/
def epochTime (time : Nat) : Nat :=
  beginningTime + time

/-- Nanoseconds of so many microseconds. -/
def microseconds (n : Nat) : Nat :=
  n * 1000

/-- The time that a short request takes. -/
def requestTime : Nat := microseconds 1

/-- The time that it takes to start a copy of a process. -/
def forkTime : Nat := microseconds 60

/-- The time that it takes to start a program. -/
def startTime : Nat := microseconds 1000

/-- The time after which a copy of a process begins. -/
def birthTime : Nat := microseconds 200

/-- The time after which a process that waits learns what has happened. -/
def wakeTime : Nat := microseconds 10

/-- The number of bytes from which on a pipe takes no more. -/
def pipeCapacity : Nat := 65536

/-! ## Processes -/

/-- The system with a process as it is now. -/
def System.put (s : System) (p : Process) : System :=
  { s with processes := s.processes.map fun q => if q.number = p.number then p else q }

/-- What a process does about a signal. -/
def Process.handles (p : Process) (signal : Nat) : Handling :=
  if isForced signal then .usual else (p.handling.lookup signal).getD .usual

/-- Whether a process has ended. -/
def Process.isOver (p : Process) : Bool :=
  match p.phase with
  | .ended _ => true
  | _ => false

/-- Lets time pass for a process. -/
def Process.later (p : Process) (time : Nat) : Process :=
  { p with time := p.time + time }

/-- Tells all processes that wait that something has happened. -/
def System.wake (s : System) (time : Nat) : System :=
  { s with processes := s.processes.map fun q =>
      if q.phase = .blocked then { q with phase := .ready, time := max q.time (time + wakeTime) }
      else q }

/-- The numbers of all channels that a process can reach. -/
def Process.channels (p : Process) : List Nat :=
  (p.descriptors :: p.kept).flatMap fun d => d.map (·.2)

/-- Whether a channel is the collected output. -/
def isOutput (c : Nat × Channel) : Bool :=
  c.2 = .output

/-- Drops the channels that nobody can reach any more, and then the pipes without channels. -/
def System.dropUnreachable (s : System) (time : Nat) : System :=
  let live := s.processes.flatMap Process.channels
  let channels := s.channels.filter fun c => live.contains c.1
  let isUsed (pipe : Nat) : Bool := channels.any fun c => c.2 = .source pipe || c.2 = .sink pipe
  { s with
    channels := channels
    pipes := s.pipes.filter fun p => isUsed p.1
    closed := if s.channels.any isOutput && !channels.any isOutput then some time else s.closed }

/-- Ends a process. What it has started and what has ended already is forgotten with it; its parent
may still ask how it ended. -/
def System.finish (s : System) (number : Nat) (time : Nat) (how : Ending) : System :=
  let parent := (s.processes.find? fun q => q.number = number).elim 0 Process.parent
  let isWatched := s.processes.any fun q => q.number = parent && !q.isOver
  let processes := s.processes.filterMap fun q =>
    if q.number = number then
      if isWatched then
        some { q with phase := .ended how, time := time, due := none, descriptors := [],
                      kept := [] }
      else none
    else if q.parent = number && q.isOver then none
    else if q.number = parent && q.handles 17 = .noticed then
      some { q with noticed := q.noticed ++ (if q.noticed.contains 17 then [] else [17]) }
    else some q
  let s := { s with
    processes := processes
    finished := if number = s.main then some (time, how) else s.finished }
  (s.dropUnreachable time).wake time

/-- What a signal does to a process. -/
inductive Blow where
  | nothing (p : Process)
  | ends

/-- Strikes a process with a signal. -/
def Process.strike (p : Process) (signal time : Nat) : Blow :=
  if signal = 0 || p.isOver then .nothing p
  else if p.phase = .stopped && signal ≠ killSignal && signal ≠ continueSignal then
    .nothing { p with delayed := p.delayed ++ [signal] }
  else
    let resumed : Process :=
      if signal = continueSignal && p.phase = .stopped then
        { p with phase := .ready, time := max p.time time }
      else p
    match p.handles signal with
    | .ignored => .nothing resumed
    | .noticed =>
      .nothing { resumed with
        noticed := if resumed.noticed.contains signal then resumed.noticed
          else resumed.noticed ++ [signal] }
    | .usual =>
      if isHarmless signal then .nothing resumed
      else if isStopping signal then .nothing { p with phase := .stopped }
      else .ends

/-- Sends a signal to one process. Signals that were delayed follow once it goes on. -/
def System.send (s : System) (time : Nat) (number signal : Nat) : System :=
  let deliver (s : System) (signal : Nat) : System :=
    match s.processes.find? fun q => q.number = number with
    | none => s
    | some q =>
      match q.strike signal time with
      | .nothing q => (s.put q).wake time
      | .ends => s.finish number time (.signal signal false)
  let delayed := match s.processes.find? fun q => q.number = number with
    | some q => if signal = continueSignal && q.phase = .stopped then q.delayed else []
    | none => []
  let resumed := deliver s signal
  let cleared := if delayed = [] then resumed else
    { resumed with processes := resumed.processes.map fun q =>
        if q.number = number then { q with delayed := [] } else q }
  delayed.foldl deliver cleared

/-! ## Descriptors -/

/-- The channel of a descriptor, with its number. -/
def System.channel? (s : System) (p : Process) (descriptor : Nat) : Option (Nat × Channel) :=
  (p.descriptors.lookup descriptor).bind fun id => (s.channels.lookup id).map (id, ·)

/-- The process with a descriptor that leads to a channel. -/
def Process.lead (p : Process) (descriptor id : Nat) : Process :=
  { p with descriptors := (descriptor, id) :: p.descriptors.filter fun d => d.1 ≠ descriptor }

/-- The process without a descriptor. -/
def Process.drop (p : Process) (descriptor : Nat) : Process :=
  { p with descriptors := p.descriptors.filter fun d => d.1 ≠ descriptor }

/-- The system with a channel as it is now. -/
def System.setChannel (s : System) (id : Nat) (c : Channel) : System :=
  { s with channels := s.channels.map fun d => if d.1 = id then (id, c) else d }

/-- The system with a new channel for a descriptor of a process. -/
def System.connect (s : System) (p : Process) (descriptor : Nat) (c : Channel) :
    Process × System :=
  (p.lead descriptor s.fresh,
    { s with channels := (s.fresh, c) :: s.channels, fresh := s.fresh + 1 })

/-- The system after descriptors of a process have been given up. -/
def System.released (s : System) (p : Process) : System :=
  ((s.put p).dropUnreachable p.time).wake p.time

/-- A descriptor of at least ten that is not in use. -/
def Process.freeDescriptor (p : Process) : Nat :=
  let used := (p.descriptors :: p.kept).flatMap fun d => d.map (·.1)
  ((List.range (used.length + 1)).find? fun n => !used.contains (n + 10)).getD 0 + 10

/-! ## Reading and writing -/

/-- What comes of a request. -/
inductive Reply (α : Type) : Type 1 where
  | answer (a : α) (p : Process) (s : System)
  /-- There is no answer yet. A time may be known at which there will be one. -/
  | blocked (due : Option Nat)
  /-- The process is ended by a signal. -/
  | killed (signal : Nat) (s : System)

/-- What kind of thing a channel is. -/
def Channel.nature : Channel → Nature
  | .device _ => .device
  | .file node _ _ => .node node
  | .directory node => .node node
  | _ => .pipe

/-- The number of the pipe behind a queue of the disk. -/
def queuePipe (node : Nat) : Nat :=
  2000000000 + node

/-- The first bytes of a pipe, and what is left in it. -/
def takeFrom : Nat → List Bytes → Bytes × List Bytes
  | _, [] => ([], [])
  | most, chunk :: chunks =>
    if most = 0 then ([], chunk :: chunks)
    else if chunk.length ≤ most then
      let p := takeFrom (most - chunk.length) chunks
      if p.1 = [] then (chunk, p.2) else (chunk ++ p.1, p.2)
    else (chunk.take most, chunk.drop most :: chunks)

/-- Puts what a pipe holds in place of what it held. -/
def System.setPipe (s : System) (pipe : Nat) (chunks : List Bytes) : System :=
  { s with pipes := s.pipes.map fun p => if p.1 = pipe then (pipe, chunks) else p }

/-- Reads from a descriptor. -/
def System.read (s : System) (p : Process) (descriptor most : Nat) :
    Reply (Except OsError Bytes) :=
  let p := p.later requestTime
  match s.channel? p descriptor with
  | none => .answer (.error .badDescriptor) p s
  | some (id, c) =>
    match c with
    | .device .null => .answer (.ok []) p s
    | .device _ => .answer (.ok (List.replicate most '\x00')) (p.later (20 * requestTime)) s
    | .directory _ => .answer (.error .isDirectory) p s
    | .file node offset how =>
      if how = .read || how = .both then
        let text := ((s.disk.contents node).drop offset).take most
        .answer (.ok text) p (s.setChannel id (.file node (offset + text.length) how))
      else .answer (.error .badDescriptor) p s
    | .source pipe =>
      let chunks := (s.pipes.lookup pipe).getD []
      if chunks = [] then
        let isComing := queuePipe 0 ≤ pipe && !s.begun.contains pipe
        if isComing || s.channels.any fun d => d.2 = .sink pipe then .blocked none
        else .answer (.ok []) p s
      else
        let (text, left) := takeFrom most chunks
        .answer (.ok text) p ((s.setPipe pipe left).wake p.time)
    | _ => .answer (.error .badDescriptor) p s

/-- A text with another one in the place of what stands from some offset on. -/
def overwrite (text : Bytes) (offset : Nat) (part : Bytes) : Bytes :=
  let before := text.take offset
  before ++ List.replicate (offset - before.length) '\x00' ++ part
    ++ text.drop (offset + part.length)

/-- Writes to a descriptor. -/
def System.write (s : System) (p : Process) (descriptor : Nat) (text : Bytes) :
    Reply (Except OsError Unit) :=
  let p := p.later requestTime
  match s.channel? p descriptor with
  | none => .answer (.error .badDescriptor) p s
  | some (id, c) =>
    match c with
    | .device d =>
      .answer (if text = [] then .ok () else d.write) (p.later (text.length / 8)) s
    | .output =>
      .answer (.ok ()) (p.later (text.length / 8)) { s with output := text :: s.output }
    | .file node offset how =>
      if how = .read then .answer (.error .badDescriptor) p s
      else
        let old := s.disk.contents node
        let offset := if how = .append then old.length else offset
        let new := if offset = old.length then old ++ text else overwrite old offset text
        let s := { s with disk := { s.disk with now := epochTime p.time }.fill node new }
        .answer (.ok ()) p (s.setChannel id (.file node (offset + text.length) how))
    | .sink pipe =>
      if !s.channels.any fun d => d.2 = .source pipe then
        if p.handles pipeSignal = .usual then .killed pipeSignal s
        else .answer (.error .brokenPipe) p s
      else
        let chunks := (s.pipes.lookup pipe).getD []
        if pipeCapacity ≤ (chunks.map List.length).foldl (· + ·) 0 then .blocked none
        else if text = [] then .answer (.ok ()) p s
        else
          let p := p.later (text.length / 8)
          .answer (.ok ()) p ((s.setPipe pipe (chunks ++ [text])).wake p.time)
    | _ => .answer (.error .badDescriptor) p s

/-- The disk as a process sees it. -/
def System.diskFor (s : System) (p : Process) : Disk :=
  { s.disk with working := p.working, mask := p.mask, now := epochTime p.time }

/-- The descriptor that a path under the system's own directories means. -/
def descriptorPath? (path : Bytes) : Option Nat :=
  match String.ofList path with
  | "/dev/stdin" => some 0
  | "/dev/stdout" => some 1
  | "/dev/stderr" => some 2
  | _ =>
    ["/dev/fd/", "/proc/self/fd/"].findSome? fun d =>
      (stripPrefix? d.toList path).bind natural?

/-- Opens a queue of the disk as a descriptor. To write to it waits until somebody reads. -/
def System.openQueue (s : System) (p : Process) (descriptor pipe : Nat) (how : Opening) :
    Reply (Except OsError Unit) :=
  let s := if s.pipes.any fun q => q.1 = pipe then s
    else { s with pipes := (pipe, []) :: s.pipes, begun := s.begun.filter (· ≠ pipe) }
  let isRead := s.channels.any fun d => d.2 = .source pipe
  if how = .read then
    let (p, s) := s.connect p descriptor (.source pipe)
    .answer (.ok ()) p ((s.released p).wake p.time)
  else if !isRead && how ≠ .both then .blocked none
  else
    let (p, s) := s.connect p descriptor (.sink pipe)
    .answer (.ok ()) p (({ s with begun := pipe :: s.begun }.released p).wake p.time)

/-- Opens a file as a descriptor. -/
def System.open (s : System) (p : Process) (descriptor : Nat) (path : Bytes) (how : Opening)
    (isNew : Bool) : Reply (Except OsError Unit) :=
  let p := p.later requestTime
  let refuse (e : OsError) : Reply (Except OsError Unit) := .answer (.error e) p s
  let connect (s : System) (c : Channel) : Reply (Except OsError Unit) :=
    let (p, s) := s.connect p descriptor c
    .answer (.ok ()) p (s.released p)
  match (descriptorPath? path).bind fun n => p.descriptors.lookup n with
  | some id =>
    let p := p.lead descriptor id
    .answer (.ok ()) p (s.released p)
  | none =>
    let disk := s.diskFor p
    match disk.goal false path with
    | .error e => refuse e
    | .ok ⟨_, some (n, node)⟩ =>
      match node.kind with
      | .file _ =>
        if isNew then refuse .exists
        else if how = .write then connect { s with disk := disk.fill n [] } (.file n 0 how)
        else connect s (.file n 0 how)
      | .device d => if d = .absent then refuse .noDevice else connect s (.device d)
      | .directory => if how = .read then connect s (.directory n) else refuse .isDirectory
      | .link _ => refuse .tooManyLinks
      | .queue => s.openQueue p descriptor (queuePipe n) how
    | .ok ⟨_, none⟩ =>
      if how = .read then refuse .notFound
      else
        match disk.write path [] with
        | .error e => refuse e
        | .ok made => connect { s with disk := made } (.file disk.fresh 0 how)

/-! ## All requests -/

/-- The process that a process starts, which goes on in its own way. -/
def Process.child (p : Process) (number : Nat) (action : Action) : Process :=
  { p with
    number := number, parent := p.number, next := action, time := p.time + birthTime
    noticed := [], delayed := [], due := none }

/-- Waits for one of some processes. -/
def System.await (s : System) (p : Process) (among : Option (List Nat)) (time : Option Nat)
    (yields : Bool) : Reply Waited :=
  let isMeant (q : Process) : Bool :=
    q.parent = p.number && among.all fun numbers => numbers.contains q.number
  let due := p.due.or (time.map (p.time + ·))
  match s.processes.find? fun q => isMeant q && q.isOver with
  | some q =>
    let s := { s with processes := s.processes.filter fun r => r.number ≠ q.number }
    match q.phase with
    | .ended how => .answer (.ended q.number how) (p.later wakeTime) s
    | _ => .answer .nobody p s
  | none =>
    if !s.processes.any isMeant then .answer .nobody (p.later requestTime) s
    else if yields && p.noticed ≠ [] then .answer .interrupted p s
    else if due.any (· ≤ p.time) then .answer .late p s
    else .blocked due

/-- Sends a signal of a process to others, and to itself last. -/
def System.serveSend (s : System) (p : Process) (target : Int) (signal : Nat) : Reply Bool :=
  let group := if target = 0 then p.group else (-target).toNat
  let isMeant (q : Process) : Bool :=
    if 0 < target then q.number = target.toNat else q.group = group
  let others := s.processes.filter fun q => isMeant q && q.number ≠ p.number
  let s := others.foldl (fun s q => s.send p.time q.number signal) (s.put p)
  let p := (s.processes.find? fun q => q.number = p.number).getD p
  if isMeant p then
    match p.strike signal p.time with
    | .nothing p => .answer true p s
    | .ends => .killed signal s
  else .answer (others ≠ []) p s

/-- Serves a request of a process. -/
def System.serve {α : Type} (s : System) (p : Process) (r : Request α) : Reply α :=
  match r with
  | .pause time => .answer p.noticed { p.later time with noticed := [] } s
  | .read descriptor most => s.read p descriptor most
  | .write descriptor text => s.write p descriptor text
  | .open descriptor path how isNew => s.open p descriptor path how isNew
  | .supply descriptor text =>
    let pipe := s.fresh
    let s := { s with
      pipes := (pipe, if text = [] then [] else [text]) :: s.pipes, fresh := s.fresh + 1 }
    let (p, s) := s.connect p descriptor (.source pipe)
    .answer () p (s.released p)
  | .close descriptor =>
    let p := (p.drop descriptor).later requestTime
    .answer () p (s.released p)
  | .copy source target =>
    match p.descriptors.lookup source with
    | none => .answer (.error .badDescriptor) p s
    | some id =>
      let p := (p.lead target id).later requestTime
      .answer (.ok ()) p (s.released p)
  | .inspect descriptor =>
    .answer ((s.channel? p descriptor).map fun c => c.2.nature) p s
  | .seek descriptor offset =>
    match s.channel? p descriptor with
    | some (id, .file node old how) => .answer (.ok old) p (s.setChannel id (.file node offset how))
    | some (_, .device _) => .answer (.ok 0) p s
    | some _ => .answer (.error .noSeek) p s
    | none => .answer (.error .badDescriptor) p s
  | .pipe =>
    let pipe := s.fresh
    let s := { s with pipes := (pipe, []) :: s.pipes, fresh := s.fresh + 1 }
    let source := p.freeDescriptor
    let (p, s) := s.connect p source (.source pipe)
    let sink := p.freeDescriptor
    let (p, s) := s.connect p sink (.sink pipe)
    .answer (source, sink) p s
  | .keep => .answer () { p with kept := p.descriptors :: p.kept } s
  | .recall =>
    let p := { p with descriptors := p.kept.headD p.descriptors, kept := p.kept.drop 1 }
    .answer () p (s.released p)
  | .forget all =>
    let p := { p with kept := if all then [] else p.kept.drop 1 }
    .answer () p (s.released p)
  | .fork action =>
    let child := p.child s.fresh action
    .answer s.fresh (p.later forkTime)
      { s with processes := s.processes ++ [child], fresh := s.fresh + 1 }
  | .split => .answer s.fresh (p.later forkTime) { s with fresh := s.fresh + 1 }
  | .wait among time yields => s.await p among time yields
  | .send target signal => s.serveSend (p.later requestTime) target signal
  | .lead => .answer () { p with group := p.number } s
  | .handle signal handling =>
    .answer () { p with
      handling := (signal, handling) :: p.handling.filter fun h => h.1 ≠ signal } s
  | .become =>
    let p := { p.later startTime with
      kept := [], noticed := [], handling := p.handling.filter fun h => h.2 = .ignored }
    .answer () p (s.released p)
  | .identity => .answer (p.number, p.parent) p s
  | .files f =>
    let (a, disk) := f (s.diskFor p)
    .answer a { p.later requestTime with working := disk.working, mask := disk.mask }
      { s with disk := disk }

end LinkWatch.Host.Kernel
