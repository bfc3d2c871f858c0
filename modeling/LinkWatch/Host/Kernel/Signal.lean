import LinkWatch.Child.Ending
import LinkWatch.Text.Bytes

/-!
# Signals

A signal ends a process, stops it or lets it go on, or does nothing; a process may choose to ignore
most signals or to notice them. A signal is named by its number or by its name.
-/

namespace LinkWatch.Host.Kernel

open LinkWatch.Text LinkWatch.Child

/-- The signal that nobody can escape. -/
def killSignal : Nat := 9

/-- The signal to a process that writes where nobody reads. -/
def pipeSignal : Nat := 13

/-- The signal that asks a process to end. -/
def endSignal : Nat := 15

/-- The signal that lets a stopped process go on. -/
def continueSignal : Nat := 18

/-- The greatest number of a signal. -/
def lastSignal : Nat := 64

/-- Signals that do nothing unless they are noticed. -/
def isHarmless (signal : Nat) : Bool :=
  signal ∈ [17, 18, 23, 28]

/-- Signals that stop a process. -/
def isStopping (signal : Nat) : Bool :=
  signal ∈ [19, 20, 21, 22]

/-- Signals that a process cannot choose to ignore or to notice. -/
def isForced (signal : Nat) : Bool :=
  signal ∈ [9, 19]

/-- What a process does about a signal. -/
inductive Handling where
  | usual
  | ignored
  | noticed
  deriving DecidableEq, Repr

/-- The name of a signal among those for processes to use as they like: the first half is counted
from the first one, the second half from the last one. -/
def freeSignalName? (signal : Nat) : Option String :=
  if signal < 34 || lastSignal < signal then none
  else if signal = 34 then some "RTMIN"
  else if signal = lastSignal then some "RTMAX"
  else if signal < 50 then some ("RTMIN+" ++ toString (signal - 34))
  else some ("RTMAX-" ++ toString (lastSignal - signal))

/-- The name by which a signal is listed, or its number. -/
def signalLabel (signal : Nat) : String :=
  if signal = 0 then "EXIT"
  else if signal = 16 then toString signal
  else ((signalName? signal).or (freeSignalName? signal)).getD (toString signal)

/-- The number of a signal given by number or by name; zero stands for the end of a process. -/
def signalOf? (text : Bytes) : Option Nat :=
  match natural? text with
  | some n => if n ≤ lastSignal then some n else none
  | none =>
    let upper := String.ofList (text.map Char.toUpper)
    (List.range (lastSignal + 1)).find? fun n => signalLabel n = upper

/-- The words for an end by a signal. -/
def signalWords (signal : Nat) : String :=
  match signal with
  | 1 => "Hangup"
  | 2 => "Interrupt"
  | 3 => "Quit"
  | 4 => "Illegal instruction"
  | 5 => "Trace/breakpoint trap"
  | 6 => "Aborted"
  | 7 => "Bus error"
  | 8 => "Floating point exception"
  | 9 => "Killed"
  | 10 => "User defined signal 1"
  | 11 => "Segmentation fault"
  | 12 => "User defined signal 2"
  | 13 => "Broken pipe"
  | 14 => "Alarm clock"
  | 15 => "Terminated"
  | 16 => "Stack fault"
  | 24 => "CPU time limit exceeded"
  | 25 => "File size limit exceeded"
  | 26 => "Virtual timer expired"
  | 27 => "Profiling timer expired"
  | 29 => "I/O possible"
  | 30 => "Power failure"
  | 31 => "Bad system call"
  | n =>
    if 34 ≤ n && n ≤ lastSignal then "Real-time signal " ++ toString (n - 34)
    else "Unknown signal " ++ toString n

/-- The status of a program that has ended. -/
def statusOf : Ending → Nat
  | .code n => n
  | .signal n _ => 128 + n

end LinkWatch.Host.Kernel
