/-!
# How a program ends

A program ends by itself with a code, or a signal ends it. Only code 0 is a success.
-/

namespace LinkWatch.Child

/-- The names of the signals, which are numbered from 1. -/
def signalNames : List String :=
  ["HUP", "INT", "QUIT", "ILL", "TRAP", "ABRT", "BUS", "FPE", "KILL", "USR1", "SEGV", "USR2",
    "PIPE", "ALRM", "TERM", "STKFLT", "CHLD", "CONT", "STOP", "TSTP", "TTIN", "TTOU", "URG",
    "XCPU", "XFSZ", "VTALRM", "PROF", "WINCH", "IO", "PWR", "SYS"]

/-- The name of a signal, if it has one. -/
def signalName? (signal : Nat) : Option String :=
  if signal = 0 then none else signalNames[signal - 1]?

/-- The way a program ended. -/
inductive Ending where
  | code (n : Nat)
  /-- A signal may leave an image of the program's memory behind. -/
  | signal (n : Nat) (dumped : Bool)
  deriving DecidableEq, Repr

/-- Whether the program did what it was asked. -/
def Ending.succeeded : Ending → Bool
  | .code n => n == 0
  | .signal .. => false

/-- The words for an ending. -/
def Ending.words : Ending → String
  | .code n => "exit status: " ++ toString n
  | .signal n dumped =>
    let name := match signalName? n with
      | some name => " (SIG" ++ name ++ ")"
      | none => ""
    "signal: " ++ toString n ++ name ++ (if dumped then " (core dumped)" else "")

end LinkWatch.Child
