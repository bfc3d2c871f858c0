import LinkWatch.Host.Kernel.Disk
import LinkWatch.Host.Kernel.Signal

/-!
# Programs as trees of requests

A program computes by itself and now and then asks the system for something: to read or write, to
start another process, to wait for one. What it does next depends on the answer alone, so a program
is a tree whose branches are the possible answers.
-/

namespace LinkWatch.Host.Kernel

open LinkWatch.Text LinkWatch.Child

/-- How a file is opened. -/
inductive Opening where
  | read
  | write
  | append
  /-- For reading and writing. -/
  | both
  deriving DecidableEq, Repr

/-- What waiting for a process comes to. -/
inductive Waited where
  | ended (process : Nat) (how : Ending)
  /-- There is no such process to wait for. -/
  | nobody
  /-- A signal has been noticed. -/
  | interrupted
  /-- The time is up. -/
  | late
  deriving DecidableEq, Repr

/-- What kind of thing a descriptor leads to. -/
inductive Nature where
  /-- A node of the disk, by its number. -/
  | node (number : Nat)
  | device
  | pipe
  deriving DecidableEq, Repr

mutual

/-- A request to the system, with the type of its answer. -/
inductive Request : Type → Type 1 where
  /-- Lets so many nanoseconds pass; the answer is the signals that have been noticed. -/
  | pause (time : Nat) : Request (List Nat)
  /-- Reads at most so many bytes. At the end there are none. -/
  | read (descriptor most : Nat) : Request (Except OsError Bytes)
  | write (descriptor : Nat) (text : Bytes) : Request (Except OsError Unit)
  /-- Opens a file as a descriptor; a new one must not exist yet. -/
  | open (descriptor : Nat) (path : Bytes) (how : Opening) (isNew : Bool) :
      Request (Except OsError Unit)
  /-- Makes a descriptor from which a text can be read. -/
  | supply (descriptor : Nat) (text : Bytes) : Request Unit
  | close (descriptor : Nat) : Request Unit
  /-- Makes a descriptor the same as another one. -/
  | copy (source target : Nat) : Request (Except OsError Unit)
  | inspect (descriptor : Nat) : Request (Option Nature)
  /-- Goes to an offset of a file; the answer is the offset before. -/
  | seek (descriptor offset : Nat) : Request (Except OsError Nat)
  /-- Makes two descriptors, of which the first reads what is written to the second. -/
  | pipe : Request (Nat × Nat)
  /-- Keeps the descriptors as they are now. -/
  | keep : Request Unit
  /-- Brings back the descriptors that were kept last. -/
  | recall : Request Unit
  /-- Gives up the descriptors that were kept last, or all of them. -/
  | forget (all : Bool) : Request Unit
  /-- Starts a copy of the process, which goes on differently; the answer is its number. -/
  | fork (child : Action) : Request Nat
  /-- Starts a copy of the process, which goes on in the same way. The answer is zero for the copy,
  and the number of the copy for the process itself. -/
  | split : Request Nat
  /-- Waits until one of the given processes ends, or any one that this process has started. A
  time may be set, and noticed signals may break the waiting off. -/
  | wait (among : Option (List Nat)) (time : Option Nat) (yields : Bool) : Request Waited
  /-- Sends a signal to a process, if there is one of that number. A negative number stands for a
  group of processes, zero for the process's own one. -/
  | send (process : Int) (signal : Nat) : Request Bool
  /-- Makes the process the first one of a group of its own. -/
  | lead : Request Unit
  | handle (signal : Nat) (handling : Handling) : Request Unit
  /-- Becomes another program, which keeps neither what is noticed nor descriptors that were
  kept. -/
  | become : Request Unit
  /-- The numbers of the process and of the one that has started it. -/
  | identity : Request (Nat × Nat)
  /-- Asks something of the files, or changes them. -/
  | files {α : Type} (f : Disk → α × Disk) : Request α

/-- What a process does. -/
inductive Action : Type 1 where
  | finish (status : Nat)
  | ask {α : Type} (r : Request α) (next : α → Action)

end

/-- A program that comes to a value. -/
inductive Program (α : Type) : Type 1 where
  | done (a : α)
  | ask {β : Type} (r : Request β) (next : β → Program α)

/-- Goes on with the value that a program comes to. -/
def Program.bind {α β : Type} : Program α → (α → Program β) → Program β
  | .done a, f => f a
  | .ask r next, f => .ask r fun b => (next b).bind f

instance : Monad Program where
  pure := .done
  bind := .bind

/-- The program that asks for one thing. -/
def request {α : Type} (r : Request α) : Program α :=
  .ask r .done

/-- What a process does that runs a program for its status. -/
def Program.action : Program Nat → Action
  | .done status => .finish (status % 256)
  | .ask r next => .ask r fun b => (next b).action

theorem bind_done {α : Type} (p : Program α) : p.bind .done = p := by
  induction p with
  | done a => rfl
  | ask r next ih => simp only [Program.bind, ih]

theorem bind_assoc {α β γ : Type} (p : Program α) (f : α → Program β) (g : β → Program γ) :
    (p.bind f).bind g = p.bind fun a => (f a).bind g := by
  induction p with
  | done a => rfl
  | ask r next ih => simp only [Program.bind, ih]

instance : LawfulMonad Program := .mk' Program
  (fun p => bind_done p)
  (fun _ _ => rfl)
  (fun p f g => bind_assoc p f g)

end LinkWatch.Host.Kernel
