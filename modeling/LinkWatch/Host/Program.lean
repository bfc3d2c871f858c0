import LinkWatch.Host.Kernel.Schedule
import LinkWatch.Host.Shell.Start

/-!
# A host for programs

The library takes the way programs are started as a parameter: it only has to know the courses that
they take. This host is one such way, so that the library can be run where there is no operating
system to ask. It has a disk, a scheduler, and a shell with its usual utilities, all of which go by
a clock that only moves as programs do something. Nothing in the library depends on it.
-/

namespace LinkWatch.Host

open LinkWatch.Text LinkWatch.Child LinkWatch.Host.Kernel LinkWatch.Host.Utility
open LinkWatch.Host.Shell

/-- Enough fuel for all requests that are served in time. -/
def requestFuel : Nat := 1000000000000

/-- The variables that programs see. -/
def initialEnvironment : Environment :=
  [("PATH".toList, usualPath), ("HOME".toList, "/root".toList)]

/-- The course of a program that is started by itself, as far as it matters to somebody who waits
for so many nanoseconds. -/
def courseOf (p : Program Nat) (limit : Nat) : Course :=
  let last := limit + startTime + 2 * pollSpacing
  ((System.start systemDisk p.action startTime).run last requestFuel).course

/-- Starts the programs that are installed. -/
def starter (limit : Nat) : Starter := fun program arguments =>
  let c := callOf initialEnvironment ((program :: arguments).map bytesOf)
  match c.resolve (searchDirectories initialEnvironment) false systemDisk with
  | .error e => .error e
  | .ok (name, called) => .ok (courseOf (Shell.perform performFuel name called) limit)

/-- Starts a script of the shell whatever program is asked for; without a script there is none. -/
def scriptStarter (script : Option String) (limit : Nat) : Starter := fun program arguments =>
  match script with
  | none => .error .notFound
  | some s =>
    let c := callOf initialEnvironment ((program :: arguments).map bytesOf)
    .ok (courseOf (startScript (bytesOf s) c) limit)

end LinkWatch.Host
