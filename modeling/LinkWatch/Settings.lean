/-!
# Settings

What can be configured, and the values in force where nothing is.
-/

namespace LinkWatch

/-- How traffic is sampled. -/
structure Sampling where
  /-- Milliseconds between two readings. -/
  interval : UInt64 := 1000
  /-- How many interfaces a report lists; more than three are never listed. -/
  topInterfaces : UInt64 := 3
  /-- How many samples the histories keep. -/
  trendCapacity : UInt64 := 60
  /-- Starts of interface names that count as noise besides the built-in ones. -/
  extraNoise : List String := []
  deriving DecidableEq, Repr, Inhabited

/-- How proxies are detected. -/
structure Detection where
  /-- Milliseconds that the system query may take. -/
  queryTimeout : UInt64 := 500
  /-- Milliseconds for which a detected status is used again. -/
  pollInterval : UInt64 := 5000
  /-- Whether the system may be asked at all. -/
  systemQuery : Bool := true
  deriving DecidableEq, Repr, Inhabited

/-- All settings. -/
structure Settings where
  sampling : Sampling := {}
  detection : Detection := {}
  deriving DecidableEq, Repr, Inhabited

/-- Nanoseconds between two checks of the proxy. -/
def Detection.pollNanoseconds (d : Detection) : Nat :=
  d.pollInterval.toNat * 1000000

end LinkWatch
