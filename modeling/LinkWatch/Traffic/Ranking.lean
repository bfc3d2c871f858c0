import LinkWatch.Decimal.Nearest
import LinkWatch.Traffic.Counter
import LinkWatch.Traffic.Noise

/-!
# The busiest interfaces

Two snapshots give a rate for each interface that both of them hold. The rates, in units of 2^20
bytes per second, are ranked by their sum, and the first few are kept.
-/

namespace LinkWatch.Traffic

/-- The throughput of one interface between two snapshots. -/
structure Throughput where
  name : String
  receiving : Float
  sending : Float
  address : Option String

/-- The rate by which interfaces are ranked. -/
def Throughput.total (t : Throughput) : Float :=
  t.receiving + t.sending

/-- The rate at which a counter advanced during `seconds`. -/
def rate (previous current : UInt64) (seconds : Float) : Float :=
  (advance previous current).toFloat / 1048576.0 / seconds

/-- A number of nanoseconds in seconds: the whole seconds plus the rest. -/
def secondsOf (nanoseconds : Nat) : Float :=
  (UInt64.ofNat (nanoseconds / 1000000000)).toFloat
    + (UInt64.ofNat (nanoseconds % 1000000000)).toFloat / 1000000000.0

/-- The seconds between two times. A clock that stood still or went back counts as one second. -/
def elapsedSeconds (before after : Nat) : Float :=
  if before ≤ after then
    let s := secondsOf (after - before)
    if 0.0 < s then s else 1.0
  else 1.0

/-- A key whose order on natural numbers is the total order on doubles: negative numbers with
their magnitude reversed, below all positive ones. -/
def orderKey (x : Float) : Nat :=
  let bits := x.toBits.toNat
  if bits < Decimal.signBit then bits + Decimal.signBit else UInt64.size - 1 - bits

/-- Whether `a` may stand before `b` in a ranking. -/
def Throughput.leads (a b : Throughput) : Bool :=
  orderKey b.total ≤ orderKey a.total

/-- The most interfaces that a ranking reports. -/
def maxReported : Nat := 3

/-- The number of interfaces reported for a configured number. -/
def reported (configured : Nat) : Nat :=
  min (max configured 1) maxReported

/-- The throughput of a row of the current reading, if the filter passes its name and the earlier
reading has it. -/
def throughput? (filter : NoiseFilter) (addresses : Addresses) (previous : Reading)
    (seconds : Float) (row : Counter) : Option Throughput :=
  if filter.isNoise row.name then none
  else
    (previous.last? row.name).map fun before =>
      ⟨row.name, rate before.received row.received seconds, rate before.sent row.sent seconds,
        addresses.lookup row.name⟩

/-- The busiest interfaces between two snapshots, busiest first; of equally busy ones the one
enumerated first. -/
def ranking (filter : NoiseFilter) (top : Nat) (addresses : Addresses)
    (previous current : Snapshot) :
    List Throughput :=
  let seconds := elapsedSeconds previous.time current.time
  let rows := current.reading.filterMap (throughput? filter addresses previous.reading seconds)
  (rows.mergeSort Throughput.leads).take top

/-- The sum of rates in list order. It starts from negative zero, which is the sum of no rates. -/
def sumRates (rates : List Float) : Float :=
  rates.foldl (· + ·) (-0.0)

end LinkWatch.Traffic
