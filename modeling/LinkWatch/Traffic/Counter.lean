/-!
# Byte counters

What an interface has received and sent since its counters started, and the reading that holds
the counters of all interfaces at one time.
-/

namespace LinkWatch.Traffic

/-- The counters of one interface. -/
structure Counter where
  name : String
  received : UInt64
  sent : UInt64
  deriving DecidableEq, Repr

/-- The sum of two counters, held at the largest value that a counter can show. -/
def addCapped (a b : UInt64) : UInt64 :=
  if a.toNat + b.toNat < UInt64.size then a + b else 0xffffffffffffffff

/-- How far a counter has advanced; a counter that went back has not advanced. -/
def advance (previous current : UInt64) : UInt64 :=
  if previous ≤ current then current - previous else 0

/-- Whether the interface has moved any traffic at all. -/
def Counter.hasTraffic (c : Counter) : Bool :=
  0 < addCapped c.received c.sent

/-- The counters of all interfaces, in the order of their enumeration. -/
abbrev Reading := List Counter

/-- The first row of a name. -/
def Reading.first? (reading : Reading) (name : String) : Option Counter :=
  reading.find? (·.name == name)

/-- The last row of a name. -/
def Reading.last? (reading : Reading) (name : String) : Option Counter :=
  reading.reverse.find? (·.name == name)

/-- The address of each interface that has one. -/
abbrev Addresses := List (String × String)

/-- A reading and the time, in nanoseconds, at which it was taken. -/
structure Snapshot where
  time : Nat
  reading : Reading
  deriving DecidableEq, Repr

/-! ## Small facts -/

/-- Advances are differences of natural numbers, cut off at zero. -/
theorem toNat_advance (previous current : UInt64) :
    (advance previous current).toNat = current.toNat - previous.toNat := by
  unfold advance
  split
  · next h => exact UInt64.toNat_sub_of_le _ _ h
  · next h =>
    have : current.toNat < previous.toNat := by
      rw [← UInt64.lt_iff_toNat_lt]
      exact UInt64.not_le.1 h
    simp
    omega

/-- The capped sum is zero only when both counters are. -/
theorem hasTraffic_iff (c : Counter) : c.hasTraffic = true ↔ c.received ≠ 0 ∨ c.sent ≠ 0 := by
  have hr : c.received = 0 ↔ c.received.toNat = 0 := by
    rw [← UInt64.toNat_inj]; simp
  have hs : c.sent = 0 ↔ c.sent.toNat = 0 := by
    rw [← UInt64.toNat_inj]; simp
  unfold Counter.hasTraffic addCapped
  rw [decide_eq_true_eq, UInt64.lt_iff_toNat_lt]
  split
  · next h =>
    rw [UInt64.toNat_add, Nat.mod_eq_of_lt h]
    simp only [UInt64.toNat_zero, ne_eq, hr, hs]
    omega
  · next h =>
    simp only [UInt64.toNat_zero, ne_eq, hr, hs]
    have hsize : UInt64.size = 18446744073709551616 := rfl
    refine ⟨fun _ => ?_, fun _ => by decide⟩
    omega

end LinkWatch.Traffic
