import LinkWatch.Decimal.Nearest

/-!
# A bounded history

The last few samples of a rate, oldest first. A full history loses its oldest sample with every
new one.

A new history asks for the memory of all its samples at once. Where it does not get it, the program
ends and there is no history: `History.new` tells what a history is like where there is room for it.
-/

namespace LinkWatch.Traffic

/-- Samples, oldest first, and the number at which the history counts as full. -/
structure History where
  capacity : Nat
  samples : List Float

/-- An empty history of at least one place. -/
def History.new (capacity : Nat) : History :=
  ⟨max capacity 1, []⟩

/-- The bytes that a new history asks for, eight for each sample. -/
def History.newSize (capacity : Nat) : Nat :=
  (History.new capacity).capacity * 8

/-- Why there is no room for a new history. -/
inductive NoRoom where
  /-- Nobody can ask for half of all addresses at once. -/
  | beyondAddresses
  /-- The system does not give as much. -/
  | refused
  deriving DecidableEq, Repr

/-- Why there is no room for a new history, if that is so, where the system gives so many bytes of
memory at once. -/
def History.noRoom? (memory capacity : Nat) : Option NoRoom :=
  if Decimal.signBit ≤ newSize capacity then some .beyondAddresses
  else if memory < newSize capacity then some .refused
  else none

/-- The capacity of a history that nobody has configured. -/
def History.defaultCapacity : Nat := 60

/-- Adds the newest sample. The oldest one is lost when the history is exactly full. -/
def History.push (h : History) (x : Float) : History :=
  { h with samples := (if h.samples.length = h.capacity then h.samples.tail else h.samples) ++ [x] }

/-- Forgets all samples. -/
def History.clear (h : History) : History :=
  { h with samples := [] }

/-- The number of samples. -/
def History.size (h : History) : Nat :=
  h.samples.length

/-- Whether there are no samples. -/
def History.isEmpty (h : History) : Bool :=
  h.samples.isEmpty

/-- The newest sample. -/
def History.latest? (h : History) : Option Float :=
  h.samples.getLast?

/-- The greater of two samples; one that is not a number loses to one that is. -/
def greater (x y : Float) : Float :=
  if x.isNaN then y
  else if y.isNaN then x
  else if x < y then y
  else x

/-- The greatest sample. -/
def History.max? (h : History) : Option Float :=
  match h.samples with
  | [] => none
  | x :: xs => some (xs.foldl greater x)

/-- A change of a history. -/
inductive HistoryStep where
  | push (x : Float)
  | clear

/-- The history after a change. -/
def History.apply (h : History) : HistoryStep → History
  | .push x => h.push x
  | .clear => h.clear

/-- The history after a sequence of changes. -/
def History.run (h : History) (steps : List HistoryStep) : History :=
  steps.foldl History.apply h

/-! ## Small facts -/

@[simp] theorem capacity_push (h : History) (x : Float) : (h.push x).capacity = h.capacity := rfl

theorem capacity_new_pos (capacity : Nat) : 0 < (History.new capacity).capacity := by
  simp only [History.new]
  omega

/-- Eight bytes for each sample have to fit into less than half of all addresses, and into what the
system gives. -/
theorem noRoom?_eq (memory capacity : Nat) :
    History.noRoom? memory capacity =
      if 0x8000000000000000 ≤ max capacity 1 * 8 then some .beyondAddresses
      else if memory < max capacity 1 * 8 then some .refused
      else none :=
  rfl

/-- The newest sample is the one just added. -/
theorem latest?_push (h : History) (x : Float) : (h.push x).latest? = some x := by
  simp [History.push, History.latest?]

/-- The size grows by one, and a history that was exactly full keeps its size. -/
theorem size_push (h : History) (hc : 0 < h.capacity) (x : Float) :
    (h.push x).size = if h.size = h.capacity then h.size else h.size + 1 := by
  unfold History.size History.push
  split
  · next e => simp; omega
  · next e => simp

end LinkWatch.Traffic
