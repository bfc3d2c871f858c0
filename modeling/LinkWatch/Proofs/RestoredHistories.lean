import LinkWatch.Document.Traffic
import LinkWatch.Proofs.HistoryRuns

/-!
# Histories that were stored and restored

A history is restored with the capacity and the samples that were stored, whatever they are. As long
as it has room and its samples fit into it, it stays that way, and pushes keep the last samples. A
restored history without room, or with more samples than it has room for, is never exactly full: it
loses nothing and grows with every push, until it is cleared.
-/

namespace LinkWatch.Traffic

/-! ## Histories that fit -/

/-- A history that has room for at least one sample, and no more samples than it has room for. -/
structure History.Fits (h : History) : Prop where
  capacity_pos : 0 < h.capacity
  size_le : h.size ≤ h.capacity

/-- A step keeps the capacity. -/
theorem capacity_apply (h : History) (s : HistoryStep) : (h.apply s).capacity = h.capacity := by
  cases s <;> rfl

theorem capacity_run (h : History) (steps : List HistoryStep) :
    (h.run steps).capacity = h.capacity := by
  induction steps generalizing h with
  | nil => rfl
  | cons s steps ih => exact (ih (h.apply s)).trans (capacity_apply h s)

theorem fits_push {h : History} (hh : h.Fits) (x : Float) : (h.push x).Fits where
  capacity_pos := hh.capacity_pos
  size_le := by
    have hle := hh.size_le
    rw [size_push h hh.capacity_pos, capacity_push]
    split <;> omega

theorem fits_clear {h : History} (hpos : 0 < h.capacity) : h.clear.Fits where
  capacity_pos := hpos
  size_le := Nat.zero_le _

/-- A history that fits does so after each step. -/
theorem fits_apply {h : History} (hh : h.Fits) (s : HistoryStep) : (h.apply s).Fits := by
  cases s with
  | push x => exact fits_push hh x
  | clear => exact fits_clear hh.capacity_pos

/-- A history that fits still does after any changes. -/
theorem fits_run {h : History} (hh : h.Fits) (steps : List HistoryStep) : (h.run steps).Fits := by
  induction steps generalizing h with
  | nil => exact hh
  | cons s steps ih => exact ih (fits_apply hh s)

/-- A history that fits is full only when it is exactly full, and then it loses its oldest
sample. -/
theorem samples_push_of_full {h : History} (hh : h.Fits) (hfull : h.capacity ≤ h.size) (x : Float) :
    (h.push x).samples = h.samples.tail ++ [x] := by
  have heq : h.samples.length = h.capacity := Nat.le_antisymm hh.size_le hfull
  rw [History.push, if_pos heq]

/-! ## Samples of a run -/

/-- The samples that changes leave in a history which loses samples only by being cleared. -/
def gathered (samples : List Float) (steps : List HistoryStep) : List Float :=
  steps.foldl (fun all s => match s with | .push x => all ++ [x] | .clear => []) samples

/-- A history that holds the last of some samples holds the last of all samples after any
changes. -/
theorem samples_run {h : History} {all : List Float} (hpos : 0 < h.capacity)
    (hall : h.samples = lastOf h.capacity all) (steps : List HistoryStep) :
    (h.run steps).samples = lastOf h.capacity (gathered all steps) := by
  induction steps generalizing h all with
  | nil => exact hall
  | cons s steps ih =>
    cases s with
    | push x => exact ih (h := h.push x) hpos (samples_push hpos hall x)
    | clear =>
      have hcleared : h.clear.samples = lastOf h.clear.capacity [] := (lastOf_nil _).symm
      exact ih hpos hcleared

/-- A history that fits holds the last items of what is gathered. -/
theorem samples_run_of_fits {h : History} (hh : h.Fits) (steps : List HistoryStep) :
    (h.run steps).samples = lastOf h.capacity (gathered h.samples steps) := by
  have hzero : h.samples.length - h.capacity = 0 := Nat.sub_eq_zero_of_le hh.size_le
  exact samples_run hh.capacity_pos (by rw [lastOf, hzero, List.drop_zero]) steps

/-! ## Histories that do not fit -/

/-- A history that does not fit loses nothing by a push. -/
theorem samples_push_of_not_fits {h : History} (hh : ¬ h.Fits) (x : Float) :
    (h.push x).samples = h.samples ++ [x] := by
  rw [History.push]
  split
  · next heq =>
    -- it is exactly full only if it has no room, and then there is nothing to be lost
    have hempty : h.samples = [] := by
      refine List.length_eq_zero_iff.1 (heq.trans (Nat.eq_zero_of_not_pos fun hpos => ?_))
      exact hh ⟨hpos, Nat.le_of_eq heq⟩
    simp only [hempty, List.tail_nil]
  · rfl

/-- A push makes no history fit. -/
theorem not_fits_push {h : History} (hh : ¬ h.Fits) (x : Float) : ¬ (h.push x).Fits := by
  intro hpush
  refine hh ⟨hpush.capacity_pos, ?_⟩
  have hle := hpush.size_le
  rw [History.size, samples_push_of_not_fits hh, List.length_append, capacity_push] at hle
  exact Nat.le_of_succ_le hle

/-- A history that does not fit keeps everything while it is only pushed to. -/
theorem samples_run_of_not_fits {h : History} (hh : ¬ h.Fits) (values : List Float) :
    (h.run (values.map .push)).samples = h.samples ++ values := by
  induction values generalizing h with
  | nil => exact (List.append_nil h.samples).symm
  | cons x values ih =>
    have hrest := ih (not_fits_push hh x)
    rw [samples_push_of_not_fits hh, List.append_assoc] at hrest
    exact hrest

/-- A push leaves a history that does not fit at least full. -/
theorem full_push_of_not_fits {h : History} (hh : ¬ h.Fits) (x : Float) :
    max h.capacity 1 ≤ (h.push x).size := by
  have hmore : h.capacity = 0 ∨ h.capacity < h.size := by
    by_contra hnot
    exact hh ⟨by omega, by omega⟩
  have hgrown : (h.push x).size = h.size + 1 := by
    rw [History.size, samples_push_of_not_fits hh, List.length_append]
    rfl
  omega

/-! ## Bounds -/

/-- No push after any changes takes the history beyond its room or the size that it has already. -/
def History.StaysBounded (h : History) : Prop :=
  ∀ steps x, ((h.run steps).push x).size ≤ max (max h.capacity 1) (h.run steps).size

/-- Every push to a history that is full after any changes, or more than full, drops its oldest
sample. -/
def History.DropsOldest (h : History) : Prop :=
  ∀ steps x, max h.capacity 1 ≤ (h.run steps).size →
    ((h.run steps).push x).samples = (h.run steps).samples.tail ++ [x]

/-- A history that fits drops its oldest sample once it is full. -/
theorem dropsOldest_of_fits {h : History} (hh : h.Fits) : h.DropsOldest := by
  intro steps x hfull
  refine samples_push_of_full (fits_run hh steps) ?_ x
  rw [capacity_run]
  exact Nat.le_trans (Nat.le_max_left _ _) hfull

/-- A history that fits never holds more than its capacity. -/
theorem staysBounded_of_fits {h : History} (hh : h.Fits) : h.StaysBounded := by
  intro steps x
  have hle := (fits_push (fits_run hh steps) x).size_le
  rw [capacity_push, capacity_run] at hle
  omega

/-- Only histories that fit stay bounded. -/
theorem fits_of_staysBounded {h : History} (hbound : h.StaysBounded) : h.Fits := by
  by_contra hnot
  -- the second of two pushes finds the history full, and drops nothing
  have hle := hbound [.push 0] 0
  have hfull : max h.capacity 1 ≤ (h.run [.push 0]).size := full_push_of_not_fits hnot 0
  have hkept : ((h.run [.push 0]).push 0).samples = (h.run [.push 0]).samples ++ [0] :=
    samples_push_of_not_fits (not_fits_push hnot 0) 0
  rw [Nat.max_eq_right hfull, History.size, hkept, List.length_append] at hle
  exact Nat.not_succ_le_self _ hle

/-- A push that drops a sample does not make the history grow. -/
theorem staysBounded_of_dropsOldest {h : History} (hdrops : h.DropsOldest) : h.StaysBounded := by
  intro steps x
  by_cases hfull : max h.capacity 1 ≤ (h.run steps).size
  · rw [History.size, hdrops steps x hfull, List.length_append, List.length_tail]
    simp only [History.size, List.length_cons, List.length_nil] at hfull ⊢
    omega
  · have hpush : ((h.run steps).push x).size ≤ (h.run steps).size + 1 := by
      simp only [History.size, History.push]
      split <;> simp
    omega

/-- Only the histories that fit stay bounded. -/
theorem staysBounded_iff_fits (h : History) : h.StaysBounded ↔ h.Fits :=
  ⟨fits_of_staysBounded, staysBounded_of_fits⟩

/-- Only the histories that fit drop the oldest sample once they are full. -/
theorem dropsOldest_iff_fits (h : History) : h.DropsOldest ↔ h.Fits :=
  ⟨fun hdrops => fits_of_staysBounded (staysBounded_of_dropsOldest hdrops), dropsOldest_of_fits⟩

/-! ## Restored histories -/

/-- **A restored history is bounded exactly if it fits.** No push ever takes it beyond its room or
the size that it has already, and every push to a full or overfull history drops the oldest sample,
if and only if it was restored with a capacity of at least one and no more samples than that. It
then holds the last of all samples. Otherwise it keeps everything that is pushed, until it is
cleared with a capacity of at least one. -/
theorem restored_bounded_iff_fits (capacity : UInt64) (samples : List Float) :
    let h := History.restore capacity samples
    (h.Fits ↔ 0 < capacity.toNat ∧ samples.length ≤ capacity.toNat) ∧
    (h.StaysBounded ↔ h.Fits) ∧ (h.DropsOldest ↔ h.Fits) ∧
    (h.Fits → ∀ steps, (h.run steps).samples = lastOf capacity.toNat (gathered samples steps)) ∧
    (¬ h.Fits → ∀ values, (h.run (values.map .push)).samples = samples ++ values) ∧
    (0 < capacity.toNat → ∀ steps, (h.run steps).clear.Fits) := by
  intro h
  have hfits : h.Fits ↔ 0 < capacity.toNat ∧ samples.length ≤ capacity.toNat :=
    ⟨fun hh => ⟨hh.capacity_pos, hh.size_le⟩, fun hh => ⟨hh.1, hh.2⟩⟩
  have hcleared : 0 < capacity.toNat → ∀ steps, (h.run steps).clear.Fits := by
    intro hpos steps
    have hcapacity : (h.run steps).capacity = capacity.toNat := capacity_run h steps
    exact fits_clear (hcapacity.symm ▸ hpos)
  exact ⟨hfits, staysBounded_iff_fits h, dropsOldest_iff_fits h, samples_run_of_fits,
    samples_run_of_not_fits, hcleared⟩

/-- A history that was restored without room has two samples after two pushes. -/
theorem restored_without_room_grows :
    (((History.restore 0 []).run [.push 1.5]).push 2.5).size = 2 ∧
      max (max (History.restore 0 []).capacity 1)
        ((History.restore 0 []).run [.push 1.5]).size = 1 ∧
      ¬ ∀ capacity samples, (History.restore capacity samples).StaysBounded := by
  refine ⟨rfl, rfl, fun hbound => ?_⟩
  have hle : 2 ≤ 1 := hbound 0 [] [.push 1.5] 2.5
  omega

end LinkWatch.Traffic
