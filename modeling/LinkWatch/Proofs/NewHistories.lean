import LinkWatch.Proofs.RestoredHistories

/-!
# Histories from the start

A new history always fits, so whatever is pushed and cleared it holds the last of the samples that
were pushed since it was last cleared, as many as it has room for. What it tells of itself, its
size, its newest sample and whether it is empty, is true of all those samples.
-/

namespace LinkWatch.Traffic

/-! ## Samples since the last clearing -/

/-- The samples that were pushed since the history was last cleared, or since the start. -/
def PushedSinceClear (steps : List HistoryStep) (values : List Float) : Prop :=
  steps = values.map .push ∨ ∃ earlier, steps = earlier ++ .clear :: values.map .push

theorem gathered_append (samples : List Float) (steps more : List HistoryStep) :
    gathered samples (steps ++ more) = gathered (gathered samples steps) more :=
  List.foldl_append

/-- Pushes are gathered behind what there is. -/
theorem gathered_map_push (samples values : List Float) :
    gathered samples (values.map .push) = samples ++ values := by
  induction values generalizing samples with
  | nil => exact (List.append_nil samples).symm
  | cons x values ih =>
    calc gathered samples ((x :: values).map .push)
        = gathered (samples ++ [x]) (values.map .push) := rfl
      _ = samples ++ [x] ++ values := ih (samples ++ [x])
      _ = samples ++ x :: values := List.append_assoc samples [x] values

/-- What a history gathers from nothing was pushed since the last clearing. -/
theorem pushedSinceClear_gathered (steps : List HistoryStep) :
    PushedSinceClear steps (gathered [] steps) := by
  -- from the end: a clearing starts anew, and a push adds to what was gathered before it
  induction steps using List.reverseRecOn with
  | nil => exact .inl rfl
  | append_singleton steps s ih =>
    rw [gathered_append]
    cases s with
    | clear => exact .inr ⟨steps, rfl⟩
    | push x =>
      have hlast : gathered (gathered [] steps) [.push x] = gathered [] steps ++ [x] := rfl
      rw [hlast]
      rcases ih with hall | ⟨earlier, hsince⟩
      · left
        rw [List.map_append, ← hall]
        rfl
      · right
        refine ⟨earlier, ?_⟩
        rw [List.map_append, ← List.cons_append, ← List.append_assoc, ← hsince]
        rfl

/-- What was pushed since the last clear is what is gathered from nothing. -/
theorem pushedSinceClear_iff {steps : List HistoryStep} {values : List Float} :
    PushedSinceClear steps values ↔ values = gathered [] steps := by
  constructor
  · rintro (rfl | ⟨earlier, rfl⟩)
    · exact (gathered_map_push [] values).symm
    · rw [gathered_append]
      exact (gathered_map_push [] values).symm
  · rintro rfl
    exact pushedSinceClear_gathered steps

/-! ## What a history tells of itself -/

/-- The last of some last items is the last of all. -/
theorem getLast?_lastOf {α : Type} {k : Nat} (hk : 0 < k) (l : List α) :
    (lastOf k l).getLast? = l.getLast? := by
  rw [lastOf, List.getLast?_drop]
  split
  · next hshort =>
    have hnil : l = [] := List.length_eq_zero_iff.1 (by omega)
    rw [hnil, List.getLast?_nil]
  · rfl

theorem lastOf_eq_nil_iff {α : Type} {k : Nat} (hk : 0 < k) (l : List α) :
    lastOf k l = [] ↔ l = [] := by
  rw [← List.length_eq_zero_iff, ← List.length_eq_zero_iff, length_lastOf]
  omega

theorem fits_new (capacity : Nat) : (History.new capacity).Fits where
  capacity_pos := capacity_new_pos capacity
  size_le := Nat.zero_le _

/-- A new history holds the last items of what is gathered. -/
theorem samples_run_new (capacity : Nat) (steps : List HistoryStep) :
    ((History.new capacity).run steps).samples =
      lastOf (max capacity 1) (gathered [] steps) :=
  samples_run_of_fits (fits_new capacity) steps

/-- **A new history holds the latest pushes.** After any changes its samples are the last of the
values that were pushed since it was last cleared, oldest first, as many as its capacity, which is
one at least. Its size never exceeds that capacity, its newest sample is the last of those values,
and it is empty exactly if there are none. -/
theorem new_history_holds_latest_pushes (capacity : Nat) (steps : List HistoryStep) :
    let h := (History.new capacity).run steps
    let room := max capacity 1
    ∃ values, (∀ other, PushedSinceClear steps other ↔ other = values) ∧
      h.samples = lastOf room values ∧ h.size = min room values.length ∧
      h.capacity = room ∧ h.size ≤ h.capacity ∧ h.latest? = values.getLast? ∧
      (h.isEmpty = true ↔ values = []) := by
  intro h room
  have hroom : 0 < room := capacity_new_pos capacity
  have hsamples : h.samples = lastOf room (gathered [] steps) := samples_run_new capacity steps
  refine ⟨gathered [] steps, fun _ => pushedSinceClear_iff, hsamples, ?_, ?_, ?_, ?_, ?_⟩
  · rw [History.size, hsamples, length_lastOf]
  · exact capacity_run (History.new capacity) steps
  · exact (fits_run (fits_new capacity) steps).size_le
  · rw [History.latest?, hsamples, getLast?_lastOf hroom]
  · rw [History.isEmpty, List.isEmpty_iff, hsamples, lastOf_eq_nil_iff hroom]

end LinkWatch.Traffic
