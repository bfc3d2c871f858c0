import LinkWatch.Proofs.MeterRuns
import Mathlib.Data.List.FinRange

/-!
# The busiest rows of a reading

A ranking lists the busiest rows of a reading and nothing else: the rows that pass the filter and
that the earlier reading knows, the greatest totals first, equal ones in the order of the reading,
and none is left out in favour of a smaller one. Names may occur more than once, so rows are told
apart by their positions.
-/

namespace LinkWatch.Traffic

/-! ## What there is to be ranked -/

/-- The place of a double in the total order of doubles: sign and magnitude read as an integer,
with the negative zero just below the positive one. -/
def totalPlace (x : Float) : Int :=
  if x.toBits.toNat < 0x8000000000000000 then x.toBits.toNat
  else 0x7fffffffffffffff - x.toBits.toNat

/-- A row that can be ranked: its name is no noise, and the earlier reading has it. -/
def Rankable (filter : NoiseFilter) (previous : Reading) (row : Counter) : Prop :=
  filter.isNoise row.name = false ∧ ∃ before ∈ previous, before.name = row.name

instance (filter : NoiseFilter) (previous : Reading) (row : Counter) :
    Decidable (Rankable filter previous row) :=
  inferInstanceAs (Decidable (_ ∧ _))

/-- A double stands for a span of nanoseconds: the whole seconds in it, and to them added the rest,
of less than a second, in units of a second. Both parts are doubles before they are added. -/
def IsSeconds (nanoseconds : Nat) (x : Float) : Prop :=
  ∃ whole rest, nanoseconds = whole * 1000000000 + rest ∧ rest < 1000000000 ∧
    x = (UInt64.ofNat whole).toFloat + (UInt64.ofNat rest).toFloat / 1000000000.0

/-- The seconds between two times if there are any, and else one second. -/
def spanSeconds (before after : Nat) : Float :=
  if before ≤ after ∧ 0.0 < secondsOf (after - before) then secondsOf (after - before) else 1.0

/-- The growth of a counter in units of 2^20 bytes per second; a counter that fell has not grown. -/
def growthRate (before after : UInt64) (seconds : Float) : Float :=
  (UInt64.ofNat (after.toNat - before.toNat)).toFloat / 1048576.0 / seconds

/-- What a ranking says of a row: its growth since the last earlier row of its name, and the
address that belongs to the name. -/
def rowReport (addresses : Addresses) (previous current : Snapshot) (row : Counter) :
    Throughput :=
  let before := ((previous.reading.filter (·.name == row.name)).getLast?).getD row
  let seconds := spanSeconds previous.time current.time
  { name := row.name
    receiving := growthRate before.received row.received seconds
    sending := growthRate before.sent row.sent seconds
    address := addresses.lookup row.name }

/-- The place of a row's total rate in the total order. -/
def rowPlace (addresses : Addresses) (previous current : Snapshot)
    (i : Fin current.reading.length) : Int :=
  let report := rowReport addresses previous current current.reading[i]
  totalPlace (report.receiving + report.sending)

/-- One position stands before another: by the greater value, and among equal values by the order
of the positions. -/
def StandsBefore {n : Nat} (value : Fin n → Int) (i j : Fin n) : Prop :=
  value j < value i ∨ value i = value j ∧ i < j

/-- Some positions of a reading are those of its busiest rows, in order, and `rows` reports them.
No row that can be ranked is left out unless all reported ones stand before it. -/
structure ListsBusiest (filter : NoiseFilter) (top : Nat) (addresses : Addresses)
    (previous current : Snapshot) (rows : List Throughput)
    (positions : List (Fin current.reading.length)) : Prop where
  nodup : positions.Nodup
  rankable : ∀ i ∈ positions, Rankable filter previous.reading current.reading[i]
  length_eq : positions.length =
    min top (current.reading.countP fun row => Rankable filter previous.reading row)
  rows_eq : rows = positions.map fun i => rowReport addresses previous current current.reading[i]
  ordered : positions.Pairwise (StandsBefore (rowPlace addresses previous current))
  complete : ∀ j, Rankable filter previous.reading current.reading[j] → j ∉ positions →
    ∀ i ∈ positions, StandsBefore (rowPlace addresses previous current) i j

/-! ## Rates and their order -/

/-- An advance is the truncated difference of the counters. -/
theorem advance_eq (before after : UInt64) :
    advance before after = UInt64.ofNat (after.toNat - before.toNat) := by
  rw [← toNat_advance, UInt64.ofNat_toNat]

/-- The rate of the source is the growth in units of a mebibyte, over the seconds. -/
theorem rate_eq_growthRate (before after : UInt64) (seconds : Float) :
    rate before after seconds = growthRate before after seconds := by
  rw [rate, growthRate, advance_eq]

/-- There is one double that stands for a span, and it is the span in seconds. -/
theorem isSeconds_iff {nanoseconds : Nat} {x : Float} :
    IsSeconds nanoseconds x ↔ x = secondsOf nanoseconds := by
  constructor
  · rintro ⟨whole, rest, rfl, hrest, rfl⟩
    have hwhole : (whole * 1000000000 + rest) / 1000000000 = whole := by omega
    have hmod : (whole * 1000000000 + rest) % 1000000000 = rest := by omega
    rw [secondsOf, hwhole, hmod]
  · rintro rfl
    exact ⟨_, _, (Nat.div_add_mod' nanoseconds 1000000000).symm, Nat.mod_lt _ (by decide), rfl⟩

/-- A span of a second and a half. -/
example : IsSeconds 1500000000 1.5 :=
  isSeconds_iff.2 (by decide +kernel)

theorem elapsedSeconds_eq_spanSeconds (before after : Nat) :
    elapsedSeconds before after = spanSeconds before after := by
  unfold elapsedSeconds spanSeconds
  by_cases h : before ≤ after
  · simp [h]
  · simp [h]

/-- The key by which rankings are sorted is the place in the total order, shifted. -/
theorem orderKey_eq (x : Float) : (orderKey x : Int) = totalPlace x + 0x8000000000000000 := by
  have hlt : x.toBits.toNat < UInt64.size := x.toBits.toNat_lt
  have hsize : UInt64.size = 0x10000000000000000 := rfl
  have hsign : Decimal.signBit = 0x8000000000000000 := rfl
  rw [hsize] at hlt
  simp only [orderKey, totalPlace, hsize, hsign]
  split <;> omega

/-- The comparison by bits is the one by places in the total order of doubles. -/
theorem leads_iff (a b : Throughput) :
    a.leads b = true ↔ totalPlace b.total ≤ totalPlace a.total := by
  have ha := orderKey_eq a.total
  have hb := orderKey_eq b.total
  simp only [Throughput.leads, decide_eq_true_eq]
  omega

/-! ## The rows of a reading -/

/-- The last row of a name is the last one left when only the rows of that name are kept. -/
theorem last?_eq_getLast?_filter (reading : Reading) (name : String) :
    reading.last? name = (reading.filter (·.name == name)).getLast? := by
  rw [Reading.last?, ← List.head?_filter, List.filter_reverse, List.head?_reverse]

/-- A row is taken into a ranking if it can be ranked, with its report. -/
theorem throughput?_eq (filter : NoiseFilter) (addresses : Addresses)
    (previous current : Snapshot) (row : Counter) :
    throughput? filter addresses previous.reading
        (elapsedSeconds previous.time current.time) row =
      if Rankable filter previous.reading row then
        some (rowReport addresses previous current row)
      else none := by
  unfold throughput?
  rw [last?_eq_getLast?_filter]
  cases hnoise : filter.isNoise row.name with
  | true => simp [Rankable, hnoise]
  | false =>
    cases hlast : (previous.reading.filter (·.name == row.name)).getLast? with
    | none =>
      -- no earlier row has the name, and so the row cannot be ranked
      rw [List.getLast?_eq_none_iff, List.filter_eq_nil_iff] at hlast
      have hno : ¬ Rankable filter previous.reading row := by
        rintro ⟨-, before, hmem, hname⟩
        exact hlast before hmem (by simp [hname])
      simp [hno]
    | some before =>
      have hmem := List.mem_filter.1 (List.mem_of_getLast? hlast)
      have hyes : Rankable filter previous.reading row :=
        ⟨hnoise, before, hmem.1, by simpa using hmem.2⟩
      simp [hyes, rowReport, hlast, rate_eq_growthRate, elapsedSeconds_eq_spanSeconds]

/-- The positions of the rows that can be ranked, in the order of the reading. -/
def rankablePositions (filter : NoiseFilter) (previous current : Snapshot) :
    List (Fin current.reading.length) :=
  (List.finRange current.reading.length).filter fun i =>
    Rankable filter previous.reading current.reading[i]

/-- The positions to be ranked are those of rows that can be ranked. -/
theorem mem_rankablePositions {filter : NoiseFilter} {previous current : Snapshot}
    {i : Fin current.reading.length} :
    i ∈ rankablePositions filter previous current ↔
      Rankable filter previous.reading current.reading[i] := by
  simp [rankablePositions, List.mem_finRange]

theorem increasing_rankablePositions (filter : NoiseFilter) (previous current : Snapshot) :
    (rankablePositions filter previous current).Pairwise (· < ·) :=
  (List.pairwise_lt_finRange _).filter _

/-- There are as many positions to be ranked as rows that can be ranked. -/
theorem length_rankablePositions (filter : NoiseFilter) (previous current : Snapshot) :
    (rankablePositions filter previous current).length =
      current.reading.countP fun row => Rankable filter previous.reading row := by
  conv_rhs => rw [← List.map_get_finRange current.reading]
  rw [List.countP_map, List.countP_eq_length_filter]
  rfl

/-- The rows that are ranked are the reports on the rows that can be. -/
theorem rows_eq_map_rankablePositions (filter : NoiseFilter) (addresses : Addresses)
    (previous current : Snapshot) :
    current.reading.filterMap (throughput? filter addresses previous.reading
        (elapsedSeconds previous.time current.time)) =
      (rankablePositions filter previous current).map fun i =>
        rowReport addresses previous current current.reading[i] := by
  conv_lhs => rw [← List.map_get_finRange current.reading]
  rw [List.filterMap_map, rankablePositions, ← List.filterMap_eq_map, List.filterMap_filter]
  congr 1
  funext i
  rw [Function.comp_apply, throughput?_eq]
  simp

/-! ## A stable sort of positions -/

section StableSort

variable {α : Type} (value : α → Int)

/-- Sorting by descending value. -/
def sortByValue (l : List α) : List α :=
  l.mergeSort fun a b => decide (value b ≤ value a)

theorem descending_trans (a b c : α) (hab : decide (value b ≤ value a) = true)
    (hbc : decide (value c ≤ value b) = true) : decide (value c ≤ value a) = true := by
  simp only [decide_eq_true_eq] at *
  omega

theorem descending_total (a b : α) :
    (decide (value b ≤ value a) || decide (value a ≤ value b)) = true := by
  simp only [Bool.or_eq_true, decide_eq_true_eq]
  omega

theorem sortByValue_perm (l : List α) : (sortByValue value l).Perm l :=
  List.mergeSort_perm l _

theorem pairwise_sortByValue (l : List α) :
    (sortByValue value l).Pairwise fun a b => value b ≤ value a :=
  (List.pairwise_mergeSort (descending_trans value) (descending_total value) l).imp
    fun h => of_decide_eq_true h

/-- Members of one value keep their order. -/
theorem filter_sortByValue (l : List α) (v : Int) :
    (sortByValue value l).filter (fun a => value a = v) = l.filter fun a => value a = v := by
  have hequal : (l.filter fun a => value a = v).Pairwise
      fun a b => decide (value b ≤ value a) = true := by
    rw [List.pairwise_iff_forall_sublist]
    intro a b hab
    have ha : value a = v := by simpa using List.of_mem_filter (hab.subset (by simp : a ∈ [a, b]))
    have hb : value b = v := by simpa using List.of_mem_filter (hab.subset (by simp : b ∈ [a, b]))
    rw [ha, hb]
    simp
  have hsub : (l.filter fun a => value a = v).Sublist (sortByValue value l) :=
    List.sublist_mergeSort (descending_trans value) (descending_total value) hequal
      List.filter_sublist
  -- the sublist that is kept has full length, so it is all that there is of this value
  have hfilter := hsub.filter fun a => value a = v
  simp only [List.filter_filter, Bool.and_self] at hfilter
  have hlength := ((sortByValue_perm value l).filter fun a => value a = v).length_eq
  exact (hfilter.eq_of_length hlength.symm).symm

/-- Sorting images by a value is sorting what they are images of. -/
theorem map_sortByValue {β : Type} (f : β → α) (l : List β) :
    (sortByValue (value ∘ f) l).map f = sortByValue value (l.map f) :=
  List.map_mergeSort fun _ _ _ _ => rfl

end StableSort

/-- Sorting increasing positions by descending value puts equal values in increasing order. -/
theorem pairwise_standsBefore_sortByValue {n : Nat} (value : Fin n → Int) {l : List (Fin n)}
    (hl : l.Pairwise (· < ·)) : (sortByValue value l).Pairwise (StandsBefore value) := by
  have hsorted := pairwise_sortByValue value l
  rw [List.pairwise_iff_forall_sublist] at hsorted hl ⊢
  intro i j hij
  rcases (hsorted hij).lt_or_eq with hlt | heq
  · exact Or.inl hlt
  · -- both have one value, and the members of that value stand as they stood before
    have hkept := hij.filter fun k => value k = value i
    rw [filter_sortByValue, List.filter_cons_of_pos (by simp), List.filter_cons_of_pos
      (by simp [heq])] at hkept
    exact Or.inr ⟨heq.symm, hl (hkept.trans List.filter_sublist)⟩

/-! ## The ranking -/

/-- Rankings are sorted by the place of the total rate. -/
theorem mergeSort_leads (rows : List Throughput) :
    rows.mergeSort Throughput.leads = sortByValue (fun t => totalPlace t.total) rows := by
  have hleads : Throughput.leads = fun a b => decide (totalPlace b.total ≤ totalPlace a.total) := by
    funext a b
    rw [Bool.eq_iff_iff, leads_iff, decide_eq_true_eq]
  rw [hleads, sortByValue]

/-- The positions of a ranking: those of the rows that can be ranked, sorted and cut. -/
def rankedPositions (filter : NoiseFilter) (top : Nat) (addresses : Addresses)
    (previous current : Snapshot) : List (Fin current.reading.length) :=
  (sortByValue (rowPlace addresses previous current)
    (rankablePositions filter previous current)).take top

/-- The ranking reports the rows at the ranked positions, in their order. -/
theorem ranking_eq_map_rankedPositions (filter : NoiseFilter) (top : Nat) (addresses : Addresses)
    (previous current : Snapshot) :
    ranking filter top addresses previous current =
      (rankedPositions filter top addresses previous current).map fun i =>
        rowReport addresses previous current current.reading[i] := by
  rw [ranking, rows_eq_map_rankablePositions, mergeSort_leads, ← map_sortByValue, ← List.map_take]
  rfl

/-- A ranking lists the busiest rows. -/
theorem ranking_listsBusiest (filter : NoiseFilter) (top : Nat) (addresses : Addresses)
    (previous current : Snapshot) :
    ListsBusiest filter top addresses previous current
      (ranking filter top addresses previous current)
      (rankedPositions filter top addresses previous current) := by
  have hsorted := pairwise_standsBefore_sortByValue (rowPlace addresses previous current)
    (increasing_rankablePositions filter previous current)
  have hperm := sortByValue_perm (rowPlace addresses previous current)
    (rankablePositions filter previous current)
  constructor
  case nodup =>
    have hnodup := (increasing_rankablePositions filter previous current).imp fun h => h.ne
    exact (hperm.nodup_iff.2 hnodup).sublist (List.take_sublist _ _)
  case rankable =>
    intro i hi
    exact mem_rankablePositions.1 (hperm.subset (List.mem_of_mem_take hi))
  case length_eq =>
    rw [rankedPositions, List.length_take, hperm.length_eq, length_rankablePositions]
  case rows_eq => exact ranking_eq_map_rankedPositions filter top addresses previous current
  case ordered => exact hsorted.sublist (List.take_sublist _ _)
  case complete =>
    intro j hj hout i hi
    have hmem := hperm.symm.subset (mem_rankablePositions.2 hj)
    -- what is sorted falls into the part that is kept and the part that is cut off
    rw [← List.take_append_drop top (sortByValue _ _)] at hsorted hmem
    have hdrop := (List.mem_append.1 hmem).resolve_left hout
    exact (List.pairwise_append.1 hsorted).2.2 i hi j hdrop

/-- **An update lists the true busiest rows.** After any run that has left a baseline, an update
lists the busiest of the rows that can be ranked against that baseline, as many as the settings ask
for but at least one and at most three. -/
theorem update_lists_busiest (settings : Sampling) (steps : List MeterStep) (previous : Snapshot)
    (hbaseline : ((Meter.new settings).run steps).baseline = some previous) (time : Nat)
    (reading : Reading) (addresses : Addresses) :
    ∃ positions : List (Fin reading.length),
      ListsBusiest (NoiseFilter.ofList settings.extraNoise)
        (min (max settings.topInterfaces.toNat 1) 3) addresses previous ⟨time, reading⟩
        (((Meter.new settings).run steps).update time reading addresses).1 positions := by
  obtain ⟨hfilter, htop⟩ := run_settings settings steps
  rw [update_rows, hbaseline, hfilter, htop]
  exact ⟨_, ranking_listsBusiest _ _ addresses previous ⟨time, reading⟩⟩

/-- With a name that occurs twice, a name that is noise and one that is new, two rows are listed:
under a clock that went back, and after a second and a half, in which the later row of the name grew
by two units of 2^20 bytes. -/
theorem busiest_of_repeated_names :
    let before : Snapshot := ⟨5000000000, [⟨"eth0", 0, 0⟩, ⟨"lo", 7, 7⟩, ⟨"eth0", 1048576, 0⟩]⟩
    let reading : Reading :=
      [⟨"lo", 9, 9⟩, ⟨"eth0", 2097152, 0⟩, ⟨"eth1", 5, 5⟩, ⟨"eth0", 3145728, 3⟩]
    let m := (Meter.new {}).run [.update before.time before.reading []]
    m.baseline = some before ∧
      (∃ positions, positions.length = 2 ∧
        ListsBusiest NoiseFilter.builtin 3 [] before ⟨2000000000, reading⟩
          (m.update 2000000000 reading []).1 positions) ∧
      ∃ positions, positions.length = 2 ∧
        ListsBusiest NoiseFilter.builtin 3 [] before ⟨6500000000, reading⟩
          (m.update 6500000000 reading []).1 positions ∧
        spanSeconds before.time 6500000000 = 1.5 ∧
        (rowReport [] before ⟨6500000000, reading⟩ ⟨"eth0", 3145728, 3⟩).receiving = 2.0 / 1.5 := by
  intro before reading m
  have hlists (time : Nat) : ∃ positions, positions.length = 2 ∧
      ListsBusiest NoiseFilter.builtin 3 [] before ⟨time, reading⟩
        (m.update time reading []).1 positions := by
    obtain ⟨positions, hlists⟩ := update_lists_busiest {} [.update before.time before.reading []]
      before rfl time reading []
    have hcount : (reading.countP fun row => Rankable NoiseFilter.builtin before.reading row) =
        2 := by
      decide +kernel
    refine ⟨positions, ?_, hlists⟩
    rw [hlists.length_eq]
    exact congrArg (min 3) hcount
  obtain ⟨positions, hlength, hpositive⟩ := hlists 6500000000
  exact ⟨rfl, hlists 2000000000, positions, hlength, hpositive, by decide +kernel,
    by decide +kernel⟩

end LinkWatch.Traffic
