import LinkWatch.Proofs.ListingOrder

/-!
# The tunnel that is told

Of the tunnels that have carried traffic the one with the least name is told, with a plus sign when
there are more of them. Neither the order of a reading nor its other rows have a part in this.
-/

namespace LinkWatch.Proxy

open LinkWatch.Text LinkWatch.Traffic

/-! ## Active rows -/

/-- The name of a tunnel starts with `utun` or `tun`, in any letter case. -/
def HasTunnelName (name : String) : Prop :=
  ['u', 't', 'u', 'n'] <+: lowerCase name.toList ∨ ['t', 'u', 'n'] <+: lowerCase name.toList

/-- A row is active if it is that of a tunnel that has received or sent something. -/
def IsActive (row : Counter) : Prop :=
  HasTunnelName row.name ∧ (row.received ≠ 0 ∨ row.sent ≠ 0)

instance (name : String) : Decidable (HasTunnelName name) :=
  inferInstanceAs (Decidable (_ ∨ _))

instance (row : Counter) : Decidable (IsActive row) :=
  inferInstanceAs (Decidable (_ ∧ _))

/-- A name is the least one of the active rows: by its code points, none of theirs comes before
it. -/
structure IsLeastActive (reading : Reading) (name : String) : Prop where
  active : ∃ row ∈ reading, IsActive row ∧ row.name = name
  least : ∀ row ∈ reading, IsActive row → ¬ codePoints row.name < codePoints name

/-- The name of a tunnel, with a plus sign if it is not the only active one. -/
def shownTunnel (reading : Reading) (name : String) : String :=
  if 2 ≤ reading.countP (IsActive ·) then name ++ "+" else name

/-- The test of a row decides whether it is an active tunnel. -/
theorem isActiveTunnel_iff (row : Counter) : isActiveTunnel row = true ↔ IsActive row := by
  rw [isActiveTunnel, isTunnelName, lowerStartsWith, lowerStartsWith, Bool.and_eq_true,
    Bool.or_eq_true, List.isPrefixOf_iff_prefix, List.isPrefixOf_iff_prefix, hasTraffic_iff]
  rfl

theorem filter_isActiveTunnel (reading : Reading) :
    reading.filter isActiveTunnel = reading.filter (IsActive ·) :=
  List.filter_congr fun row _ => by rw [Bool.eq_iff_iff, isActiveTunnel_iff, decide_eq_true_eq]

/-! ## Sorted names -/

/-- The active tunnels are the names of their rows, sorted. -/
theorem activeTunnels_eq (reading : Reading) :
    activeTunnels reading = sortByName id ((reading.filter (IsActive ·)).map (·.name)) := by
  rw [activeTunnels, filter_isActiveTunnel]
  rfl

/-- The active tunnels are the names of rows that are active. -/
theorem mem_activeTunnels {reading : Reading} {name : String} :
    name ∈ activeTunnels reading ↔ ∃ row ∈ reading, IsActive row ∧ row.name = name := by
  rw [activeTunnels_eq, (sortByName_perm id _).mem_iff, List.mem_map]
  simp only [List.mem_filter, decide_eq_true_eq, and_assoc]

theorem length_activeTunnels (reading : Reading) :
    (activeTunnels reading).length = reading.countP (IsActive ·) := by
  rw [activeTunnels_eq, (sortByName_perm id _).length_eq, List.length_map,
    List.countP_eq_length_filter]

theorem pairwise_activeTunnels (reading : Reading) :
    (activeTunnels reading).Pairwise fun a b => a ≤ b := by
  rw [activeTunnels_eq]
  exact pairwise_sortByName id _

/-- Readings with the same active rows, in whatever order, have the same sorted names. -/
theorem activeTunnels_congr {reading other : Reading}
    (h : (other.filter (IsActive ·)).Perm (reading.filter (IsActive ·))) :
    activeTunnels other = activeTunnels reading := by
  have hperm : (activeTunnels other).Perm (activeTunnels reading) := by
    rw [activeTunnels_eq, activeTunnels_eq]
    exact (sortByName_perm id _).trans ((h.map _).trans (sortByName_perm id _).symm)
  exact hperm.eq_of_pairwise (fun _ _ _ _ => String.le_antisymm) (pairwise_activeTunnels other)
    (pairwise_activeTunnels reading)

/-- The order of names is the one of their code points. -/
theorem codePoints_not_lt_iff (a b : String) : ¬ codePoints b < codePoints a ↔ a ≤ b := by
  rw [codePoints_lt_iff, String.not_lt]

/-- The first of the sorted names is the least active one. -/
theorem isLeastActive_of_activeTunnels {reading : Reading} {name : String} {names : List String}
    (h : activeTunnels reading = name :: names) : IsLeastActive reading name := by
  have hsorted := pairwise_activeTunnels reading
  rw [h] at hsorted
  refine ⟨mem_activeTunnels.1 (by simp [h]), fun row hrow hactive => ?_⟩
  have hmem : row.name ∈ activeTunnels reading := mem_activeTunnels.2 ⟨row, hrow, hactive, rfl⟩
  rw [codePoints_not_lt_iff]
  rw [h, List.mem_cons] at hmem
  rcases hmem with rfl | hmem
  · exact String.le_refl _
  · exact (List.pairwise_cons.1 hsorted).1 _ hmem

/-- There is at most one least name. -/
theorem eq_of_isLeastActive {reading : Reading} {a b : String} (ha : IsLeastActive reading a)
    (hb : IsLeastActive reading b) : a = b := by
  obtain ⟨row, hrow, hactive, rfl⟩ := ha.active
  obtain ⟨other, hother, hactive', rfl⟩ := hb.active
  exact String.le_antisymm ((codePoints_not_lt_iff _ _).1 (ha.least other hother hactive'))
    ((codePoints_not_lt_iff _ _).1 (hb.least row hrow hactive))

/-! ## The status for a reading -/

/-- The status for a reading is told by the first of the sorted names. -/
theorem fromTunnels_eq (reading : Reading) :
    fromTunnels reading =
      (activeTunnels reading).head?.map fun name => .found .tun (shownTunnel reading name) := by
  have hcount := length_activeTunnels reading
  rw [fromTunnels]
  split
  case h_1 hnames => rw [hnames]; rfl
  case h_2 name hnames =>
    rw [hnames, List.length_singleton] at hcount
    rw [hnames, List.head?_cons, Option.map_some, shownTunnel, if_neg (by omega)]
  case h_3 name next others hnames =>
    rw [hnames, List.length_cons, List.length_cons] at hcount
    rw [hnames, List.head?_cons, Option.map_some, shownTunnel, if_pos (by omega)]

/-- Nothing is told if no row is active. -/
theorem fromTunnels_eq_none_iff (reading : Reading) :
    fromTunnels reading = none ↔ ∀ row ∈ reading, ¬ IsActive row := by
  rw [fromTunnels_eq, Option.map_eq_none_iff, List.head?_eq_none_iff,
    List.eq_nil_iff_forall_not_mem]
  constructor
  · intro h row hrow hactive
    exact h row.name (mem_activeTunnels.2 ⟨row, hrow, hactive, rfl⟩)
  · intro h name hname
    obtain ⟨row, hrow, hactive, -⟩ := mem_activeTunnels.1 hname
    exact h row hrow hactive

/-- The least name of the active rows is told, with a mark if there are more. -/
theorem fromTunnels_eq_some_iff (reading : Reading) (status : Status) :
    fromTunnels reading = some status ↔
      ∃ name, IsLeastActive reading name ∧ status = .found .tun (shownTunnel reading name) := by
  rw [fromTunnels_eq, Option.map_eq_some_iff]
  constructor
  · rintro ⟨name, hname, rfl⟩
    obtain ⟨names, hnames⟩ := List.head?_eq_some_iff.1 hname
    exact ⟨name, isLeastActive_of_activeTunnels hnames, rfl⟩
  · rintro ⟨name, hleast, rfl⟩
    -- there is a first name, and no other name is the least one
    obtain ⟨first, names, hnames⟩ :=
      List.exists_cons_of_ne_nil (List.ne_nil_of_mem (mem_activeTunnels.2 hleast.active))
    have hfirst := eq_of_isLeastActive (isLeastActive_of_activeTunnels hnames) hleast
    exact ⟨name, by rw [hnames, List.head?_cons, hfirst], rfl⟩

/-- What is told depends on the active rows only, in any order. -/
theorem fromTunnels_congr {reading other : Reading}
    (h : (other.filter (IsActive ·)).Perm (reading.filter (IsActive ·))) :
    fromTunnels other = fromTunnels reading := by
  have hcount : other.countP (IsActive ·) = reading.countP (IsActive ·) := by
    rw [List.countP_eq_length_filter, List.countP_eq_length_filter, h.length_eq]
  simp only [fromTunnels_eq, activeTunnels_congr h, shownTunnel, hcount]

/-- **The least active tunnel is told.** There is no status for a reading exactly if none of its
rows is active; otherwise it names the least active tunnel, with a plus sign exactly if at least two
rows are active. A reading that lists the same rows in another order, or that has other rows which
are not active, has the same status. -/
theorem least_active_tunnel_is_told (reading : Reading) :
    (fromTunnels reading = none ↔ ∀ row ∈ reading, ¬ IsActive row) ∧
      (∀ status, fromTunnels reading = some status ↔
        ∃ name, IsLeastActive reading name ∧
          status = .found .tun (if 2 ≤ reading.countP (IsActive ·) then name ++ "+" else name)) ∧
      (∀ other : Reading, other.Perm reading → fromTunnels other = fromTunnels reading) ∧
      ∀ other : Reading, other.filter (IsActive ·) = reading.filter (IsActive ·) →
        fromTunnels other = fromTunnels reading := by
  refine ⟨fromTunnels_eq_none_iff reading, fromTunnels_eq_some_iff reading, ?_, ?_⟩
  · exact fun other h => fromTunnels_congr (h.filter _)
  · exact fun other h => fromTunnels_congr (.of_eq h)

/-- Counters whose sum is too large to be shown are traffic, a capital letter comes before the small
ones, and a reading in reverse order without its other rows has the same status. -/
theorem least_tunnel_beside_full_counters :
    let reading : Reading := [⟨"utun3", 0xffffffffffffffff, 1⟩, ⟨"en0", 5, 5⟩, ⟨"TUN0", 0, 7⟩,
      ⟨"tun1", 0, 0⟩]
    let other : Reading := [⟨"TUN0", 0, 7⟩, ⟨"utun3", 0xffffffffffffffff, 1⟩]
    IsLeastActive reading "TUN0" ∧ fromTunnels reading = some (.found .tun "TUN0+") ∧
      other.filter (IsActive ·) = reading.reverse.filter (IsActive ·) ∧
      fromTunnels other = some (.found .tun "TUN0+") := by
  intro reading other
  have hleast : IsLeastActive reading "TUN0" :=
    ⟨⟨⟨"TUN0", 0, 7⟩, by decide, by decide, rfl⟩, by decide⟩
  have hactive : other.filter (IsActive ·) = reading.reverse.filter (IsActive ·) := by decide
  obtain ⟨-, hsome, hperm, -⟩ := least_active_tunnel_is_told reading
  obtain ⟨-, -, -, hrows⟩ := least_active_tunnel_is_told reading.reverse
  have hstatus : fromTunnels reading = some (.found .tun "TUN0+") :=
    (hsome _).2 ⟨"TUN0", hleast, by decide⟩
  have hreverse := hperm reading.reverse reading.reverse_perm
  exact ⟨hleast, hstatus, hactive, ((hrows other hactive).trans hreverse).trans hstatus⟩

end LinkWatch.Proxy
