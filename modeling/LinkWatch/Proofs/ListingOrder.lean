import LinkWatch.Proofs.DistinctKeys
import LinkWatch.Proofs.SessionSampling
import Mathlib.Data.List.Forall2
import Mathlib.Data.List.Nodup

/-!
# The order of listing

The system lists its interfaces in no particular order, and the order has no effect: readings are
sorted by name, and no two interfaces of a frame have one name. A reading has one row for each
interface of its frame, and the addresses are those of the same frame.
-/

namespace LinkWatch

open LinkWatch.Traffic

/-! ## Sorting by name -/

section SortByName

variable {α : Type} (name : α → String)

/-- Sorting by name. -/
def sortByName (l : List α) : List α :=
  l.mergeSort fun a b => decide (name a ≤ name b)

theorem sortByName_perm (l : List α) : (sortByName name l).Perm l :=
  List.mergeSort_perm l _

theorem pairwise_sortByName (l : List α) :
    (sortByName name l).Pairwise fun a b => name a ≤ name b := by
  have htrans (a b c : α) (hab : decide (name a ≤ name b) = true)
      (hbc : decide (name b ≤ name c) = true) : decide (name a ≤ name c) = true :=
    decide_eq_true (String.le_trans (of_decide_eq_true hab) (of_decide_eq_true hbc))
  have htotal (a b : α) : (decide (name a ≤ name b) || decide (name b ≤ name a)) = true := by
    simpa using String.le_total (name a) (name b)
  exact (List.pairwise_mergeSort htrans htotal l).imp fun h => of_decide_eq_true h

/-- Members that have different names are sorted strictly. -/
theorem pairwise_lt_sortByName {l : List α} (hl : (l.map name).Nodup) :
    (sortByName name l).Pairwise fun a b => name a < name b := by
  have hnodup : (sortByName name l).Pairwise fun a b => name a ≠ name b :=
    List.pairwise_map.1 (((sortByName_perm name l).map name).nodup_iff.2 hl)
  exact ((pairwise_sortByName name l).and hnodup).imp fun h =>
    String.not_le.1 fun hge => h.2 (String.le_antisymm h.1 hge)

/-- Sorting members that have different names does not see their order. -/
theorem sortByName_congr {l l' : List α} (h : l.Perm l') (hl : (l.map name).Nodup) :
    sortByName name l = sortByName name l' := by
  have hperm : (sortByName name l).Perm (sortByName name l') :=
    (sortByName_perm name l).trans (h.trans (sortByName_perm name l').symm)
  refine hperm.eq_of_pairwise ?_ (pairwise_sortByName name l) (pairwise_sortByName name l')
  intro a b ha hb hab hba
  -- one name has one member
  have hb' := hperm.symm.subset hb
  exact List.inj_on_of_nodup_map (((sortByName_perm name l).map name).nodup_iff.2 hl) ha hb'
    (String.le_antisymm hab hba)

end SortByName

/-! ## What a frame is to give -/

/-- The code points of a name. -/
def codePoints (name : String) : List Nat :=
  name.toList.map Char.toNat

/-- The row of an interface in a reading. -/
def rowOf (i : Interface) : Counter :=
  ⟨i.name, i.received, i.sent⟩

/-- A reading lists a frame: the rows of its interfaces and no others, each of them once, with names
that strictly increase by code points. -/
structure ListsFrame (frame : Frame) (reading : Reading) : Prop where
  perm : reading.Perm (frame.map rowOf)
  increasing : reading.Pairwise fun a b => codePoints a.name < codePoints b.name

/-- An address of version 4 outside of 127.0.0.0/8. -/
def Reachable : Address → Prop
  | .v4 a _ _ _ => a ≠ 127
  | .v6 _ => False

instance : DecidablePred Reachable
  | .v4 a _ _ _ => inferInstanceAs (Decidable (a ≠ 127))
  | .v6 _ => inferInstanceAs (Decidable False)

/-- A text shows the first reachable address of a list. -/
def ShowsFirst (addresses : List Address) (text : String) : Prop :=
  ∃ earlier address later, addresses = earlier ++ address :: later ∧ Reachable address ∧
    (∀ a ∈ earlier, ¬ Reachable a) ∧ address.dotted? = some text

/-- An address map knows exactly the interfaces of a frame that have a reachable address, each by
the first one in its list. -/
def KnowsFrame (frame : Frame) (addresses : Addresses) : Prop :=
  ∀ name text, addresses.lookup name = some text ↔
    ∃ i ∈ frame, i.name = name ∧ ShowsFirst i.addresses text

/-- The frame that a reading looks at, counted from zero. The last frame repeats, and without frames
there are no interfaces. -/
def frameAt (frames : List Frame) (n : Nat) : Frame :=
  frames[min n (frames.length - 1)]?.getD []

/-- No two interfaces of a frame have one name. -/
def DistinctNames (frame : Frame) : Prop :=
  (frame.map (·.name)).Nodup

/-! ## Readings and addresses of a frame -/

theorem toNat_lt_toNat_iff (a b : Char) : a.toNat < b.toNat ↔ a < b := by
  rw [Char.lt_def, UInt32.lt_iff_toNat_lt]
  rfl

/-- Names are ordered by their code points. -/
theorem codePoints_lt_iff (a b : String) : codePoints a < codePoints b ↔ a < b := by
  rw [String.lt_iff, codePoints, codePoints]
  generalize a.toList = cs
  generalize b.toList = ds
  induction cs generalizing ds with
  | nil => cases ds <;> simp
  | cons c cs ih =>
    cases ds with
    | nil => simp
    | cons d ds =>
      rw [List.map_cons, List.map_cons, List.cons_lt_cons_iff, List.cons_lt_cons_iff, ih,
        toNat_lt_toNat_iff, Char.toNat_inj]

/-- A reading is the rows of its frame, sorted by name. -/
theorem reading_eq_sortByName (frame : Frame) :
    frame.reading = sortByName (·.name) (frame.map rowOf) := rfl

theorem distinct_rows {frame : Frame} (h : DistinctNames frame) :
    ((frame.map rowOf).map (·.name)).Nodup := by
  rw [List.map_map]
  exact h

/-- A reading lists its frame. -/
theorem reading_listsFrame {frame : Frame} (h : DistinctNames frame) :
    ListsFrame frame frame.reading where
  perm := sortByName_perm _ _
  increasing := by
    rw [reading_eq_sortByName]
    exact (pairwise_lt_sortByName _ (distinct_rows h)).imp fun hlt =>
      (codePoints_lt_iff _ _).2 hlt

/-- An address is shown if it has a dotted text and can be reached from elsewhere. -/
theorem shownAddress_eq_some_iff (a : Address) (text : String) :
    (if a.isLoopback then none else a.dotted?) = some text ↔
      Reachable a ∧ a.dotted? = some text := by
  cases a with
  | v4 a b c d => simp [Address.isLoopback, Reachable]
  | v6 t => simp [Address.isLoopback, Address.dotted?, Reachable]

theorem shownAddress_eq_none_iff (a : Address) :
    (if a.isLoopback then none else a.dotted?) = none ↔ ¬ Reachable a := by
  cases a with
  | v4 a b c d => simp [Address.isLoopback, Address.dotted?, Reachable]
  | v6 t => simp [Address.isLoopback, Address.dotted?, Reachable]

/-- The address of an interface is the first one of it that is shown. -/
theorem firstAddress_eq_some_iff (addresses : List Address) (text : String) :
    firstAddress addresses = some text ↔ ShowsFirst addresses text := by
  rw [firstAddress, List.findSome?_eq_some_iff]
  constructor
  · rintro ⟨earlier, a, later, hsplit, ha, hearlier⟩
    obtain ⟨hreach, htext⟩ := (shownAddress_eq_some_iff a text).1 ha
    exact ⟨earlier, a, later, hsplit, hreach,
      fun x hx => (shownAddress_eq_none_iff x).1 (hearlier x hx), htext⟩
  · rintro ⟨earlier, a, later, hsplit, hreach, hearlier, htext⟩
    exact ⟨earlier, a, later, hsplit, (shownAddress_eq_some_iff a text).2 ⟨hreach, htext⟩,
      fun x hx => (shownAddress_eq_none_iff x).2 (hearlier x hx)⟩

/-- The interfaces of a frame that have an address, with the first one. -/
def addressed (frame : Frame) : Addresses :=
  frame.filterMap fun i => (firstAddress i.addresses).map fun a => (i.name, a)

/-- The addresses of a frame are those of its interfaces that have one, sorted by name. -/
theorem addresses_eq_sortByName (frame : Frame) :
    frame.addresses = sortByName Prod.fst (addressed frame) := rfl

/-- A name is listed with an address if an interface of the name shows it first. -/
theorem mem_addressed {frame : Frame} {name text : String} :
    (name, text) ∈ addressed frame ↔
      ∃ i ∈ frame, i.name = name ∧ ShowsFirst i.addresses text := by
  simp only [addressed, List.mem_filterMap, Option.map_eq_some_iff, Prod.mk.injEq,
    ← firstAddress_eq_some_iff]
  constructor
  · rintro ⟨i, hi, a, ha, rfl, rfl⟩
    exact ⟨i, hi, rfl, ha⟩
  · rintro ⟨i, hi, rfl, ha⟩
    exact ⟨i, hi, text, ha, rfl, rfl⟩

theorem distinct_addressed {frame : Frame} (h : DistinctNames frame) :
    ((addressed frame).map Prod.fst).Nodup := by
  rw [List.Nodup, List.pairwise_map, addressed, List.pairwise_filterMap]
  apply (List.pairwise_map.1 h).imp
  intro i j hij x hx y hy
  obtain ⟨_, -, rfl⟩ := Option.map_eq_some_iff.1 hx
  obtain ⟨_, -, rfl⟩ := Option.map_eq_some_iff.1 hy
  exact hij

/-- The address found for a name is the one that an interface of the name shows first. -/
theorem addresses_knowsFrame {frame : Frame} (h : DistinctNames frame) :
    KnowsFrame frame frame.addresses := by
  have hperm := sortByName_perm Prod.fst (addressed frame)
  intro name text
  rw [addresses_eq_sortByName,
    lookup_eq_some_iff_mem ((hperm.map Prod.fst).nodup_iff.2 (distinct_addressed h)),
    hperm.mem_iff, mem_addressed]

/-- The order in which a frame lists its interfaces is seen neither in its reading nor in its
addresses. -/
theorem reading_congr {frame other : Frame} (h : frame.Perm other) (hf : DistinctNames frame) :
    frame.reading = other.reading := by
  rw [reading_eq_sortByName, reading_eq_sortByName,
    sortByName_congr _ (h.map rowOf) (distinct_rows hf)]

/-- The order of a frame does not matter for its addresses. -/
theorem addresses_congr {frame other : Frame} (h : frame.Perm other) (hf : DistinctNames frame) :
    frame.addresses = other.addresses := by
  have hperm : (addressed frame).Perm (addressed other) := h.filterMap _
  rw [addresses_eq_sortByName, addresses_eq_sortByName,
    sortByName_congr _ hperm (distinct_addressed hf)]

/-! ## Feeds -/

theorem frameAt_zero (frames : List Frame) : frameAt frames 0 = frames.headD [] := by
  cases frames <;> rfl

/-- A feed after some readings has seen the frame of the last of them, and the later ones are to
come. Before the first reading it has looked at the first frame. -/
theorem iterate_next_ofFrames (frames : List Frame) (n : Nat) :
    InterfaceFeed.next^[n] (.ofFrames frames) = ⟨frameAt frames (n - 1), frames.drop n⟩ := by
  induction n with
  | zero => rw [Function.iterate_zero_apply, InterfaceFeed.ofFrames, frameAt_zero]; rfl
  | succ n ih =>
    rw [Function.iterate_succ_apply', ih, InterfaceFeed.next, Nat.add_sub_cancel]
    by_cases hn : n < frames.length
    · -- the next frame is the one that the reading looks at
      rw [List.drop_eq_getElem_cons hn]
      have hmin : min n (frames.length - 1) = n := by omega
      simp [frameAt, hmin, hn]
    · have hdrop : frames.drop n = [] := List.drop_eq_nil_of_le (by omega)
      have hmin : min n (frames.length - 1) = min (n - 1) (frames.length - 1) := by omega
      simp only [hdrop, frameAt, hmin]
      rw [List.drop_eq_nil_of_le (by omega)]

/-- Two feeds list the same interfaces in every frame, if in different orders. -/
structure FeedsAgree (feed other : InterfaceFeed) : Prop where
  seen_perm : feed.seen.Perm other.seen
  seen_distinct : DistinctNames feed.seen
  upcoming_perm : List.Forall₂ List.Perm feed.upcoming other.upcoming
  upcoming_distinct : ∀ frame ∈ feed.upcoming, DistinctNames frame

/-- Feeds agree if their frames list the same interfaces, each in an order of its own. -/
theorem ofFrames_feedsAgree {frames others : List Frame}
    (hperm : List.Forall₂ List.Perm frames others)
    (hnames : ∀ frame ∈ frames, DistinctNames frame) :
    FeedsAgree (.ofFrames frames) (.ofFrames others) := by
  cases hperm with
  | nil => exact ⟨.refl _, List.nodup_nil, .nil, hnames⟩
  | cons hfirst hrest => exact ⟨hfirst, hnames _ List.mem_cons_self, .cons hfirst hrest, hnames⟩

theorem next_feedsAgree {feed other : InterfaceFeed} (h : FeedsAgree feed other) :
    FeedsAgree feed.next other.next := by
  obtain ⟨seen, upcoming⟩ := feed
  obtain ⟨seen', upcoming'⟩ := other
  obtain ⟨hseen, hdistinct, hupcoming, hall⟩ := h
  cases hupcoming with
  | nil => exact ⟨hseen, hdistinct, .nil, hall⟩
  | cons hfirst hrest =>
    exact ⟨hfirst, hall _ List.mem_cons_self, hrest,
      fun frame hframe => hall frame (List.mem_cons_of_mem _ hframe)⟩

/-- Feeds that agree still do so after any number of frames. -/
theorem iterate_next_feedsAgree {feed other : InterfaceFeed} (h : FeedsAgree feed other) (n : Nat) :
    FeedsAgree (InterfaceFeed.next^[n] feed) (InterfaceFeed.next^[n] other) := by
  induction n with
  | zero => exact h
  | succ n ih =>
    rw [Function.iterate_succ_apply', Function.iterate_succ_apply']
    exact next_feedsAgree ih

/-- Feeds that agree answer alike. -/
theorem answer_feedsAgree {feed other : InterfaceFeed} (h : FeedsAgree feed other) :
    (interfaceSource.answer feed).1 = (interfaceSource.answer other).1 := by
  have hnext := next_feedsAgree h
  simp only [CounterSource.answer, interfaceSource, InterfaceFeed.read, InterfaceFeed.addresses,
    reading_congr hnext.seen_perm hnext.seen_distinct,
    addresses_congr hnext.seen_perm hnext.seen_distinct]

/-! ## Meters on feeds -/

/-- Some steps of a meter, with what a source answers in place of the answers to their samples. -/
def CounterSource.drive {σ : Type} (source : CounterSource σ) (c : σ) :
    List MeterStep → List MeterStep
  | [] => []
  | .sample time _ :: steps =>
    .sample time (source.answer c).1 :: source.drive (source.next c) steps
  | .update time reading addresses :: steps =>
    .update time reading addresses :: source.drive c steps
  | .reset :: steps => .reset :: source.drive c steps

/-- Feeds that agree answer the steps of a meter alike. -/
theorem drive_feedsAgree {feed other : InterfaceFeed} (h : FeedsAgree feed other)
    (steps : List MeterStep) :
    interfaceSource.drive feed steps = interfaceSource.drive other steps := by
  induction steps generalizing feed other with
  | nil => rfl
  | cons s steps ih =>
    cases s with
    | sample time answer =>
      rw [CounterSource.drive, CounterSource.drive, answer_feedsAgree h]
      exact congrArg _ (ih (next_feedsAgree h))
    | update time reading addresses =>
      rw [CounterSource.drive, CounterSource.drive, ih h]
    | reset => rw [CounterSource.drive, CounterSource.drive, ih h]

/-- **The order of listing has no effect.** Where frames list the same interfaces in different
orders, and no two of a frame have one name, every reading and every address map is the same, and so
is all that a meter shows and holds that samples the frames among any other steps. Each reading
lists its frame, sorted by name, and the addresses belong to the frame seen last. -/
theorem listing_order_has_no_effect {frames others : List Frame}
    (hperm : List.Forall₂ List.Perm frames others)
    (hnames : ∀ frame ∈ frames, DistinctNames frame) :
    (∀ n,
      let feed := InterfaceFeed.next^[n] (.ofFrames frames)
      let other := InterfaceFeed.next^[n] (.ofFrames others)
      feed.read.1 = other.read.1 ∧ feed.addresses = other.addresses ∧
        feed.read.2 = InterfaceFeed.next^[n + 1] (.ofFrames frames) ∧
        ListsFrame (frameAt frames n) feed.read.1 ∧
        KnowsFrame (frameAt frames (n - 1)) feed.addresses) ∧
    ∀ settings steps,
      (Meter.new settings).trace (interfaceSource.drive (.ofFrames frames) steps) =
        (Meter.new settings).trace (interfaceSource.drive (.ofFrames others) steps) := by
  have hagree := ofFrames_feedsAgree hperm hnames
  constructor
  · intro n feed other
    have hnow := iterate_next_feedsAgree hagree n
    have hnext := next_feedsAgree hnow
    have hread : feed.read.2 = InterfaceFeed.next^[n + 1] (.ofFrames frames) :=
      (Function.iterate_succ_apply' InterfaceFeed.next n _).symm
    have hframe : feed.next.seen = frameAt frames n := by
      rw [show feed.next = feed.read.2 from rfl, hread, iterate_next_ofFrames, Nat.add_sub_cancel]
    have hseen : feed.seen = frameAt frames (n - 1) := by
      simp only [feed, iterate_next_ofFrames]
    refine ⟨reading_congr hnext.seen_perm hnext.seen_distinct,
      addresses_congr hnow.seen_perm hnow.seen_distinct, hread, ?_, ?_⟩
    · rw [← hframe]
      exact reading_listsFrame hnext.seen_distinct
    · rw [← hseen]
      exact addresses_knowsFrame hnow.seen_distinct
  · intro settings steps
    rw [drive_feedsAgree hagree]

/-- Two equally busy interfaces listed in both orders, the second time after one has gone and come
back: the meter reports them alike, and the address that is known is the one outside of the
machine. -/
theorem two_orders_of_two_interfaces :
    let eth0 : Interface := ⟨"eth0", 5, 5, [.v4 127 0 0 1, .v4 10 0 0 2]⟩
    let eth1 : Interface := ⟨"eth1", 5, 5, [.v6 "::1"]⟩
    let frames : List Frame := [[eth1, eth0], [eth1], [eth0, eth1]]
    let others : List Frame := [[eth0, eth1], [eth1], [eth0, eth1]]
    (List.Forall₂ List.Perm frames others ∧ ∀ frame ∈ frames, DistinctNames frame) ∧
      ListsFrame [eth1, eth0] (InterfaceFeed.ofFrames frames).read.1 ∧
      (InterfaceFeed.ofFrames frames).addresses.lookup "eth0" = some "10.0.0.2" ∧
      ∀ steps, (Meter.new {}).trace (interfaceSource.drive (.ofFrames frames) steps) =
        (Meter.new {}).trace (interfaceSource.drive (.ofFrames others) steps) := by
  intro eth0 eth1 frames others
  have hperm : List.Forall₂ List.Perm frames others :=
    .cons (.swap _ _ _) (.cons (.refl _) (.cons (.refl _) .nil))
  have hnames : ∀ frame ∈ frames, DistinctNames frame := by
    intro frame hframe
    simp only [frames, List.mem_cons, List.not_mem_nil, or_false] at hframe
    rcases hframe with rfl | rfl | rfl <;> simp [DistinctNames, eth0, eth1]
  obtain ⟨hfeeds, hmeters⟩ := listing_order_has_no_effect hperm hnames
  obtain ⟨-, -, -, hlists, hknows⟩ := hfeeds 0
  have hfirst : ShowsFirst eth0.addresses "10.0.0.2" :=
    ⟨[.v4 127 0 0 1], .v4 10 0 0 2, [], rfl, by decide, by decide, by decide⟩
  exact ⟨⟨hperm, hnames⟩, hlists,
    (hknows "eth0" "10.0.0.2").2 ⟨eth0, by simp [frameAt, frames], rfl, hfirst⟩,
    fun steps => hmeters {} steps⟩

end LinkWatch
