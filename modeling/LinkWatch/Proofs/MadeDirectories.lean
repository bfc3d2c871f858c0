import LinkWatch.Proofs.WrittenFiles

/-!
# Directories that are made on the way

Making a directory and those above it adds directories along the names of one path and changes
nothing else: files stay as they are, and whatever could be reached still leads to the same place.
Trees have no gaps, so a path that led nowhere before leads somewhere afterwards only if it goes
back, by `..`, behind one of the directories that were made.
-/

namespace LinkWatch.Files

variable {t t' u : Tree} {start : Place} {names : List String}

/-! ## Trees with more directories -/

/-- The second tree has more directories than the first and is the same otherwise. -/
structure AddsDirectories (t t' : Tree) : Prop where
  working : t'.working = t.working
  get? : ∀ place, t'.get? place = t.get? place ∨
    t.get? place = none ∧ t'.get? place = some .directory

/-- Where directories were added, whatever was there is still there. -/
theorem get?_of_addsDirectories (h : AddsDirectories t t') {place : Place} {entry : Entry}
    (hget : t.get? place = some entry) : t'.get? place = some entry := by
  rcases h.get? place with hsame | ⟨hnone, -⟩
  · exact hsame.trans hget
  · rw [hnone] at hget
    cases hget

/-- A tree with more directories keeps the files that it had. -/
theorem keeps_of_addsDirectories (h : AddsDirectories t t') : Keeps t t' where
  directory := get?_of_addsDirectories h
  isSome := by
    intro place hsome
    obtain ⟨entry, hget⟩ := Option.isSome_iff_exists.1 hsome
    rw [get?_of_addsDirectories h hget]
    rfl

/-- Files are the same, with the same bytes, before and after. -/
theorem get?_file_iff (h : AddsDirectories t t') (place : Place) (bytes : List UInt8) :
    t'.get? place = some (.file bytes) ↔ t.get? place = some (.file bytes) := by
  rcases h.get? place with hsame | ⟨hnone, hmade⟩
  · rw [hsame]
  · simp [hnone, hmade]

theorem start_of_addsDirectories (h : AddsDirectories t t') (path : Path) :
    t'.start path = t.start path := by
  rw [Tree.start, Tree.start, h.working]

/-- What was found is found again. -/
theorem find_of_addsDirectories (h : AddsDirectories t t') {path : Path} {found : Place × Entry}
    (hfind : t.find path = .ok found) : t'.find path = .ok found := by
  rw [Tree.find] at hfind ⊢
  cases hwalk : t.walk (t.start path) path.names with
  | error e =>
    rw [hwalk] at hfind
    cases hfind
  | ok place =>
    rw [start_of_addsDirectories h, walk_of_keeps (keeps_of_addsDirectories h) hwalk]
    simp only [hwalk] at hfind
    cases hget : t.get? place with
    | none =>
      rw [hget] at hfind
      cases hfind
    | some entry =>
      rw [hget] at hfind
      simp only [get?_of_addsDirectories h hget]
      exact hfind

/-! ## Directories along a path -/

/-- The second tree has more directories than the first, all of them along some names: each is in
the directory to which the names before its own lead, from a place that was a directory already. -/
structure MakesAlong (start : Place) (names : List String) (t t' : Tree) : Prop
    extends AddsDirectories t t' where
  along : ∀ {place}, t.get? place = none → (t'.get? place).isSome = true →
    t.get? start = some .directory ∧ ∃ before name after here, names = before ++ name :: after ∧
      isOrdinary name = true ∧ t'.walk start before = .ok here ∧ place = here ++ [name]

theorem makesAlong_refl (start : Place) (names : List String) (t : Tree) :
    MakesAlong start names t t where
  working := rfl
  get? _ := .inl rfl
  along hnone hsome := by
    rw [hnone] at hsome
    cases hsome

theorem makesAlong_trans (h : MakesAlong start names t u) (h' : MakesAlong start names u t') :
    MakesAlong start names t t' where
  working := h'.working.trans h.working
  get? place := by
    rcases h.get? place with hsame | ⟨hnone, hmade⟩
    · rw [← hsame]
      exact h'.get? place
    · exact .inr ⟨hnone, get?_of_addsDirectories h'.toAddsDirectories hmade⟩
  along {place} hnone hsome := by
    have hkeeps := keeps_of_addsDirectories h'.toAddsDirectories
    cases hget : u.get? place with
    | some entry =>
      -- made by the first change, and still there after the second
      obtain ⟨hstart, before, name, after, here, hnames, hordinary, hwalk, hplace⟩ :=
        h.along hnone (by rw [hget]; rfl)
      exact ⟨hstart, before, name, after, here, hnames, hordinary, walk_of_keeps hkeeps hwalk,
        hplace⟩
    | none =>
      obtain ⟨hstart, hmade⟩ := h'.along hget hsome
      refine ⟨?_, hmade⟩
      rcases h.get? start with hsame | ⟨hstartnone, hstartmade⟩
      · exact hsame.symm.trans hstart
      · exact (h.along hstartnone (by rw [hstartmade]; rfl)).1

/-- A walk that ends at a directory started at one. -/
theorem directory_of_walk {here there : Place} (hwalk : t.walk here names = .ok there)
    (hget : t.get? there = some .directory) : t.get? here = some .directory := by
  cases names with
  | nil =>
    cases hwalk
    exact hget
  | cons name names =>
    rw [Tree.walk] at hwalk
    cases hstep : t.step here name with
    | error e =>
      rw [hstep] at hwalk
      cases hwalk
    | ok next => exact (step_cases hstep).1

/-- What making one directory needs, and what it does. -/
theorem makeOne_cases {path : Path} (h : t.makeOne path = .ok t') :
    ∃ spot : Spot t, path.names.getLast? = some spot.name ∧
      t.walk (t.start path) path.names.dropLast = .ok spot.directory.place ∧
      isOrdinary spot.name = true ∧ t.get? spot.place = none ∧ t' = t.put spot .directory := by
  rw [Tree.makeOne] at h
  split at h
  case h_1 => cases h
  case h_2 name hlast =>
    split at h
    case h_1 => cases h
    case h_2 directory hfind =>
      split at h
      case isTrue => cases h
      case isFalse =>
        split at h
        case isTrue => cases h
        case isFalse hordinary =>
          split at h
          case h_1 spot hnothing =>
            obtain ⟨rfl, rfl, hnone⟩ := spot_of_look_nothing hnothing
            exact ⟨spot, hlast, walk_of_findDirectory hfind, by simpa using hordinary, hnone,
              create_cases h⟩
          case h_2 => cases h

/-- A directory put where nothing is is the only new one. -/
theorem addsDirectories_put {spot : Spot t} (hnone : t.get? spot.place = none) :
    AddsDirectories t (t.put spot .directory) where
  working := rfl
  get? other := by
    by_cases heq : other = spot.place
    · rw [heq]
      exact .inr ⟨hnone, get?_put_self t spot _⟩
    · exact .inl (get?_put_of_ne t spot _ heq)

theorem makesAlong_makeOne {path : Path} (hnames : path.names <+: names)
    (h : t.makeOne path = .ok t') : MakesAlong (t.start path) names t t' := by
  obtain ⟨spot, hlast, hwalk, hordinary, hnone, rfl⟩ := makeOne_cases h
  have hadds := addsDirectories_put hnone
  refine ⟨hadds, fun {place} hfree hsome => ?_⟩
  have hplace : place = spot.place := by
    by_contra hne
    rw [get?_put_of_ne t spot _ hne, hfree] at hsome
    cases hsome
  obtain ⟨more, rfl⟩ := hnames
  have hsplit : path.names ++ more = path.names.dropLast ++ spot.name :: more := by
    rw [List.append_cons, List.dropLast_append_getLast? spot.name hlast]
  exact ⟨directory_of_walk hwalk spot.directory.isDirectory, _, spot.name, more,
    spot.directory.place, hsplit, hordinary, walk_of_keeps (keeps_of_addsDirectories hadds) hwalk,
    hplace⟩

/-- Making a directory below others that are made first makes all of them along their names. -/
theorem makesAlong_makeBelow {path : Path} (hnames : path.names <+: names)
    {makeAbove : Tree → Except OsError Unit × Tree}
    (habove : ∀ t, MakesAlong (t.start path) names t (makeAbove t).2) (t : Tree) :
    MakesAlong (t.start path) names t (t.makeBelow path makeAbove).2 := by
  simp only [Tree.makeBelow]
  split
  case h_1 made hmade => exact makesAlong_makeOne hnames hmade
  case h_2 =>
    have hmade := habove t
    split
    case h_1 heq =>
      rw [heq] at hmade
      exact hmade
    case h_2 above heq =>
      rw [heq] at hmade
      split
      case h_1 made hone =>
        have hlast := makesAlong_makeOne hnames hone
        rw [start_of_addsDirectories hmade.toAddsDirectories] at hlast
        exact makesAlong_trans hmade hlast
      case h_2 => exact hmade
  case h_3 => exact makesAlong_refl _ _ _

/-- Making directories upward makes them along the names of the path. -/
theorem makesAlong_makeUpward {path : Path} {upward : List String}
    (hupward : upward.reverse <+: names) (t : Tree) :
    MakesAlong (t.start path) names t (Tree.makeUpward path.absolute upward t).2 := by
  induction upward generalizing t with
  | nil => exact makesAlong_refl _ _ _
  | cons name above ih =>
    rw [List.reverse_cons] at hupward
    have habove : above.reverse <+: names := (List.prefix_append _ _).trans hupward
    have hpath : Path.names ⟨path.absolute, (name :: above).reverse, false⟩ <+: names := by
      rwa [List.reverse_cons]
    exact makesAlong_makeBelow hpath (fun t => ih habove t) t

/-- Making a directory and all those above it adds directories along its path. -/
theorem makesAlong_makeAll (path : Path) (t : Tree) :
    MakesAlong (t.start path) path.names t (t.makeAll path).2 := by
  rw [Tree.makeAll]
  split
  · next upward hreverse =>
    have hnames : path.names = upward.reverse ++ ["."] := by
      rw [← List.reverse_reverse path.names, hreverse, List.reverse_cons]
    have hprefix : (upward.drop 1).reverse <+: path.names := by
      rw [hnames]
      refine List.IsPrefix.trans ?_ (List.prefix_append _ _)
      exact List.reverse_prefix.2 (List.drop_suffix 1 upward)
    exact makesAlong_makeBelow List.prefix_rfl (makesAlong_makeUpward hprefix) t
  · exact makesAlong_makeUpward (by rw [List.reverse_reverse]) t

/-! ## Trees have no gaps -/

/-- Below a place where nothing is, nothing is. -/
theorem get?_append_eq_none {place : Place} (hnone : t.get? place = none) (below : List String) :
    t.get? (place ++ below) = none := by
  induction below using List.reverseRecOn with
  | nil => rwa [List.append_nil]
  | append_singleton below name ih =>
    by_contra hsome
    have hdirectory : t.get? (place ++ below) = some .directory := by
      refine t.rooted (place ++ below) name ?_
      rw [List.append_assoc]
      exact Option.ne_none_iff_isSome.1 hsome
    rw [ih] at hdirectory
    cases hdirectory

/-- What is above a place that exists exists. -/
theorem isSome_dropLast {place : Place} (hsome : (t.get? place).isSome = true) :
    (t.get? place.dropLast).isSome = true := by
  rcases List.eq_nil_or_concat place with rfl | ⟨above, name, rfl⟩
  · exact hsome
  · rw [List.concat_eq_append] at hsome ⊢
    have hdirectory : t.get? above = some .directory := t.rooted above name hsome
    rw [List.dropLast_concat, hdirectory]
    rfl

/-- A walk from a place that exists leads to one. -/
theorem isSome_of_walk {here there : Place}
    (hhere : (t.get? here).isSome = true) (hwalk : t.walk here names = .ok there) :
    (t.get? there).isSome = true := by
  induction names generalizing here with
  | nil =>
    cases hwalk
    exact hhere
  | cons name names ih =>
    rw [Tree.walk] at hwalk
    cases hstep : t.step here name with
    | error e =>
      rw [hstep] at hwalk
      cases hwalk
    | ok next =>
      rw [hstep] at hwalk
      refine ih ?_ hwalk
      rcases (step_cases hstep).2 with ⟨-, rfl⟩ | ⟨-, rfl⟩ | ⟨-, -, hsome, -⟩
      · exact hhere
      · exact isSome_dropLast hhere
      · exact hsome

/-! ## Paths that lead somewhere afterwards -/

/-- A walk that goes through does so in two parts. -/
theorem walk_append_cases {here there : Place} {before after : List String}
    (hwalk : t.walk here (before ++ after) = .ok there) :
    ∃ mid, t.walk here before = .ok mid ∧ t.walk mid after = .ok there := by
  induction before generalizing here with
  | nil => exact ⟨here, rfl, hwalk⟩
  | cons name before ih =>
    rw [List.cons_append, Tree.walk] at hwalk
    rw [Tree.walk]
    cases hstep : t.step here name with
    | error e =>
      rw [hstep] at hwalk
      cases hwalk
    | ok next =>
      rw [hstep] at hwalk
      exact ih hwalk

/-- A walk that does not go through comes to a step that fails. -/
theorem failing_step_of_walk {here : Place} {e : OsError} (hwalk : t.walk here names = .error e) :
    ∃ before name after mid, names = before ++ name :: after ∧ t.walk here before = .ok mid ∧
      t.step mid name = .error e := by
  induction names generalizing here with
  | nil => cases hwalk
  | cons name names ih =>
    rw [Tree.walk] at hwalk
    cases hstep : t.step here name with
    | error e' =>
      rw [hstep] at hwalk
      cases hwalk
      exact ⟨[], name, names, here, rfl, rfl, hstep⟩
    | ok next =>
      rw [hstep] at hwalk
      obtain ⟨before, other, after, mid, rfl, hbefore, hfails⟩ := ih hwalk
      refine ⟨name :: before, other, after, mid, rfl, ?_, hfails⟩
      rw [Tree.walk, hstep]
      exact hbefore

/-- A walk that never goes back ends below the place where it starts. -/
theorem prefix_of_walk (hback : ".." ∉ names) {here there : Place}
    (hwalk : t.walk here names = .ok there) : here <+: there := by
  induction names generalizing here with
  | nil =>
    cases hwalk
    exact List.prefix_rfl
  | cons name names ih =>
    obtain ⟨hname, hrest⟩ := not_or.1 (mt List.mem_cons.2 hback)
    rw [Tree.walk] at hwalk
    cases hstep : t.step here name with
    | error e =>
      rw [hstep] at hwalk
      cases hwalk
    | ok next =>
      rw [hstep] at hwalk
      refine List.IsPrefix.trans ?_ (ih hrest hwalk)
      rcases (step_cases hstep).2 with ⟨-, rfl⟩ | ⟨rfl, -⟩ | ⟨-, -, -, rfl⟩
      · exact List.prefix_rfl
      · exact absurd rfl hname
      · exact List.prefix_append _ _

/-- The names lead, by some of them, to a directory that is only in the second tree, and go back
behind it later on. -/
def LeavesMade (t t' : Tree) (start : Place) (names : List String) : Prop :=
  ∃ before name after here, names = before ++ name :: after ∧ ".." ∈ after ∧
    t.walk start before = .ok here ∧ t.get? (here ++ [name]) = none ∧
    t'.get? (here ++ [name]) = some .directory

/-- An ordinary name at the end of a walk is that of the place where it ends. -/
theorem walk_concat_cases {here there : Place} {file : String} (hfile : isOrdinary file = true)
    (hwalk : t.walk here (names ++ [file]) = .ok there) :
    ∃ directory, t.walk here names = .ok directory ∧ there = directory ++ [file] ∧
      (t.get? there).isSome = true := by
  obtain ⟨directory, hnames, hlast⟩ := walk_append_cases hwalk
  rw [Tree.walk] at hlast
  cases hstep : t.step directory file with
  | error e =>
    rw [hstep] at hlast
    cases hlast
  | ok next =>
    rw [hstep] at hlast
    cases hlast
    rcases (step_cases hstep).2 with ⟨rfl, -⟩ | ⟨rfl, -⟩ | ⟨-, -, hsome, hplace⟩
    · cases hfile
    · cases hfile
    · exact ⟨directory, hnames, hplace, hsome⟩

/-- An ordinary name at the start of a walk leads to a place in the directory. -/
theorem walk_cons_cases {here there : Place} {name : String} (hname : isOrdinary name = true)
    (hwalk : t.walk here (name :: names) = .ok there) :
    (t.get? (here ++ [name])).isSome = true ∧ t.walk (here ++ [name]) names = .ok there := by
  rw [← List.singleton_append] at hwalk
  obtain ⟨next, hfirst, hrest⟩ := walk_append_cases hwalk
  rw [← List.nil_append [name]] at hfirst
  obtain ⟨directory, hdirectory, rfl, hsome⟩ := walk_concat_cases hname hfirst
  cases hdirectory
  exact ⟨hsome, hrest⟩

/-- A walk that enters a directory and ends where it started goes back. -/
theorem mem_back_of_walk {here : Place} {name : String} (hname : isOrdinary name = true)
    (hwalk : t.walk here (name :: names) = .ok here) : ".." ∈ names := by
  by_contra hback
  have hrest := (walk_cons_cases hname hwalk).2
  have hlength := (prefix_of_walk hback hrest).length_le
  rw [List.length_append] at hlength
  exact Nat.not_succ_le_self _ hlength

/-- Where a walk leads is a directory if it is one afterwards. -/
theorem directory_of_makesAlong (hmakes : MakesAlong start names t t')
    {here : Place} {before : List String} (hwalk : t.walk start before = .ok here)
    (hget : t'.get? here = some .directory) : t.get? here = some .directory := by
  rcases hmakes.get? here with hsame | ⟨hnone, -⟩
  · exact hsame.symm.trans hget
  · have hstart := (hmakes.along hnone (by rw [hget]; rfl)).1
    have hsome := isSome_of_walk (by rw [hstart]; rfl) hwalk
    rw [hnone] at hsome
    cases hsome

/-- A step that fails before and goes through afterwards is one into a directory that was made. -/
theorem made_of_step (hmakes : MakesAlong start names t t') {here next : Place}
    {before : List String} {name : String} {e : OsError} (hwalk : t.walk start before = .ok here)
    (hfails : t.step here name = .error e) (hstep : t'.step here name = .ok next) :
    next = here ++ [name] ∧ t.get? next = none ∧ t'.get? next = some .directory := by
  obtain ⟨hget, hcases⟩ := step_cases hstep
  have hdirectory := directory_of_makesAlong hmakes hwalk hget
  rcases hcases with ⟨rfl, -⟩ | ⟨rfl, -⟩ | ⟨hordinary, hlength, hsome, rfl⟩
  · rw [Tree.step, hdirectory] at hfails
    cases hfails
  · rw [Tree.step, hdirectory] at hfails
    cases hfails
  · rcases hmakes.get? (here ++ [name]) with hsame | hmade
    · rw [hsame] at hsome
      rw [step_ordinary hdirectory hordinary hlength hsome] at hfails
      cases hfails
    · exact ⟨rfl, hmade⟩

/-- Nothing at the end of a walk was made, unless the walk goes back behind it. -/
theorem mem_back_of_made (hmakes : MakesAlong start names t t') {file : String}
    (hfile : isOrdinary file = true) {there : Place} (hnone : t.get? there = none)
    (hwalk : t'.walk start (names ++ [file]) = .ok there) {before after : List String}
    {name : String} {here : Place} (hnames : names ++ [file] = before ++ name :: after)
    (hbefore : t.walk start before = .ok here) : ".." ∈ after := by
  have hkeeps := keeps_of_addsDirectories hmakes.toAddsDirectories
  obtain ⟨directory, hdirectory, rfl, hsome⟩ := walk_concat_cases hfile hwalk
  obtain ⟨-, first, _, last, _, rfl, -, hfirst, hplace⟩ := hmakes.along hnone hsome
  obtain ⟨rfl, hname⟩ := List.append_inj' hplace rfl
  obtain rfl := List.singleton_inj.1 hname
  have hlast : ".." ∈ last ++ [file] := by
    obtain ⟨_, hfirst', hloop⟩ := walk_append_cases hdirectory
    obtain rfl := Except.ok.inj (hfirst.symm.trans hfirst')
    exact List.mem_append_left _ (mem_back_of_walk hfile hloop)
  rw [List.append_assoc, List.cons_append, List.append_eq_append_iff] at hnames
  rcases hnames with ⟨more, rfl, hmore⟩ | ⟨more, rfl, hmore⟩
  · cases more with
    | nil =>
      obtain ⟨-, rfl⟩ := List.cons.inj hmore
      exact hlast
    | cons other more =>
      -- the walk that goes through before would have come by the directory that was made later
      obtain ⟨rfl, -⟩ := List.cons.inj hmore
      obtain ⟨_, hfirst', hrest⟩ := walk_append_cases hbefore
      obtain rfl := Except.ok.inj (hfirst.symm.trans (walk_of_keeps hkeeps hfirst'))
      have hthere := (walk_cons_cases hfile hrest).1
      rw [hnone] at hthere
      cases hthere
  · cases more with
    | nil =>
      obtain ⟨-, rfl⟩ := List.cons.inj hmore
      exact hlast
    | cons other more =>
      obtain ⟨-, rfl⟩ := List.cons.inj hmore
      exact List.mem_append_right _ (List.mem_cons_of_mem _ hlast)

/-- **A path leads somewhere new only behind a directory that was made.** If directories were made
along all names of a path but the last one, and the path leads nowhere before and somewhere
afterwards, then it goes back behind one of those directories. -/
theorem leavesMade_of_walk (hmakes : MakesAlong start names t t') {file : String}
    (hfile : isOrdinary file = true) {e : OsError} {there : Place}
    (hbefore : t.walk start (names ++ [file]) = .error e)
    (hafter : t'.walk start (names ++ [file]) = .ok there) :
    LeavesMade t t' start (names ++ [file]) := by
  obtain ⟨before, name, after, here, hnames, hwalk, hfails⟩ := failing_step_of_walk hbefore
  have hthere := hafter
  rw [hnames] at hthere
  obtain ⟨_, hwalk', hrest⟩ := walk_append_cases hthere
  have hkeeps := keeps_of_addsDirectories hmakes.toAddsDirectories
  obtain rfl := Except.ok.inj ((walk_of_keeps hkeeps hwalk).symm.trans hwalk')
  rw [Tree.walk] at hrest
  cases hstep : t'.step here name with
  | error e' =>
    rw [hstep] at hrest
    cases hrest
  | ok next =>
    rw [hstep] at hrest
    obtain ⟨rfl, hnone, hmade⟩ := made_of_step hmakes hwalk hfails hstep
    refine ⟨before, name, after, here, hnames, ?_, hwalk, hnone, hmade⟩
    by_contra hback
    -- without going back the walk ends below a place where nothing was
    obtain ⟨below, rfl⟩ := prefix_of_walk hback hrest
    exact hback (mem_back_of_made hmakes hfile (get?_append_eq_none hnone below) hafter hnames
      hwalk)

/-- What is found only afterwards is found behind a directory that was made. -/
theorem leavesMade_of_find {path : Path} {file : String}
    (hmakes : MakesAlong (t.start path) names t t') (hfile : isOrdinary file = true)
    (hnames : path.names = names ++ [file]) {e : OsError} {found : Place × Entry}
    (hbefore : t.find path = .error e) (hafter : t'.find path = .ok found) :
    LeavesMade t t' (t.start path) path.names := by
  have hadds := hmakes.toAddsDirectories
  rw [Tree.find, start_of_addsDirectories hadds] at hafter
  cases hwalk : t.walk (t.start path) path.names with
  | error e =>
    cases hwalk' : t'.walk (t.start path) path.names with
    | error e' =>
      rw [hwalk'] at hafter
      cases hafter
    | ok there =>
      rw [hnames] at hwalk hwalk' ⊢
      exact leavesMade_of_walk hmakes hfile hwalk hwalk'
  | ok there =>
    -- the walk went through before, and led to what is there afterwards
    rw [walk_of_keeps (keeps_of_addsDirectories hadds) hwalk] at hafter
    rw [Tree.find, hwalk] at hbefore
    have hsame : t'.get? there = t.get? there := by
      rcases hadds.get? there with hsame | ⟨-, hmade⟩
      · exact hsame
      · rw [hmade, directory_of_makesAlong hmakes hwalk hmade]
    simp only [hsame] at hafter
    cases hbefore.symm.trans hafter

end LinkWatch.Files
