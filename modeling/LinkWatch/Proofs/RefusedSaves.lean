import LinkWatch.Proofs.StoredSettings

/-!
# Settings that cannot be written

Settings with a number of more than 63 bits have no text, and saving them is refused before any file
is touched. Saving to the program's file may have made directories by then. They change what is
loaded only where the path of the home directory goes back, by `..`, behind one of them.
-/

namespace LinkWatch

open LinkWatch.Files

/-! ## Refusals -/

/-- The fault that tells that a number has too many bits. -/
def refusal : Fault :=
  .settings "Failed to serialize config: out-of-range value for u64 type"

/-- Settings cannot be written if a number of them is too large. -/
theorem isWritable_eq_false_iff {s : Settings} :
    s.isWritable = false ↔ ∃ n ∈ s.numbers, 9223372036854775807 < n.toNat := by
  simp [Settings.isWritable, isWritable]

/-- Settings are refused if a number of them is too large, and always with one fault. -/
theorem toToml_eq_error_iff {s : Settings} {fault : Fault} :
    s.toToml = .error fault ↔
      (∃ n ∈ s.numbers, 9223372036854775807 < n.toNat) ∧ fault = refusal := by
  rw [← isWritable_eq_false_iff, Settings.toToml, refusal]
  cases s.isWritable <;> simp [eq_comm]

/-- Settings that are refused are not saved, and the tree is as before. -/
theorem saveTo_of_error {s : Settings} {fault : Fault} (h : s.toToml = .error fault) (t : Tree)
    (file : String) : saveTo t file s = (.error fault, t) := by
  rw [saveTo, h]

/-- A text that is no path is refused by the system. -/
theorem isIo_of_pathOf {text : String} {fault : Fault} (h : pathOf text = .error fault) :
    ∃ cause, fault = .io cause := by
  rw [pathOf] at h
  split at h
  · exact ⟨_, (Except.error.inj h).symm⟩
  · split at h
    · exact ⟨_, (Except.error.inj h).symm⟩
    · split at h
      · exact ⟨_, (Except.error.inj h).symm⟩
      · cases h

theorem isIo_of_withPath {α : Type} {text : String} {act : Path → Except OsError α} {fault : Fault}
    (h : withPath text act = .error fault) : ∃ cause, fault = .io cause := by
  rw [withPath] at h
  split at h
  · next hpath =>
    cases h
    exact isIo_of_pathOf hpath
  · split at h
    · cases h
    · exact ⟨_, (Except.error.inj h).symm⟩

/-- Only settings without a text are refused as settings; everything else is a matter of the
file. -/
theorem saveTo_refusal_iff (t : Tree) (file : String) (s : Settings) (message : String) :
    (saveTo t file s).1 = .error (.settings message) ↔
      s.toToml = .error (.settings message) := by
  rw [saveTo]
  cases htext : s.toToml with
  | error fault => simp
  | ok text =>
    simp only [reduceCtorEq, iff_false]
    split
    · next hwrite =>
      obtain ⟨cause, rfl⟩ := isIo_of_withPath hwrite
      simp
    · simp

/-- Settings without a text are refused when the program's directory was made, or because it could
not be made; and it is all that was made. -/
theorem save_of_error {s : Settings} {fault : Fault} (h : s.toToml = .error fault) (t : Tree)
    (home : Option (List UInt8)) :
    (save t home s).2 = (makeDirectory t (settingsDirectory home)).2 ∧
      ((save t home s).1 = .error fault ∨ ∃ other, (save t home s).1 = .error other ∧
        (makeDirectory t (settingsDirectory home)).1 = .error other) := by
  rw [save]
  cases hmade : makeDirectory t (settingsDirectory home) with
  | mk result made =>
    cases result with
    | error other => exact ⟨rfl, .inr ⟨other, rfl, rfl⟩⟩
    | ok done =>
      cases done
      simp [saveTo_of_error h]

/-! ## Loading after more directories were made -/

theorem isPlainName_netpulse : IsPlainName "netpulse" :=
  ⟨by decide, by decide, by decide⟩

/-- The path of the program's file is that of its directory and one more name. -/
theorem names_settingsFile {home : Option (List UInt8)} {directory file : Path}
    (hdirectory : pathOf (settingsDirectory home) = .ok directory)
    (hfile : pathOf (settingsFile home) = .ok file) :
    file.absolute = directory.absolute ∧ file.names = directory.names ++ ["config.toml"] := by
  have hjoined := ofString?_joinPath isPlainName_netpulse isPlainName_config
    (ofString?_of_pathOf hdirectory)
  have hsame := hjoined.symm.trans (ofString?_of_pathOf hfile)
  obtain rfl := Option.some.inj hsame
  exact ⟨rfl, rfl⟩

/-- A file is loaded as before if its path leads to the same as before. -/
theorem loadFrom_of_find {t t' : Tree} {file : String} {path : Path}
    (hpath : pathOf file = .ok path) (hfind : t'.find path = t.find path) (wording : Wording) :
    loadFrom wording t' file = loadFrom wording t file := by
  simp only [loadFrom, withPath, hpath, Tree.read, hfind]

/-- A file exists if its path leads to something. -/
theorem fileExists_eq {t : Tree} {file : String} {path : Path} (hpath : pathOf file = .ok path) :
    fileExists t file = (t.find path).toOption.isSome := by
  simp only [fileExists, withPath, hpath]
  cases t.find path <;> rfl

/-- More directories leave what is loaded as it was, unless there was no file before and the path
of the program's file leads somewhere afterwards. -/
theorem load_of_addsDirectories {t t' : Tree} (h : AddsDirectories t t') (wording : Wording)
    (home : Option (List UInt8)) :
    load wording t' home = load wording t home ∨ load wording t home = .ok {} ∧ ∃ path e found,
      pathOf (settingsFile home) = .ok path ∧ t.find path = .error e ∧
        t'.find path = .ok found := by
  cases hpath : pathOf (settingsFile home) with
  | error fault =>
    refine .inl ?_
    simp only [load, fileExists, withPath, hpath]
    rfl
  | ok path =>
    cases hfind : t.find path with
    | ok found =>
      have hfind' := find_of_addsDirectories h hfind
      refine .inl ?_
      simp only [load, fileExists_eq hpath, hfind, hfind',
        loadFrom_of_find hpath (hfind'.trans hfind.symm) wording]
    | error e =>
      -- nothing was found before, so the usual settings were loaded
      have husual : load wording t home = .ok {} := by
        simp only [load, fileExists_eq hpath, hfind]
        rfl
      cases hfind' : t'.find path with
      | error e' =>
        refine .inl ?_
        rw [husual]
        simp only [load, fileExists_eq hpath, hfind']
        rfl
      | ok found => exact .inr ⟨husual, path, e, found, rfl, hfind, hfind'⟩

/-- Making the program's directory leaves what is loaded as it was, unless the path of the program's
file goes back behind a directory that was made. -/
theorem load_makeDirectory (wording : Wording) (t : Tree) (home : Option (List UInt8)) :
    let t' := (makeDirectory t (settingsDirectory home)).2
    load wording t' home = load wording t home ∨ load wording t home = .ok {} ∧ ∃ path,
      pathOf (settingsFile home) = .ok path ∧ LeavesMade t t' (t.start path) path.names := by
  intro t'
  refine (load_of_addsDirectories (addsDirectories_makeDirectory t _) wording home).imp_right ?_
  rintro ⟨husual, file, e, found, hfile, hbefore, hafter⟩
  refine ⟨husual, file, hfile, ?_⟩
  cases hpath : pathOf (settingsDirectory home) with
  | error fault =>
    rw [makeDirectory_of_error hpath, hbefore] at hafter
    cases hafter
  | ok directory =>
    obtain ⟨habsolute, hnames⟩ := names_settingsFile hpath hfile
    have hmakes : MakesAlong (t.start file) directory.names t t' := by
      have hstart : t.start file = t.start directory := by rw [Tree.start, Tree.start, habsolute]
      have hmade : t' = (t.makeAll directory).2 := makeDirectory_of_path hpath
      rw [hstart, hmade]
      exact makesAlong_makeAll directory t
    exact leavesMade_of_find hmakes (by decide) hnames hbefore hafter

/-- **A refused save loses nothing.** Settings have no text exactly if one of their numbers has more
than 63 bits. Saving them to a file then fails and leaves all files and directories as they are.
Saving them to the program's file fails as well, all files keep their bytes and no file is new, and
the settings that are loaded are the same before and after. Only if the path of the program's file
goes back, by `..`, behind a directory that was missing before and was made, can there be a file
afterwards where none was found before. -/
theorem refused_save_keeps_files (wording : Wording) (s : Settings) :
    ((∃ text, s.toToml = .ok text) ↔ ∀ n ∈ s.numbers, n.toNat ≤ 9223372036854775807) ∧
    (∀ t file, (∃ message, (saveTo t file s).1 = .error (.settings message)) ↔
      ∃ n ∈ s.numbers, 9223372036854775807 < n.toNat) ∧
    ∀ fault, s.toToml = .error fault →
      (∀ t file, saveTo t file s = (.error fault, t)) ∧
      ∀ t home, let t' := (save t home s).2
        ((save t home s).1 = .error fault ∨ ∃ other, (save t home s).1 = .error other ∧
          (makeDirectory t (settingsDirectory home)).1 = .error other) ∧
        t'.working = t.working ∧
        (∀ place bytes, t'.get? place = some (.file bytes) ↔ t.get? place = some (.file bytes)) ∧
        (load wording t' home = load wording t home ∨ load wording t home = .ok {} ∧ ∃ path,
          pathOf (settingsFile home) = .ok path ∧
            LeavesMade t t' (t.start path) path.names) := by
  refine ⟨?_, fun t file => ?_, fun fault hfault => ⟨saveTo_of_error hfault, fun t home => ?_⟩⟩
  · simp [toToml_eq_ok_iff, Settings.isWritable, isWritable]
  · simp only [saveTo_refusal_iff, toToml_eq_error_iff, refusal, Fault.settings.injEq,
      exists_and_left, exists_eq, and_true]
  · obtain ⟨hmade, hresult⟩ := save_of_error hfault t home
    have hadds := addsDirectories_makeDirectory t (settingsDirectory home)
    simp only [hmade]
    exact ⟨hresult, hadds.working, get?_file_iff hadds, load_makeDirectory wording t home⟩

/-- Settings with a number that needs all 64 bits. -/
def wideSettings : Settings where
  detection := { pollInterval := 18446744073709551615 }

/-- A working directory that holds a home directory `me` with a file of settings. -/
def homeTree (bytes : List UInt8) : Tree :=
  let me := workTree.put ⟨⟨["work"], rfl⟩, "me", rfl, by decide⟩ .directory
  let config := me.put ⟨⟨["work", "me"], rfl⟩, ".config", rfl, by decide⟩ .directory
  let netpulse :=
    config.put ⟨⟨["work", "me", ".config"], rfl⟩, "netpulse", rfl, by decide⟩ .directory
  netpulse.put ⟨⟨["work", "me", ".config", "netpulse"], rfl⟩, "config.toml", rfl, by decide⟩
    (.file bytes)

/-- Settings are kept where they are when others are refused. -/
theorem home_settings_kept :
    let t := homeTree (Text.encodeText "[sampling]\ninterval_ms = 7\n")
    let home := some (Text.encodeText "me")
    wideSettings.toToml = .error refusal ∧
      load id (save t home wideSettings).2 home = .ok { sampling := { interval := 7 } } := by
  intro t home
  have hrefused : wideSettings.toToml = .error refusal := rfl
  obtain ⟨-, -, hkept⟩ := refused_save_keeps_files id wideSettings
  obtain ⟨-, hsaves⟩ := hkept refusal hrefused
  obtain ⟨-, -, -, hload⟩ := hsaves t home
  have hbefore : load id t home = .ok { sampling := { interval := 7 } } := by decide +kernel
  refine ⟨hrefused, ?_⟩
  rcases hload with hsame | ⟨husual, -⟩
  · exact hsame.trans hbefore
  · rw [hbefore] at husual
    cases husual

/-- A home directory that is told by way of one that is missing has no settings, but a refused save
makes the missing one, and then the settings behind it are found. -/
theorem settings_found_behind_made_directory :
    let t := homeTree (Text.encodeText "[sampling]\ninterval_ms = 7\n")
    let home := some (Text.encodeText "new/../me")
    wideSettings.toToml = .error refusal ∧ load id t home = .ok {} ∧
      load id (save t home wideSettings).2 home = .ok { sampling := { interval := 7 } } :=
  ⟨rfl, by decide +kernel, by decide +kernel⟩

end LinkWatch
