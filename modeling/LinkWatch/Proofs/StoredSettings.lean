import LinkWatch.Proofs.ConfigurationText
import LinkWatch.Proofs.EncodedText
import LinkWatch.Proofs.MadeDirectories
import LinkWatch.Storage

/-!
# Stored settings are in force again

The settings' own file has a name that no device has, so the bytes that were written to it are there
to be read. They are the settings' text, and that text is read as the same settings.
-/

namespace LinkWatch

open LinkWatch.Files

/-! ## Saving and loading -/

theorem isPlainName_config : IsPlainName "config.toml" :=
  ⟨by decide, by decide, by decide⟩

theorem isFreeName_config : IsFreeName "config.toml" := by
  intro directory
  have hlast : (directory ++ ["config.toml"]).getLast? = some "config.toml" := by simp
  generalize directory ++ ["config.toml"] = place at hlast
  unfold standing?
  split
  all_goals
    first
    | rfl
    | exact absurd hlast (by decide)

/-- Making a directory makes the ones of its path. -/
theorem makeDirectory_of_path {t : Tree} {directory : String} {path : Path}
    (h : pathOf directory = .ok path) : (makeDirectory t directory).2 = (t.makeAll path).2 := by
  simp only [makeDirectory, h]
  split <;> simp only [*]

theorem makeDirectory_of_error {t : Tree} {directory : String} {fault : Fault}
    (h : pathOf directory = .error fault) : (makeDirectory t directory).2 = t := by
  rw [makeDirectory, h]

/-- Making a directory adds directories and changes nothing else. -/
theorem addsDirectories_makeDirectory (t : Tree) (directory : String) :
    AddsDirectories t (makeDirectory t directory).2 := by
  cases h : pathOf directory with
  | error fault =>
    rw [makeDirectory_of_error h]
    exact (makesAlong_refl [] [] t).toAddsDirectories
  | ok path =>
    rw [makeDirectory_of_path h]
    exact (makesAlong_makeAll path t).toAddsDirectories

/-- What saving to a file needs, and what it does. -/
theorem saveTo_cases {t t' : Tree} {file : String} {s : Settings}
    (h : saveTo t file s = (.ok (), t')) :
    ∃ text path, s.toToml = .ok text ∧ pathOf file = .ok path ∧
      t.write path (Text.encodeText text) = .ok t' := by
  rw [saveTo] at h
  split at h
  case h_1 => cases h
  case h_2 text htext =>
    split at h
    case h_1 => cases h
    case h_2 written hwritten =>
      cases h
      rw [withPath] at hwritten
      split at hwritten
      case h_1 => cases hwritten
      case h_2 path hpath =>
        split at hwritten
        case h_1 hwrite =>
          cases hwritten
          exact ⟨text, path, htext, hpath, hwrite⟩
        case h_2 => cases hwritten

/-- What saving needs, and what it does. -/
theorem save_cases {t t' : Tree} {home : Option (List UInt8)} {s : Settings}
    (h : save t home s = (.ok (), t')) :
    ∃ made, made.working = t.working ∧ saveTo made (settingsFile home) s = (.ok (), t') := by
  have hworking := (addsDirectories_makeDirectory t (settingsDirectory home)).working
  rw [save] at h
  split at h
  case h_1 => cases h
  case h_2 made hmade =>
    rw [hmade] at hworking
    exact ⟨made, hworking, h⟩

theorem ofString?_of_pathOf {text : String} {path : Path} (h : pathOf text = .ok path) :
    Path.ofString? text = some path := by
  rw [pathOf] at h
  split at h
  · cases h
  · split at h
    · cases h
    · split at h
      case h_1 => cases h
      case h_2 hpath =>
        cases h
        exact hpath

/-- Settings that were saved to the program's file are there as text, and no other directory has
become the working one. -/
theorem read_of_saveTo {t t' : Tree} {home : Option (List UInt8)} {s : Settings}
    (h : saveTo t (settingsFile home) s = (.ok (), t')) :
    ∃ text, s.toToml = .ok text ∧
      withPath (settingsFile home) t'.read = .ok (Text.encodeText text) ∧
      t'.working = t.working := by
  obtain ⟨text, path, htext, hpath, hwrite⟩ := saveTo_cases h
  have hlast : path.names.getLast? = some "config.toml" :=
    getLast?_names isPlainName_config (ofString?_of_pathOf hpath)
  have hread : t'.read path = .ok (Text.encodeText text) :=
    read_of_write hlast isFreeName_config hwrite
  obtain ⟨spot, -, -, -, -, -, rfl⟩ := write_cases hlast isFreeName_config hwrite
  exact ⟨text, htext, by simp only [withPath, hpath, hread], rfl⟩

/-- A file that can be read exists. -/
theorem fileExists_of_read {t : Tree} {file : String} {bytes : List UInt8}
    (h : withPath file t.read = .ok bytes) : fileExists t file = true := by
  rw [withPath] at h
  rw [fileExists, withPath]
  cases hpath : pathOf file with
  | error fault =>
    rw [hpath] at h
    cases h
  | ok path =>
    simp only [hpath, Tree.read] at h
    cases hfind : t.find path with
    | error e =>
      rw [hfind] at h
      cases h
    | ok found =>
      simp only [hfind]
      rfl

/-- What is loaded is what is read at the place of the settings. -/
theorem load_of_read {t : Tree} {home : Option (List UInt8)} {text : String}
    (h : withPath (settingsFile home) t.read = .ok (Text.encodeText text)) (wording : Wording) :
    load wording t home = Settings.ofToml wording text := by
  simp only [load, fileExists_of_read h, if_true, loadFrom, h, Text.decode?_encodeText]

/-- Settings are written if they can be, and then as their text. -/
theorem toToml_eq_ok_iff {s : Settings} {text : String} :
    s.toToml = .ok text ↔ s.isWritable = true ∧ text = String.ofList s.configurationChars := by
  rw [Settings.toToml]
  split
  case isTrue hwritable => simp [hwritable, eq_comm]
  case isFalse hwritable => simp [hwritable]

/-- What is written is read as what it was written for. -/
theorem ofToml_of_toToml {s : Settings} {text : String} (h : s.toToml = .ok text)
    (wording : Wording) : Settings.ofToml wording text = .ok s := by
  obtain ⟨hwritable, rfl⟩ := toToml_eq_ok_iff.1 h
  exact ofToml_configurationChars hwritable wording

/-- **Settings are the same after writing and reading.** Settings whose numbers fit into 63 bits
have a text, that text is read as the same settings, and whatever is read from it is written as
that text again. Whenever saving succeeds, the text is in the program's file afterwards, and loading
from the same home and working directory gives the settings that were saved. -/
theorem saved_settings_are_loaded (wording : Wording) (s : Settings) :
    ((∀ n ∈ s.numbers, n.toNat ≤ 9223372036854775807) →
      ∃ text, s.toToml = .ok text ∧ Settings.ofToml wording text = .ok s ∧
        ∀ again, Settings.ofToml wording text = .ok again → again.toToml = .ok text) ∧
    ∀ (t t' : Tree) (home : Option (List UInt8)), save t home s = (.ok (), t') →
      ∃ text, s.toToml = .ok text ∧
        withPath (settingsFile home) t'.read = .ok (Text.encodeText text) ∧
        load wording t' home = .ok s ∧ t'.working = t.working := by
  refine ⟨fun hnumbers => ?_, fun t t' home hsave => ?_⟩
  · have hwritable : s.isWritable = true := by
      simpa [Settings.isWritable, isWritable] using hnumbers
    have htext : s.toToml = .ok (String.ofList s.configurationChars) :=
      toToml_eq_ok_iff.2 ⟨hwritable, rfl⟩
    have hread := ofToml_of_toToml htext wording
    refine ⟨_, htext, hread, fun again hagain => ?_⟩
    have heq : s = again := Except.ok.inj (hread.symm.trans hagain)
    rw [← heq]
    exact htext
  · obtain ⟨made, hworking, hsaved⟩ := save_cases hsave
    obtain ⟨text, htext, hread, hkept⟩ := read_of_saveTo hsaved
    exact ⟨text, htext, hread, (load_of_read hread wording).trans (ofToml_of_toToml htext wording),
      hkept.trans hworking⟩

/-- Settings with the largest number that can be written and texts in every style: an empty one, one
with a double quote, one with both quotes, and one over two lines with a control character. -/
def oddSettings : Settings where
  sampling :=
    { interval := 9223372036854775807
      extraNoise := ["", "a\"b\\", "'\"\"'", "\n'''\"\"\"\x00é"] }

/-- The spot of a working directory in a tree in which nothing has been made. -/
def workSpot : Spot (.empty ["work"]) :=
  ⟨⟨[], rfl⟩, "work", rfl, by decide⟩

/-- A tree with nothing but its working directory. -/
def workTree : Tree :=
  Tree.put _ workSpot .directory

/-- Saved where a working directory is and no home, they are loaded again. -/
theorem odd_settings_saved_and_loaded :
    (∃ text, oddSettings.toToml = .ok text ∧ Settings.ofToml id text = .ok oddSettings) ∧
    ∃ t', save workTree none oddSettings = (.ok (), t') ∧
      load id t' none = .ok oddSettings ∧ t'.working = ["work"] := by
  obtain ⟨hwritten, hsaved⟩ := saved_settings_are_loaded id oddSettings
  obtain ⟨text, htext, hread, -⟩ := hwritten (by simp [Settings.numbers, oddSettings])
  have hsave : save workTree none oddSettings =
      (.ok (), (save workTree none oddSettings).2) := by
    rfl
  obtain ⟨-, -, -, hload, hworking⟩ := hsaved _ _ none hsave
  exact ⟨⟨text, htext, hread⟩, _, hsave, hload, hworking⟩

end LinkWatch
