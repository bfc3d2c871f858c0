import LinkWatch.Document.Configuration
import LinkWatch.Files.Tree

/-!
# Stored settings

Settings are kept in a file of the home directory. Where there is no such file the usual settings
are in force. Settings are written completely or not at all: what cannot be written is refused
before the file is touched.
-/

namespace LinkWatch

open LinkWatch.Files

/-- The directory of the program's settings. A home directory whose name is not text counts as
none. -/
def settingsDirectory (home : Option (List UInt8)) : String :=
  let base := match home.bind Text.decode? with
    | some home => joinPath home ".config"
    | none => ".config"
  joinPath base "netpulse"

/-- The file of the program's settings. -/
def settingsFile (home : Option (List UInt8)) : String :=
  joinPath (settingsDirectory home) "config.toml"

/-- The longest path that the system takes, in bytes. -/
def longestPath : Nat := 4095

/-- The path that a text names, if it names one that the system takes. -/
def pathOf (text : String) : Except Fault Path :=
  if text.toList.contains '\x00' then .error (.io .nulInName)
  else if longestPath < text.utf8ByteSize then .error (.ofSystem .nameTooLong)
  else
    match Path.ofString? text with
    | none => .error (.ofSystem .notFound)
    | some path => .ok path

/-- Does something with the path that a text names. -/
def withPath {α : Type} (text : String) (act : Path → Except OsError α) : Except Fault α :=
  match pathOf text with
  | .error fault => .error fault
  | .ok path =>
    match act path with
    | .ok a => .ok a
    | .error e => .error (.ofSystem e)

/-- The settings in a file. -/
def loadFrom (wording : Wording) (t : Tree) (file : String) : Except Fault Settings :=
  match withPath file t.read with
  | .error fault => .error fault
  | .ok bytes =>
    match Text.decode? bytes with
    | none => .error (.io .notText)
    | some text => Settings.ofToml wording text

/-- Whether a file exists. Whatever keeps the answer from being found counts as no. -/
def fileExists (t : Tree) (file : String) : Bool :=
  (withPath file t.find).toOption.isSome

/-- The settings in force. -/
def load (wording : Wording) (t : Tree) (home : Option (List UInt8)) : Except Fault Settings :=
  let file := settingsFile home
  if fileExists t file then loadFrom wording t file else .ok {}

/-- Writes settings to a file: what went wrong, if anything, and the tree after it. -/
def saveTo (t : Tree) (file : String) (s : Settings) : Except Fault Unit × Tree :=
  match s.toToml with
  | .error fault => (.error fault, t)
  | .ok text =>
    match withPath file fun path => t.write path (Text.encodeText text) with
    | .error fault => (.error fault, t)
    | .ok t => (.ok (), t)

/-- Makes the directory that a text names, and those above it. -/
def makeDirectory (t : Tree) (directory : String) : Except Fault Unit × Tree :=
  match pathOf directory with
  | .error fault => (.error fault, t)
  | .ok path =>
    match t.makeAll path with
    | (.ok (), t) => (.ok (), t)
    | (.error e, t) => (.error (.ofSystem e), t)

/-- Writes settings to the program's file, whose directory is made if need be. -/
def save (t : Tree) (home : Option (List UInt8)) (s : Settings) : Except Fault Unit × Tree :=
  match makeDirectory t (settingsDirectory home) with
  | (.error fault, t) => (.error fault, t)
  | (.ok (), t) => saveTo t (settingsFile home) s

end LinkWatch
