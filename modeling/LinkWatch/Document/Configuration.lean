import LinkWatch.Fault
import LinkWatch.Settings
import LinkWatch.Toml.Document

/-!
# Settings as configuration text

A configuration text has two sections, `sampling` and `proxy`. A section is a table of named
fields or an array of its fields in order. Fields that are missing keep their usual values, and
entries that the settings do not know are passed over.
-/

namespace LinkWatch

open LinkWatch.Toml

/-! ## Reading -/

/-- A number that is not negative. -/
def readNatural? : Value → Option UInt64
  | .integer n => if 0 ≤ n then some (UInt64.ofNat n.toNat) else none
  | _ => none

/-- A truth value. -/
def readBoolean? : Value → Option Bool
  | .boolean b => some b
  | _ => none

/-- One text. -/
def readString? : Value → Option String
  | .text s => some s
  | _ => none

/-- A list of texts. -/
def readStrings? : Value → Option (List String)
  | .array items => items.mapM readString?
  | _ => none

/-- The values of a section's fields. An array may be shorter or longer than the list of fields. A
moment counts as a section that has none of them. -/
def sectionFields? (names : List String) : Value → Option (List (Option Value))
  | .table entries => some (names.map fun name => entries.lookup name)
  | .array items => some ((List.range names.length).map fun i => items[i]?)
  | .moment => some (names.map fun _ => none)
  | _ => none

/-- The value of a field that keeps its usual value where it is missing. -/
def orUsual? {α : Type} (usual : α) (read : Value → Option α) : Option Value → Option α
  | none => some usual
  | some v => read v

/-- The sampling section of a value. -/
def Sampling.ofValue? (v : Value) : Option Sampling := do
  let usual : Sampling := {}
  match ← sectionFields? ["interval_ms", "top_interfaces", "trend_capacity",
      "extra_noise_prefixes"] v with
  | [interval, top, capacity, extra] =>
    return ⟨← orUsual? usual.interval readNatural? interval,
      ← orUsual? usual.topInterfaces readNatural? top,
      ← orUsual? usual.trendCapacity readNatural? capacity,
      ← orUsual? usual.extraNoise readStrings? extra⟩
  | _ => none

/-- The detection section of a value. -/
def Detection.ofValue? (v : Value) : Option Detection := do
  let usual : Detection := {}
  match ← sectionFields? ["query_timeout_ms", "poll_interval_ms", "system_query"] v with
  | [timeout, poll, query] =>
    return ⟨← orUsual? usual.queryTimeout readNatural? timeout,
      ← orUsual? usual.pollInterval readNatural? poll,
      ← orUsual? usual.systemQuery readBoolean? query⟩
  | _ => none

/-- The settings of a document. -/
def Settings.ofEntries? (entries : List (String × Value)) : Option Settings := do
  return ⟨← orUsual? {} Sampling.ofValue? (entries.lookup "sampling"),
    ← orUsual? {} Detection.ofValue? (entries.lookup "proxy")⟩

/-- What a reader of configuration texts has to say about a text that it refuses. -/
abbrev Wording := String → String

/-- The settings of a configuration text. -/
def Settings.ofToml (wording : Wording) (text : String) : Except Fault Settings :=
  match (Toml.parse? text.toList).bind Settings.ofEntries? with
  | some settings => .ok settings
  | none => .error (.parse ("Failed to parse config: " ++ wording text))

/-! ## Writing -/

/-- A field of a section on a line of its own. -/
def fieldLine (name : String) (value : List Char) : List Char :=
  name.toList ++ [' ', '=', ' '] ++ value ++ ['\n']

/-- The digits of a number. -/
def numberText (n : UInt64) : List Char :=
  Nat.toDigits 10 n.toNat

/-- A truth value. -/
def booleanText (b : Bool) : List Char :=
  if b then "true".toList else "false".toList

/-- A list of texts: on one line as long as it has at most one, else with each on its own line and
a comma after it. -/
def stringsText : List String → List Char
  | [] => ['[', ']']
  | [s] => '[' :: quoted s.toList ++ [']']
  | ss =>
    '[' :: '\n' :: ss.flatMap (fun s => "    ".toList ++ quoted s.toList ++ [',', '\n']) ++ [']']

/-- The text of the settings. -/
def Settings.configurationChars (s : Settings) : List Char :=
  "[sampling]\n".toList
    ++ fieldLine "interval_ms" (numberText s.sampling.interval)
    ++ fieldLine "top_interfaces" (numberText s.sampling.topInterfaces)
    ++ fieldLine "trend_capacity" (numberText s.sampling.trendCapacity)
    ++ fieldLine "extra_noise_prefixes" (stringsText s.sampling.extraNoise)
    ++ "\n[proxy]\n".toList
    ++ fieldLine "query_timeout_ms" (numberText s.detection.queryTimeout)
    ++ fieldLine "poll_interval_ms" (numberText s.detection.pollInterval)
    ++ fieldLine "system_query" (booleanText s.detection.systemQuery)

/-- The numbers of the settings. -/
def Settings.numbers (s : Settings) : List UInt64 :=
  [s.sampling.interval, s.sampling.topInterfaces, s.sampling.trendCapacity,
    s.detection.queryTimeout, s.detection.pollInterval]

/-- Whether a number can be written: configuration texts have 63 bits for it. -/
def isWritable (n : UInt64) : Bool :=
  n.toNat ≤ 9223372036854775807

/-- Whether the settings can be written. -/
def Settings.isWritable (s : Settings) : Bool :=
  s.numbers.all LinkWatch.isWritable

/-- The configuration text of the settings. -/
def Settings.toToml (s : Settings) : Except Fault String :=
  if s.isWritable then .ok (String.ofList s.configurationChars)
  else .error (.settings "Failed to serialize config: out-of-range value for u64 type")

end LinkWatch
