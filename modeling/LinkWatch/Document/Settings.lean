import LinkWatch.Json.Record
import LinkWatch.Settings

/-!
# Settings as documents

Each section is a record in which every field has a value of its own where it is missing, and so
are the settings.
-/

namespace LinkWatch

open LinkWatch.Json

/-- The names of the sampling fields. -/
def Sampling.fieldNames : List String :=
  ["interval_ms", "top_interfaces", "trend_capacity", "extra_noise_prefixes"]

/-- The document of the sampling section. -/
def Sampling.toNode (s : Sampling) : Node :=
  .ofMembers [("interval_ms", .ofNat s.interval.toNat),
    ("top_interfaces", .ofNat s.topInterfaces.toNat),
    ("trend_capacity", .ofNat s.trendCapacity.toNat),
    ("extra_noise_prefixes", .array (s.extraNoise.map .ofText))]

/-- Reads the sampling section. -/
def Sampling.ofNode? (n : Node) : Option Sampling := do
  let standard : Sampling := {}
  match (← n.fields? Sampling.fieldNames).values with
  | [interval, top, capacity, extra] =>
    return ⟨← orDefault? standard.interval Node.natural? interval,
      ← orDefault? standard.topInterfaces Node.natural? top,
      ← orDefault? standard.trendCapacity Node.natural? capacity,
      ← orDefault? standard.extraNoise (Node.list? Node.text?) extra⟩
  | _ => none

/-- The names of the detection fields. -/
def Detection.fieldNames : List String :=
  ["query_timeout_ms", "poll_interval_ms", "system_query"]

/-- The document of the detection section. -/
def Detection.toNode (d : Detection) : Node :=
  .ofMembers [("query_timeout_ms", .ofNat d.queryTimeout.toNat),
    ("poll_interval_ms", .ofNat d.pollInterval.toNat), ("system_query", .bool d.systemQuery)]

/-- Reads the detection section. -/
def Detection.ofNode? (n : Node) : Option Detection := do
  let standard : Detection := {}
  match (← n.fields? Detection.fieldNames).values with
  | [timeout, poll, query] =>
    return ⟨← orDefault? standard.queryTimeout Node.natural? timeout,
      ← orDefault? standard.pollInterval Node.natural? poll,
      ← orDefault? standard.systemQuery Node.bool? query⟩
  | _ => none

/-- The names of the sections. -/
def Settings.fieldNames : List String :=
  ["sampling", "proxy"]

/-- The document of the settings. -/
def Settings.toNode (s : Settings) : Node :=
  .ofMembers [("sampling", s.sampling.toNode), ("proxy", s.detection.toNode)]

/-- Reads the settings. -/
def Settings.ofNode? (n : Node) : Option Settings := do
  match (← n.fields? Settings.fieldNames).values with
  | [sampling, detection] =>
    return ⟨← orDefault? {} Sampling.ofNode? sampling, ← orDefault? {} Detection.ofNode? detection⟩
  | _ => none

/-- Reads the settings from a text. -/
def Settings.ofJson? (text : String) : Option Settings :=
  (Node.parse? text.toList).bind Settings.ofNode?

end LinkWatch
