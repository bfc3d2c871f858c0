import LinkWatch.Json.Record
import LinkWatch.Traffic.History
import LinkWatch.Traffic.Ranking

/-!
# Traffic as documents

Counters and throughputs are records; rates are doubles, and a missing address is null. In an
object the address may be left out.
-/

namespace LinkWatch.Traffic

open LinkWatch.Json

/-- The names of a counter's fields. -/
def Counter.fieldNames : List String :=
  ["name", "rx_bytes", "tx_bytes"]

/-- The document of a counter. -/
def Counter.toNode (c : Counter) : Node :=
  .ofMembers [("name", .ofText c.name), ("rx_bytes", .ofNat c.received.toNat),
    ("tx_bytes", .ofNat c.sent.toNat)]

/-- Reads a counter. -/
def Counter.ofNode? (n : Node) : Option Counter := do
  match (← n.fields? Counter.fieldNames).values with
  | [name, received, sent] =>
    return ⟨← required? Node.text? name, ← required? Node.natural? received,
      ← required? Node.natural? sent⟩
  | _ => none

/-- Reads a counter from a text. -/
def Counter.ofJson? (text : String) : Option Counter :=
  (Node.parse? text.toList).bind Counter.ofNode?

/-- The names of a throughput's fields. -/
def Throughput.fieldNames : List String :=
  ["name", "rx_rate_mbps", "tx_rate_mbps", "ip"]

/-- The document of a throughput. -/
def Throughput.toNode (t : Throughput) : Node :=
  .ofMembers [("name", .ofText t.name), ("rx_rate_mbps", .ofFloat t.receiving),
    ("tx_rate_mbps", .ofFloat t.sending), ("ip", t.address.elim .null .ofText)]

/-- The address of a throughput, which only an object may leave out. -/
def readAddress? (byPlace : Bool) : Option Node → Option (Option String)
  | none => if byPlace then none else some none
  | some n => n.orNull? Node.text?

/-- Reads a throughput. -/
def Throughput.ofNode? (n : Node) : Option Throughput := do
  let fields ← n.fields? Throughput.fieldNames
  match fields.values with
  | [name, receiving, sending, address] =>
    return ⟨← required? Node.text? name, ← required? Node.float? receiving,
      ← required? Node.float? sending, ← readAddress? fields.byPlace address⟩
  | _ => none

/-- Reads a throughput from a text. -/
def Throughput.ofJson? (text : String) : Option Throughput :=
  (Node.parse? text.toList).bind Throughput.ofNode?

/-- A history that is taken over as it stands, whatever its capacity and length. -/
def History.restore (capacity : UInt64) (samples : List Float) : History :=
  ⟨capacity.toNat, samples⟩

end LinkWatch.Traffic
