import LinkWatch.Document.Proxy
import LinkWatch.Document.Traffic
import LinkWatch.Session

/-!
# Reports as documents

A report is a record of its throughputs, its proxy status and the two histories.
-/

namespace LinkWatch

open LinkWatch.Json LinkWatch.Proxy LinkWatch.Traffic

/-- The names of a report's fields. -/
def Report.fieldNames : List String :=
  ["networks", "proxy", "rx_history", "tx_history"]

/-- The document of a report. -/
def Report.toNode (r : Report) : Node :=
  .ofMembers [("networks", .array (r.networks.map Throughput.toNode)), ("proxy", r.proxy.toNode),
    ("rx_history", .array (r.received.map .ofFloat)), ("tx_history", .array (r.sent.map .ofFloat))]

/-- Reads a report. -/
def Report.ofNode? (n : Node) : Option Report := do
  match (← n.fields? Report.fieldNames).values with
  | [networks, proxy, received, sent] =>
    return ⟨← required? (Node.list? Throughput.ofNode?) networks,
      ← required? Status.ofNode? proxy, ← required? (Node.list? Node.float?) received,
      ← required? (Node.list? Node.float?) sent⟩
  | _ => none

/-- Reads a report from a text. -/
def Report.ofJson? (text : String) : Option Report :=
  (Node.parse? text.toList).bind Report.ofNode?

end LinkWatch
