import LinkWatch.Json.Record
import LinkWatch.Proxy.Status

/-!
# Proxy statuses as documents

A kind is written as its name, and also read from an object whose only member has that name and is
null. A status is a record.
-/

namespace LinkWatch.Proxy

open LinkWatch.Json

/-- The document of a kind. -/
def Kind.toNode (k : Kind) : Node :=
  .ofText k.name

/-- Reads a kind. -/
def Kind.ofNode? : Node → Option Kind
  | .string body => (unescape? body).bind fun name => Kind.ofName? (String.ofList name)
  | .object [(key, .null)] => (unescape? key).bind fun name => Kind.ofName? (String.ofList name)
  | _ => none

/-- The names of a status's fields. The kind goes under `type`. -/
def Status.fieldNames : List String :=
  ["enabled", "type", "host"]

/-- The document of a status. -/
def Status.toNode (s : Status) : Node :=
  .ofMembers [("enabled", .bool s.enabled), ("type", s.kind.toNode), ("host", .ofText s.host)]

/-- Reads a status. -/
def Status.ofNode? (n : Node) : Option Status := do
  match (← n.fields? Status.fieldNames).values with
  | [enabled, kind, host] =>
    return ⟨← required? Node.bool? enabled, ← required? Kind.ofNode? kind,
      ← required? Node.text? host⟩
  | _ => none

/-- Reads a kind from a text. -/
def Kind.ofJson? (text : String) : Option Kind :=
  (Node.parse? text.toList).bind Kind.ofNode?

/-- Reads a status from a text. -/
def Status.ofJson? (text : String) : Option Status :=
  (Node.parse? text.toList).bind Status.ofNode?

end LinkWatch.Proxy
