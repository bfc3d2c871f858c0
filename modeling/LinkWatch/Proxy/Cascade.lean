import LinkWatch.Proxy.Dictionary
import LinkWatch.Proxy.Status
import LinkWatch.Proxy.Variables
import LinkWatch.Text.LowerCase
import LinkWatch.Traffic.Counter

/-!
# The detection cascade

Three places may name a proxy: the environment, the system's dictionary and the tunnels. They are
asked in this order, a later one only when all earlier ones had nothing to say, and the answers are
never mixed. The last two are behind a gate.

Tunnels count because some proxies route all traffic through a tunnel interface and set nothing
else. A tunnel that has carried traffic shows that one is running.
-/

namespace LinkWatch.Proxy

open LinkWatch.Text LinkWatch.Traffic

/-! ## Tunnels -/

/-- Whether a name is that of a tunnel interface. -/
def isTunnelName (name : String) : Bool :=
  lowerStartsWith name ['u', 't', 'u', 'n'] || lowerStartsWith name ['t', 'u', 'n']

/-- Whether a row is a tunnel that has carried traffic. -/
def isActiveTunnel (c : Counter) : Bool :=
  isTunnelName c.name && c.hasTraffic

/-- The names of the active tunnels, sorted. -/
def activeTunnels (reading : Reading) : List String :=
  ((reading.filter isActiveTunnel).map (·.name)).mergeSort fun a b => decide (a ≤ b)

/-- The status for the active tunnels: the first name, with a plus sign when there are more. -/
def fromTunnels (reading : Reading) : Option Status :=
  match activeTunnels reading with
  | [] => none
  | [name] => some (.found .tun name)
  | name :: _ :: _ => some (.found .tun (name ++ "+"))

/-! ## The cascade -/

/-- What there is to be asked. A query or a tunnel reading that is `none` has failed. -/
structure Sources where
  lookup : Lookup
  query : Option String
  tunnels : Option Reading

/-- The status that was found, and which sources were asked on the way. -/
structure Outcome where
  status : Status
  looked : List String
  queried : Bool
  tunnelsRead : Bool
  deriving DecidableEq, Repr

/-- Asks the sources in order, the system's only if the gate is open. -/
def resolve (s : Sources) (gate : Bool) : Outcome :=
  let env := fromVariables s.lookup
  match env.status with
  | some status => ⟨status, env.looked, false, false⟩
  | none =>
    if gate then
      match s.query.bind fromDictionary with
      | some status => ⟨status, env.looked, true, false⟩
      | none => ⟨(s.tunnels.bind fromTunnels).getD .disabled, env.looked, true, true⟩
    else ⟨.disabled, env.looked, false, false⟩

end LinkWatch.Proxy
