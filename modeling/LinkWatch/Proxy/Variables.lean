import LinkWatch.Proxy.Authority
import LinkWatch.Proxy.Status
import LinkWatch.Text.LowerCase

/-!
# Proxy variables of the environment

Six variables may name a proxy. They are looked up in a fixed order, and the first one that is set
and not blank decides.
-/

namespace LinkWatch.Proxy

open LinkWatch.Text

/-- The value of a variable, if it is set. -/
abbrev Lookup := String → Option String

/-- The variables, in the order in which they are looked up. -/
def variableNames : List String :=
  ["https_proxy", "HTTPS_PROXY", "http_proxy", "HTTP_PROXY", "all_proxy", "ALL_PROXY"]

/-- The status that a value stands for, unless it is blank. A value that starts like `socks` names
a SOCKS proxy; a value without a proper host is shown as it is. -/
def statusOfValue? (value : String) : Option Status :=
  let text := trim value.toList
  if text = [] then none
  else
    let kind : Kind := if ['s', 'o', 'c', 'k', 's'].isPrefixOf (lowerCase text) then .socks
      else .http
    let host := hostChars text
    some (.found kind (String.ofList (if host = [] then text else host)))

/-- What the variables gave: a status, if one of them decided, and the names looked up. -/
structure VariablesResult where
  status : Option Status
  looked : List String
  deriving DecidableEq, Repr

/-- Looks the names up in order, up to the first that decides. -/
def searchVariables (lookup : Lookup) : List String → VariablesResult
  | [] => ⟨none, []⟩
  | name :: names =>
    match (lookup name).bind statusOfValue? with
    | some status => ⟨some status, [name]⟩
    | none =>
      let r := searchVariables lookup names
      ⟨r.status, name :: r.looked⟩

/-- The status that the environment asks for. -/
def fromVariables (lookup : Lookup) : VariablesResult :=
  searchVariables lookup variableNames

/-! ## Small facts -/

/-- A blank value decides nothing, and every other value decides. -/
theorem statusOfValue?_eq_none_iff (value : String) :
    statusOfValue? value = none ↔ trim value.toList = [] := by
  unfold statusOfValue?
  simp only
  split <;> simp_all

end LinkWatch.Proxy
