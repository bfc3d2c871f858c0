/-!
# Proxy status

The result of looking for a proxy, and the text that shows it.
-/

namespace LinkWatch.Proxy

/-- The kinds of proxy. -/
inductive Kind where
  | http
  | https
  | socks
  /-- An automatic configuration script. -/
  | pac
  /-- Automatic discovery. -/
  | wpad
  /-- Traffic that goes through a tunnel interface. -/
  | tun
  /-- No proxy. -/
  | absent
  deriving DecidableEq, Repr, Inhabited

/-- The name of a kind. -/
def Kind.name : Kind → String
  | .http => "HTTP"
  | .https => "HTTPS"
  | .socks => "SOCKS"
  | .pac => "PAC"
  | .wpad => "WPAD"
  | .tun => "TUN"
  | .absent => "none"

/-- All kinds. -/
def Kind.all : List Kind :=
  [.http, .https, .socks, .pac, .wpad, .tun, .absent]

/-- The kind of a name. -/
def Kind.ofName? (name : String) : Option Kind :=
  Kind.all.find? (·.name == name)

/-- A proxy status: whether there is a proxy, of which kind, and its host or what stands for it. -/
structure Status where
  enabled : Bool
  kind : Kind
  host : String
  deriving DecidableEq, Repr, Inhabited

/-- A proxy that was found. -/
def Status.found (kind : Kind) (host : String) : Status :=
  ⟨true, kind, host⟩

/-- No proxy. -/
def Status.disabled : Status :=
  ⟨false, .absent, ""⟩

/-- The text that shows a status. -/
def Status.display (s : Status) : String :=
  if s.enabled then s.kind.name ++ " " ++ s.host else "none"

/-! ## Small facts -/

@[simp] theorem ofName?_name (k : Kind) : Kind.ofName? k.name = some k := by
  cases k <;> rfl

end LinkWatch.Proxy
