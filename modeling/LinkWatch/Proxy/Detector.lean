import LinkWatch.Proxy.Cascade
import LinkWatch.Settings
import LinkWatch.Text.Utf8

/-!
# Detection in a process

A process sees its environment as bytes, and reads a value leniently, so that a value that is not
text still names its proxy. The system is asked only where it can be, and only if the settings
allow it.
-/

namespace LinkWatch.Proxy

open LinkWatch.Traffic

/-- The variables of a process, with their values as bytes. -/
abbrev Environment := List (String × List UInt8)

/-- An environment of texts. -/
def Environment.ofTexts (texts : List (String × String)) : Environment :=
  texts.map fun v => (v.1, Text.encodeText v.2)

/-- The value of a variable, read leniently. -/
def Environment.text? (env : Environment) : Lookup := fun name =>
  (List.lookup name env).map Text.decodeLossy

/-- Whether this system has a proxy dictionary and tunnels to be asked. -/
def systemSupported : Bool := false

/-- Whether the gate to the system's sources is open. -/
def systemGate (d : Detection) : Bool :=
  d.systemQuery && systemSupported

/-- Looks for a proxy, with the gate that the settings leave open. -/
def detect (d : Detection) (s : Sources) : Outcome :=
  resolve s (systemGate d)

/-- Looks for a proxy in the environment of a process. -/
def detectIn (d : Detection) (env : Environment) : Outcome :=
  detect d ⟨env.text?, none, none⟩

/-! ## Small facts -/

theorem systemGate_eq_false (d : Detection) : systemGate d = false := by
  simp [systemGate, systemSupported]

/-- Here only the environment is asked. -/
theorem detect_asks_nothing_else (d : Detection) (s : Sources) :
    (detect d s).queried = false ∧ (detect d s).tunnelsRead = false := by
  unfold detect resolve
  rw [systemGate_eq_false]
  simp only
  split <;> exact ⟨rfl, rfl⟩

end LinkWatch.Proxy
