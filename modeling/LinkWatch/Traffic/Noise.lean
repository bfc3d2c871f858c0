import LinkWatch.Text.Blank
import LinkWatch.Text.LowerCase

/-!
# Interfaces that are noise

Loopback, mesh, tunnel and other virtual interfaces carry traffic that nobody wants to see. They
are known by the start of their names, whatever the letter case.
-/

namespace LinkWatch.Traffic

open LinkWatch.Text

/-- The starts of names that are always noise. -/
def noisePrefixes : List String :=
  ["lo", "awdl", "utun", "llw", "bridge", "gif", "stf", "xhc", "anpi", "ap"]

/-- Whether a name is noise without any configuration. -/
def isNoise (name : String) : Bool :=
  noisePrefixes.any fun start => lowerStartsWith name start.toList

/-- The noise names, extended by further starts, which are kept in lower case. -/
structure NoiseFilter where
  extra : List (List Char)
  deriving DecidableEq, Repr

/-- The filter without extra starts. -/
def NoiseFilter.builtin : NoiseFilter :=
  ⟨[]⟩

/-- The filter with configured starts: trimmed, in lower case, and without the blank ones. -/
def NoiseFilter.ofList (extra : List String) : NoiseFilter :=
  ⟨(extra.map fun p => lowerCase (trim p.toList)).filter (· ≠ [])⟩

/-- Whether the filter counts a name as noise. -/
def NoiseFilter.isNoise (f : NoiseFilter) (name : String) : Bool :=
  Traffic.isNoise name || f.extra.any fun start => lowerStartsWith name start

/-! ## Small facts -/

/-- A filter counts at least the built-in names. -/
theorem isNoise_of_builtin (f : NoiseFilter) {name : String} (h : isNoise name = true) :
    f.isNoise name = true := by
  simp [NoiseFilter.isNoise, h]

end LinkWatch.Traffic
