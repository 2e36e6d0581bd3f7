import UrlHandoff.Locale
import UrlHandoff.Text.Octets

namespace UrlHandoff

/-- The variables of a process. Where a name occurs twice, the first entry counts. -/
structure Environment where
  bindings : List (String × Octets) := []
  deriving DecidableEq, Repr

namespace Environment

def get? (env : Environment) (name : String) : Option Octets := env.bindings.lookup name

/-- A variable that is not text counts as not set. -/
def text? (env : Environment) : Locale.Lookup := fun name => (env.get? name).bind Octets.text?

def isFilled (env : Environment) (name : String) : Bool := ((env.get? name).getD []) != []

def unset (env : Environment) (name : String) : Environment :=
  ⟨env.bindings.filter fun entry => entry.1 != name⟩

def set (env : Environment) (name : String) (value : Octets) : Environment :=
  ⟨(name, value) :: (env.unset name).bindings⟩

theorem text?_eq_some_iff {env : Environment} {name value : String} :
    env.text? name = some value ↔ env.get? name = some (Octets.ofText value) := by
  simp only [text?, Option.bind_eq_some_iff, Octets.text?_eq_some_iff]
  constructor
  · rintro ⟨octets, h, rfl⟩
    exact h
  · intro h
    exact ⟨_, h, rfl⟩

end Environment

end UrlHandoff
