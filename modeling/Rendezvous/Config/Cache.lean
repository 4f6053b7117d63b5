/-
  A cache that remembers the values used last, as lookups in the parameter store do
  (`get_ssm_parameter`).

  The entries are in order of use, the latest first; beyond the capacity the
  entry whose use lies back farthest is forgotten.  A hit is a use.
-/

namespace Rendezvous

/-- Remembered values by key, the one used last first. -/
structure Cache (κ ν : Type) where
  capacity : Nat
  entries : List (κ × ν)

namespace Cache

variable {κ ν : Type} [DecidableEq κ]

/-- The value remembered for a key. -/
def find? (key : κ) (cache : Cache κ ν) : Option ν :=
  (cache.entries.find? fun entry => entry.1 = key).map (·.2)

/-- A cache after a use of a key with its value. -/
def use (key : κ) (value : ν) (cache : Cache κ ν) : Cache κ ν :=
  { cache with
    entries :=
      ((key, value) :: cache.entries.filter fun entry => entry.1 ≠ key).take cache.capacity }

end Cache

end Rendezvous
