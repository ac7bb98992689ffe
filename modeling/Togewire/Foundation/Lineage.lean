import Mathlib.Data.List.Basic
import Mathlib.Tactic.TypeStar

/-!
# Versions of a value

A value is replaced by one version after another.  Some versions come from outside, and others are
derived from what their writer had read.  The versions are a chain when every derived one has
replaced just that.
-/

namespace Lineage

variable {α : Type*}

/-- A version of a value, and what its writer had read unless it came from outside. -/
structure Version (α : Type*) where
  base : Option α
  value : α

/-- The value of the last version, which stands first. -/
def latest (origin : α) : List (Version α) → α
  | [] => origin
  | version :: _ => version.value

/-- Every derived version has replaced what it was derived from. -/
def Chained (origin : α) : List (Version α) → Prop
  | [] => True
  | version :: older =>
      (∀ base, version.base = some base → latest origin older = base) ∧ Chained origin older

variable {origin : α} {versions newer older : List (Version α)} {version : Version α}

theorem Chained.extend (chained : Chained origin versions)
    (replaces : ∀ base, version.base = some base → latest origin versions = base) :
    Chained origin (version :: versions) :=
  ⟨replaces, chained⟩

/-- No version stands over another one than that it was derived from. -/
theorem Chained.latest_eq (chained : Chained origin (newer ++ version :: older)) {base : α}
    (derived : version.base = some base) : latest origin older = base := by
  induction newer with
  | nil => exact chained.1 base derived
  | cons next newer ih => exact ih chained.2

end Lineage
