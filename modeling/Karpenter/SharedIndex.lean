import Mathlib.Logic.Function.Basic

/-! Records found through names. A record holds parts of several kinds, and for each kind an index leads from
names to the record that holds the part of that name. Nothing keeps two names from leading to the same record:
the part they share is then lost to both when one of them is detached. -/
namespace Karpenter

structure SharedIndex (κ : Type*) (ν : Type*) (ι : Type*) where
  index : κ → ν → Option ι
  holds : ι → κ → Prop

namespace SharedIndex

variable {κ ν ι : Type*} (r : SharedIndex κ ν ι)

@[ext] theorem ext {r s : SharedIndex κ ν ι} (index : ∀ kind name, r.index kind name = s.index kind name)
    (holds : ∀ id kind, r.holds id kind ↔ s.holds id kind) : r = s := by
  obtain ⟨rIndex, rHolds⟩ := r
  obtain ⟨sIndex, sHolds⟩ := s
  obtain rfl : rIndex = sIndex := funext fun kind => funext fun name => index kind name
  obtain rfl : rHolds = sHolds := funext fun id => funext fun kind => propext (holds id kind)
  rfl

/-- Every name leads to a record that holds its part. -/
def Consistent : Prop := ∀ kind name id, r.index kind name = some id → r.holds id kind

/-- No other name leads to where this one leads. -/
def Unshared (kind : κ) (name : ν) : Prop :=
  ∀ other id, r.index kind name = some id → r.index kind other = some id → other = name

variable [DecidableEq κ] [DecidableEq ν]

/-- The name is no longer known, and the record keeps its part. -/
def forget (kind : κ) (name : ν) : SharedIndex κ ν ι where
  index k n := if k = kind ∧ n = name then none else r.index k n
  holds := r.holds

/-- The name is no longer known, and the record it led to has lost the part. -/
def detach (kind : κ) (name : ν) : SharedIndex κ ν ι where
  index := (r.forget kind name).index
  holds id k := r.holds id k ∧ ¬ (k = kind ∧ r.index kind name = some id)

/-- The name leads to a record that now holds its part. -/
def attach (kind : κ) (name : ν) (id : ι) : SharedIndex κ ν ι where
  index k n := if k = kind ∧ n = name then some id else r.index k n
  holds i k := i = id ∧ k = kind ∨ r.holds i k

variable {r} {kind : κ} {name : ν} {id : ι}

theorem Consistent.forget (consistent : r.Consistent) : (r.forget kind name).Consistent := by
  intro k n i found
  exact consistent k n i (Option.ite_none_left_eq_some.mp found).2

theorem Consistent.attach (consistent : r.Consistent) : (r.attach kind name id).Consistent := by
  intro k n i found
  simp only [SharedIndex.attach] at found
  split at found
  · rename_i same
    cases found
    exact .inl ⟨rfl, same.1⟩
  · exact .inr (consistent k n i found)

/-- Detaching a name leaves the others leading somewhere exactly when none of them led to the same record. -/
theorem Consistent.detach_iff (consistent : r.Consistent) : (r.detach kind name).Consistent ↔ r.Unshared kind name := by
  constructor
  · intro after other id own shared
    by_contra different
    have kept : (r.detach kind name).index kind other = some id :=
      (if_neg fun same => different same.2).trans shared
    exact (after kind other id kept).2 ⟨rfl, own⟩
  · intro unshared k n i found
    obtain ⟨different, led⟩ := Option.ite_none_left_eq_some.mp found
    refine ⟨consistent k n i led, ?_⟩
    rintro ⟨rfl, own⟩
    exact different ⟨rfl, unshared n i own led⟩

/-- Attaching the name elsewhere afterwards does not help the names it has left behind. -/
theorem Consistent.move_iff (consistent : r.Consistent) (moved : r.index kind name ≠ some id) :
    ((r.detach kind name).attach kind name id).Consistent ↔ r.Unshared kind name := by
  rw [← consistent.detach_iff]
  refine ⟨fun after k n i found => ?_, Consistent.attach⟩
  have different := (Option.ite_none_left_eq_some.mp found).1
  have kept : ((r.detach kind name).attach kind name id).index k n = some i := (if_neg different).trans found
  rcases after k n i kept with ⟨rfl, rfl⟩ | held
  · refine ⟨consistent k n i (Option.ite_none_left_eq_some.mp found).2, ?_⟩
    rintro ⟨-, own⟩
    exact moved own
  · exact held

end SharedIndex

end Karpenter
