import Karpenter.Go.Map
import Karpenter.Scheduling.Requirement

/-! Requirements made from integer bounds. A strict bound is stored as an inclusive one next to it, which the
constructor guards for the largest integer only: Gt of it gives up the minimum, and Lt of the smallest integer wraps
around to the largest. -/
namespace Karpenter.Scheduling

open Karpenter.Go

/-- An expression that compares a label with a 64-bit integer. -/
structure IntegerBound where
  operator : NodeSelectorOperator
  minValues : Option Int := none
  text : String
  bound : Int
  reads : integer? text = some bound
  compares : operator = .opGt ∨ operator = .opLt ∨ operator = .opGte ∨ operator = .opLte

namespace IntegerBound

def holds (b : IntegerBound) (n : Int) : Prop :=
  match b.operator with
  | .opGt => b.bound < n
  | .opLt => n < b.bound
  | .opGte => b.bound ≤ n
  | _ => n ≤ b.bound

/-- What the operator says of a text. -/
def admits (b : IntegerBound) (value : String) : Prop := ∃ n, integer? value = some n ∧ b.holds n

def requirement (key : String) (b : IntegerBound) : Requirement :=
  newRequirementWithFlexibility key b.operator b.minValues [b.text]

/-- The intersection of the requirements of some bounds. -/
def meet (key : String) (first : IntegerBound) (rest : List IntegerBound) : Requirement :=
  rest.foldl (fun r b => r.intersection (b.requirement key)) (first.requirement key)

def belowSmallest (b : IntegerBound) : Prop := b.operator = .opLt ∧ b.bound = minInt

def aboveLargest (b : IntegerBound) : Prop := b.operator = .opGt ∧ b.bound = maxInt

section

variable (key : String) (b : IntegerBound)

theorem requirement_spec : (∀ value, (b.requirement key).has value = true ↔
      ∃ n, integer? value = some n ∧ (b.holds n ∨ b.belowSmallest)) ∧
    ((b.requirement key).minValues = b.minValues ↔ (b.aboveLargest → b.minValues = none)) := by
  have parsed : (atoi b.text).1 = b.bound := by rw [integer?_eq_some.mp b.reads]
  have range := integer?_range b.reads
  rcases b.compares with kind | kind | kind | kind
  · rcases newRequirement_gt key b.minValues [b.text] with ⟨largest, shape⟩ | ⟨_, smaller, shape⟩
    · rw [List.headD_cons, parsed] at largest
      rw [requirement, kind, shape]
      constructor
      · intro value
        rw [Requirement.has_concrete _ rfl]
        refine iff_of_false (Finset.notMem_empty value) ?_
        rintro ⟨n, read, above | ⟨lt, -⟩⟩
        · rw [holds, kind, largest] at above
          exact absurd (integer?_range read).2 (not_le.mpr above)
        · rw [kind] at lt
          cases lt
      · simp [newConcrete, aboveLargest, kind, largest, eq_comm]
    · rw [List.headD_cons, parsed] at smaller
      rw [requirement, kind, shape]
      refine ⟨fun value => ?_, by simp [newGte, newUnbounded, aboveLargest, smaller]⟩
      simp only [Requirement.has_newGte, holds, belowSmallest, kind, Int.add_one_le_iff]
      simp [parsed]
  · rw [requirement, kind]
    refine ⟨fun value => ?_, by simp [newRequirementWithFlexibility, newLte, newUnbounded, aboveLargest, kind]⟩
    simp only [newRequirementWithFlexibility, List.map_cons, normalizeValue_eq, List.headD_cons, parsed,
      Requirement.has_newLte, holds, belowSmallest, kind, true_and]
    refine exists_congr fun n => and_congr_right fun read => ?_
    by_cases least : b.bound = minInt
    · have wrapped : wrap (b.bound - 1) = maxInt := by rw [least]; decide
      exact iff_of_true (wrapped ▸ (integer?_range read).2) (.inr least)
    · rw [wrap_of_range (by omega) (by omega), Int.le_sub_one_iff]
      simp [least]
  · rw [requirement, kind]
    refine ⟨fun value => ?_, by simp [newRequirementWithFlexibility, newGte, newUnbounded, aboveLargest, kind]⟩
    simp [newRequirementWithFlexibility, Requirement.has_newGte, holds, belowSmallest, kind, parsed]
  · rw [requirement, kind]
    refine ⟨fun value => ?_, by simp [newRequirementWithFlexibility, newLte, newUnbounded, aboveLargest, kind]⟩
    simp [newRequirementWithFlexibility, Requirement.has_newLte, holds, belowSmallest, kind, parsed]

theorem has_meet (first : IntegerBound) (rest : List IntegerBound) (value : String) :
    (meet key first rest).has value = true ↔ ∀ b ∈ first :: rest, (b.requirement key).has value = true := by
  rw [List.forall_mem_cons]
  exact foldl_iff (P := fun r : Requirement => r.has value = true) (fun r b => r.has_intersection (b.requirement key) value)
    rest _

end

/-- The requirements of the bounds keep their minimums, and their intersection admits a text exactly if all bounds
do. -/
def Exact (key : String) (first : IntegerBound) (rest : List IntegerBound) : Prop :=
  (∀ b ∈ first :: rest, (b.requirement key).minValues = b.minValues) ∧
    ∀ value, (meet key first rest).has value = true ↔ ∀ b ∈ first :: rest, b.admits value

/-- Integer bounds mean what they say exactly if none is Gt of the largest integer with a minimum, and none is Lt of
the smallest unless the others leave no integer. -/
theorem exact_iff (key : String) (first : IntegerBound) (rest : List IntegerBound) : Exact key first rest ↔
    (∀ b ∈ first :: rest, b.aboveLargest → b.minValues = none) ∧
      ((∃ b ∈ first :: rest, b.belowSmallest) → ∀ n, minInt ≤ n → n ≤ maxInt →
        ∃ b ∈ first :: rest, ¬ b.belowSmallest ∧ ¬ b.holds n) := by
  have minimums : (∀ b ∈ first :: rest, (b.requirement key).minValues = b.minValues) ↔
      ∀ b ∈ first :: rest, b.aboveLargest → b.minValues = none :=
    forall₂_congr fun b _ => (requirement_spec key b).2
  rw [Exact, minimums]
  refine and_congr_right fun _ => ?_
  constructor
  · rintro exact_ ⟨low, member, lt, smallest⟩ n above below
    by_contra remains
    push Not at remains
    have read := integer?_formatInt above below
    obtain ⟨n', read', less⟩ := (exact_ (formatInt n)).mp ((has_meet key first rest _).mpr fun b listed =>
      ((requirement_spec key b).1 _).mpr ⟨n, read, (Classical.em b.belowSmallest).symm.imp_left (remains b listed)⟩)
      low member
    rw [holds, lt, smallest] at less
    exact absurd (integer?_range read').1 (not_le.mpr less)
  · intro excluded value
    rw [has_meet]
    constructor
    · intro inside
      have all : ∀ b ∈ first :: rest, ¬ b.belowSmallest := by
        intro low member smallest
        obtain ⟨n, read, -⟩ := ((requirement_spec key low).1 value).mp (inside low member)
        obtain ⟨above, below⟩ := integer?_range read
        obtain ⟨b, listed, other, fails⟩ := excluded ⟨low, member, smallest⟩ n above below
        obtain ⟨n', read', satisfied⟩ := ((requirement_spec key b).1 value).mp (inside b listed)
        rw [read] at read'
        cases read'
        exact fails (satisfied.resolve_right other)
      intro b listed
      obtain ⟨n, read, satisfied⟩ := ((requirement_spec key b).1 value).mp (inside b listed)
      exact ⟨n, read, satisfied.resolve_right (all b listed)⟩
    · intro admitted b listed
      obtain ⟨n, read, satisfied⟩ := admitted b listed
      exact ((requirement_spec key b).1 value).mpr ⟨n, read, .inl satisfied⟩

def lessThanSmallest : IntegerBound where
  operator := .opLt
  text := "-9223372036854775808"
  bound := minInt
  reads := by decide +kernel
  compares := .inr (.inl rfl)

/-- Nothing is below the smallest integer, but the requirement admits all of them. -/
theorem lessThanSmallest_admits : ¬ Exact "generation" lessThanSmallest [] := by
  rintro ⟨-, exact_⟩
  obtain ⟨n, read, less⟩ := (exact_ "5").mp (by decide +kernel) _ List.mem_cons_self
  exact absurd (integer?_range read).1 (not_le.mpr less)

end IntegerBound

end Karpenter.Scheduling
