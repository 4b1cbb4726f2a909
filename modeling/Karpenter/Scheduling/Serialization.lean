import Karpenter.Scheduling.NodeSelector
import Mathlib.Data.String.Basic

/-! Requirements written into a NodeClaim spec and read back. A requirement becomes one expression,
or two when it has both bounds; the expressions of one key are intersected again when they are read.
The spec lists them in whatever order the map is ranged over. -/
namespace Karpenter.Scheduling

open Karpenter.Go

structure NodeSelectorRequirementWithMinValues extends NodeSelectorRequirement where
  minValues : Option Int
  deriving DecidableEq, Repr

namespace Requirement

variable (r : Requirement)

/-- One expression over the key of the requirement. -/
def expression (operator : NodeSelectorOperator) (values : List String) : NodeSelectorRequirementWithMinValues where
  key := r.key
  operator := operator
  values := values
  minValues := r.minValues

def boundedNodeSelectorRequirements (gte lte : Int) : List NodeSelectorRequirementWithMinValues :=
  [r.expression .opGte [formatInt gte], r.expression .opLte [formatInt lte]]

def nodeSelectorRequirement : NodeSelectorRequirementWithMinValues :=
  match r.gte, r.lte with
  | some gte, _ => r.expression .opGte [formatInt gte]
  | none, some lte => r.expression .opLte [formatInt lte]
  | none, none =>
    if r.complement then
      if 0 < r.values.card then r.expression .opNotIn (Go.sorted r.values) else r.expression .opExists []
    else
      if 0 < r.values.card then r.expression .opIn (Go.sorted r.values) else r.expression .opDoesNotExist []

/-- What the loop over the requirements appends for one of them. -/
def nodeSelectorRequirements : List NodeSelectorRequirementWithMinValues :=
  match r.gte, r.lte with
  | some gte, some lte => r.boundedNodeSelectorRequirements gte lte
  | _, _ => [r.nodeSelectorRequirement]

end Requirement

namespace Requirements

def nodeSelectorRequirements (order : RangeOrder String) (r : Requirements) :
    List NodeSelectorRequirementWithMinValues :=
  (order.visit r.keys.toFinset).flatMap fun key => (r.get key).nodeSelectorRequirements

def newNodeSelectorRequirementsWithMinValues (requirements : List NodeSelectorRequirementWithMinValues) :
    Requirements :=
  newRequirements (requirements.map fun requirement =>
    newRequirementWithFlexibility requirement.key requirement.operator requirement.minValues requirement.values)

end Requirements

namespace NodeSelectorRequirementWithMinValues

/-- The requirement that is constructed from an expression. -/
def read (e : NodeSelectorRequirementWithMinValues) : Requirement :=
  newRequirementWithFlexibility e.key e.operator e.minValues e.values

theorem key_read (e : NodeSelectorRequirementWithMinValues) : e.read.key = normalizeKey e.key :=
  NodeSelectorRequirement.key_newRequirement e.key e.operator e.minValues e.values

end NodeSelectorRequirementWithMinValues

namespace Requirement

open NodeSelectorRequirementWithMinValues

/-- The requirement without the values it excludes. -/
def unexcluded (r : Requirement) : Requirement :=
  { r with values := ∅, bounded := by simp }

/-- What is left of a requirement in its expressions: an excluded value is written only when there
is no bound. -/
def serialized (r : Requirement) : Requirement :=
  if r.gte.isSome || r.lte.isSome then r.unexcluded else r

theorem atoi_formatInt (low : minInt ≤ bound) (high : bound ≤ maxInt) : (atoi (formatInt bound)).1 = bound := by
  rw [integer?_eq_some.mp (integer?_formatInt low high)]

theorem complement_of_bound (r : Requirement) (bound : r.gte = some n ∨ r.lte = some n) : r.complement = true := by
  by_contra concrete
  obtain ⟨low, high⟩ := r.concrete (by simpa using concrete)
  rw [low, high] at bound
  simp at bound

section Reread

variable (r : Requirement)

theorem read_opGte (range : minInt ≤ bound ∧ bound ≤ maxInt) :
    (r.expression .opGte [formatInt bound]).read = newGte r.key r.minValues bound range :=
  Requirement.ext rfl rfl rfl (congrArg some (atoi_formatInt range.1 range.2)) rfl rfl

theorem read_opLte (range : minInt ≤ bound ∧ bound ≤ maxInt) :
    (r.expression .opLte [formatInt bound]).read = newLte r.key r.minValues bound range :=
  Requirement.ext rfl rfl rfl rfl (congrArg some (atoi_formatInt range.1 range.2)) rfl

theorem read_gte (low : r.gte = some bound) (high : r.lte = none) :
    (r.expression .opGte [formatInt bound]).read = r.serialized := by
  have written : r.serialized = r.unexcluded := by rw [serialized, low]; rfl
  rw [written, r.read_opGte (r.ranged bound (.inl low))]
  exact Requirement.ext r.normalized (r.complement_of_bound (.inl low)).symm rfl low.symm high.symm rfl

theorem read_lte (low : r.gte = none) (high : r.lte = some bound) :
    (r.expression .opLte [formatInt bound]).read = r.serialized := by
  have written : r.serialized = r.unexcluded := by rw [serialized, low, high]; rfl
  rw [written, r.read_opLte (r.ranged bound (.inr high))]
  exact Requirement.ext r.normalized (r.complement_of_bound (.inr high)).symm rfl low.symm high.symm rfl

theorem toFinset_written : ((Go.sorted r.values).map (normalizeValue (normalizeKey r.key))).toFinset = r.values := by
  have same : (Go.sorted r.values).map (normalizeValue (normalizeKey r.key)) = Go.sorted r.values := List.map_id' _
  rw [same, Go.toFinset_sorted]

/-- Without bounds the expression says everything about the requirement. -/
theorem read_unbounded (low : r.gte = none) (high : r.lte = none) : r.nodeSelectorRequirement.read = r.serialized := by
  have written : r.serialized = r := by rw [serialized, low, high]; rfl
  have empty : ¬ 0 < r.values.card → r.values = ∅ := by simp
  rw [written]
  simp only [nodeSelectorRequirement, low, high]
  cases kind : r.complement with
  | true =>
    by_cases listed : 0 < r.values.card
    · rw [if_pos rfl, if_pos listed]
      exact Requirement.ext r.normalized kind.symm r.toFinset_written low.symm high.symm rfl
    · rw [if_pos rfl, if_neg listed]
      exact Requirement.ext r.normalized kind.symm (empty listed).symm low.symm high.symm rfl
  | false =>
    by_cases listed : 0 < r.values.card
    · rw [if_neg Bool.false_ne_true, if_pos listed]
      exact Requirement.ext r.normalized kind.symm r.toFinset_written low.symm high.symm rfl
    · rw [if_neg Bool.false_ne_true, if_neg listed]
      exact Requirement.ext r.normalized kind.symm (empty listed).symm low.symm high.symm rfl

theorem intersection_bounds {gte lte : Int} (low : r.gte = some gte) (high : r.lte = some lte) :
    (r.expression .opLte [formatInt lte]).read.intersection (r.expression .opGte [formatInt gte]).read =
      r.serialized := by
  have written : r.serialized = r.unexcluded := by rw [serialized, low]; rfl
  have uncrossed := r.ordered
  rw [low, high] at uncrossed
  have upper := r.ranged lte (.inr high)
  have lower := r.ranged gte (.inl low)
  have kind : ((newLte r.key r.minValues lte upper).intersection (newGte r.key r.minValues gte lower)).complement =
    true := (complement_intersection _ _).mpr ⟨⟨rfl, rfl⟩, uncrossed⟩
  rw [written, r.read_opLte upper, r.read_opGte lower]
  apply Requirement.ext
  · rw [key_intersection]
    exact r.normalized
  · rw [kind]
    exact (r.complement_of_bound (.inl low)).symm
  · rw [values_intersection kind]
    rfl
  · rw [gte_intersection kind]
    exact low.symm
  · rw [lte_intersection kind]
    exact high.symm
  · rw [minValues_intersection]
    exact maxIntPtr_self r.minValues

/-- Reading the expressions of one requirement back gives the requirement up to its exclusions. -/
theorem mergeFrom_read :
    Requirements.mergeFrom none (r.nodeSelectorRequirements.map (·.read)) =
      some r.serialized := by
  cases low : r.gte with
  | none =>
    cases high : r.lte with
    | none =>
      simp only [nodeSelectorRequirements, low, high]
      exact congrArg some (r.read_unbounded low high)
    | some lte =>
      simp only [nodeSelectorRequirements, nodeSelectorRequirement, low, high]
      exact congrArg some (r.read_lte low high)
  | some gte =>
    cases high : r.lte with
    | none =>
      simp only [nodeSelectorRequirements, nodeSelectorRequirement, low, high]
      exact congrArg some (r.read_gte low high)
    | some lte =>
      simp only [nodeSelectorRequirements, low, high]
      exact congrArg some (r.intersection_bounds low high)

theorem key_read_of_mem {e : NodeSelectorRequirementWithMinValues} (member : e ∈ r.nodeSelectorRequirements) :
    e.read.key = r.key := by
  have same : e.key = r.key := by
    revert member
    unfold nodeSelectorRequirements nodeSelectorRequirement boundedNodeSelectorRequirements
    rcases r.gte with - | gte <;> rcases r.lte with - | lte <;> dsimp only
    · split <;> split <;> simp +contextual [expression]
    · simp +contextual [expression]
    · simp +contextual [expression]
    · rintro (- | ⟨_, - | ⟨_, ⟨⟩⟩⟩) <;> rfl
  rw [key_read, same, r.normalized]

theorem serialized_minValues : r.serialized.minValues = r.minValues := by
  unfold serialized
  split <;> rfl

/-- Only a requirement with a bound and an excluded value loses something: every stored exclusion
lies within the bounds, so it is admitted once it is dropped. -/
theorem has_serialized_iff : (∀ value, r.serialized.has value = r.has value) ↔
    r.values = ∅ ∨ (r.gte = none ∧ r.lte = none) := by
  by_cases open_ : r.gte = none ∧ r.lte = none
  · have written : r.serialized = r := by rw [serialized, open_.1, open_.2]; rfl
    rw [written]
    exact ⟨fun _ => .inr open_, fun _ _ => rfl⟩
  · have bound : (r.gte.isSome || r.lte.isSome) = true := by
      rw [Bool.or_eq_true, Option.isSome_iff_ne_none, Option.isSome_iff_ne_none, ← not_and_or]
      exact open_
    have kind : r.complement = true := by
      by_contra concrete
      exact open_ (r.concrete (by simpa using concrete))
    have written : r.serialized = r.unexcluded := if_pos bound
    rw [written]
    constructor
    · intro same
      left
      rw [Finset.eq_empty_iff_forall_notMem]
      intro value excluded
      have admitted : r.unexcluded.has value = true :=
        (has_complement r.unexcluded kind value).mpr ⟨Finset.notMem_empty value, r.bounded value excluded⟩
      rw [same, has_complement r kind] at admitted
      exact admitted.1 excluded
    · rintro (empty | closed) value
      · rw [Bool.eq_iff_iff, has_complement r.unexcluded kind, has_complement r kind, empty]
        rfl
      · exact absurd closed open_

end Reread

end Requirement

namespace Requirements

/-- Ranging over distinct keys, the expressions of one key stand together. -/
theorem filter_read (r : Requirements) (key : String) (visited : List String) (distinct : visited.Nodup)
    (stored : ∀ visit ∈ visited, ∃ requirement, r.get? visit = some requirement) :
    ((visited.flatMap fun visit => (r.get visit).nodeSelectorRequirements).map (·.read)).filter (·.key = key) =
      if key ∈ visited then (r.get key).nodeSelectorRequirements.map (·.read) else [] := by
  induction visited with
  | nil => rfl
  | cons visit rest ih =>
    obtain ⟨fresh, distinct⟩ := List.nodup_cons.mp distinct
    obtain ⟨found, stored⟩ := List.forall_mem_cons.mp stored
    obtain ⟨requirement, found⟩ := found
    have keyed : (r.get visit).key = visit := by
      rw [get_of_get? r found]
      exact get?_keyed r found
    have keys : ∀ q ∈ (r.get visit).nodeSelectorRequirements.map (·.read),
        q.key = visit := by
      intro q member
      obtain ⟨e, written, rfl⟩ := List.mem_map.mp member
      rw [(r.get visit).key_read_of_mem written, keyed]
    rw [List.flatMap_cons, List.map_append, List.filter_append, ih distinct stored]
    by_cases same : key = visit
    · subst same
      rw [if_neg fresh, if_pos List.mem_cons_self, List.append_nil, List.filter_eq_self]
      simpa using keys
    · have none_kept : ((r.get visit).nodeSelectorRequirements.map (·.read)).filter (·.key = key) = [] := by
        rw [List.filter_eq_nil_iff]
        intro q member
        rw [keys q member]
        simpa using Ne.symm same
      rw [none_kept, List.nil_append]
      simp only [List.mem_cons, same, false_or]

theorem get?_reread (order : RangeOrder String) (r : Requirements) (key : String) :
    (newNodeSelectorRequirementsWithMinValues (r.nodeSelectorRequirements order)).get? key =
      (r.get? key).map Requirement.serialized := by
  have visited : ∀ visit, visit ∈ order.visit r.keys.toFinset ↔ (r.get? visit).isSome = true := by
    intro visit
    rw [order.mem_visit, List.mem_toFinset, mem_keys]
  have parts := filter_read r key _ (order.nodup_visit r.keys.toFinset)
    fun visit member => Option.isSome_iff_exists.mp ((visited visit).mp member)
  have computed : (newNodeSelectorRequirementsWithMinValues (r.nodeSelectorRequirements order)).get? key =
      mergeFrom none _ := (get?_newRequirements _ key).trans (congrArg (mergeFrom none) parts)
  rw [computed]
  cases found : r.get? key with
  | none =>
    have unvisited : key ∉ order.visit r.keys.toFinset := by
      rw [visited, found]
      exact Bool.false_ne_true
    rw [if_neg unvisited]
    rfl
  | some requirement =>
    have member : key ∈ order.visit r.keys.toFinset := by
      rw [visited, found]
      rfl
    rw [if_pos member, get_of_get? r found]
    exact requirement.mergeFrom_read

/-- One map says the same as another: the same keys, and under each of them the same admitted
values and the same demand for distinct values. -/
structure SameAs (reread r : Requirements) : Prop where
  keys : ∀ key, reread.has key = r.has key
  admits : ∀ key, r.has key = true → ∀ value, (reread.get key).has value = (r.get key).has value
  minValues : ∀ key, r.has key = true → (reread.get key).minValues = (r.get key).minValues

/-- A NodeClaim spec keeps the requirements it was written from exactly when none of them has both
a bound and an excluded value. -/
theorem reread_sameAs_iff (order : RangeOrder String) (r : Requirements) :
    (newNodeSelectorRequirementsWithMinValues (r.nodeSelectorRequirements order)).SameAs r ↔
      ∀ key requirement, r.get? key = some requirement →
        requirement.values = ∅ ∨ (requirement.gte = none ∧ requirement.lte = none) := by
  have reread := get?_reread order r
  have got : ∀ key requirement, r.get? key = some requirement →
      (newNodeSelectorRequirementsWithMinValues (r.nodeSelectorRequirements order)).get key =
        requirement.serialized := by
    intro key requirement found
    apply get_of_get?
    rw [reread, found]
    rfl
  constructor
  · intro same key requirement found
    rw [← requirement.has_serialized_iff]
    intro value
    have stored : r.has key = true := by rw [has, found]; rfl
    have admits := same.admits key stored value
    rwa [got key requirement found, get_of_get? r found] at admits
  · intro kept
    constructor
    · intro key
      rw [has, reread, Option.isSome_map]
      rfl
    · intro key stored
      obtain ⟨requirement, found⟩ := Option.isSome_iff_exists.mp stored
      rw [got key requirement found, get_of_get? r found]
      exact requirement.has_serialized_iff.mpr (kept key requirement found)
    · intro key stored
      obtain ⟨requirement, found⟩ := Option.isSome_iff_exists.mp stored
      rw [got key requirement found, get_of_get? r found]
      exact requirement.serialized_minValues

/-- Generations above 1 except 5: the written spec admits 5 again. -/
theorem reread_sameAs_excluded : ¬ (newNodeSelectorRequirementsWithMinValues
        ((newRequirements [newRequirement "generation" .opGt ["1"],
          newRequirement "generation" .opNotIn ["5"]]).nodeSelectorRequirements (.listed []))).SameAs
      (newRequirements [newRequirement "generation" .opGt ["1"], newRequirement "generation" .opNotIn ["5"]]) := by
  intro same
  have admits := same.admits "generation" (by decide +kernel) "5"
  exact absurd admits (by decide +kernel)

end Requirements

end Karpenter.Scheduling
