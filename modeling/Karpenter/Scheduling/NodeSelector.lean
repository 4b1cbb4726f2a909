import Karpenter.Scheduling.IntegerBounds
import Karpenter.Scheduling.Requirements

/-! Node selector expressions matched against the labels of a concrete node. The Kubernetes meaning
of an expression is stated independently of the requirement representation, and the matching
performed through `Requirements` is compared with it. -/
namespace Karpenter.Scheduling

open Karpenter.Go

abbrev Labels := AList (fun _ : String => String)

namespace NodeSelectorRequirement

variable {e : NodeSelectorRequirement}

/-- Both texts are 64-bit integers and stand in the given relation. -/
def compares (relation : Int → Int → Bool) (value bound : String) : Bool :=
  match integer? value, integer? bound with
  | some n, some m => relation n m
  | _, _ => false

/-- Kubernetes semantics of one expression on the value a node has for its key, if any. -/
def satisfiedBy (e : NodeSelectorRequirement) : Option String → Bool
  | none => e.operator == .opNotIn || e.operator == .opDoesNotExist
  | some value => match e.operator with
    | .opIn => decide (value ∈ e.values)
    | .opNotIn => decide (value ∉ e.values)
    | .opExists => true
    | .opDoesNotExist => false
    | .opGt => e.values.any (compares (fun n bound => n > bound) value)
    | .opLt => e.values.any (compares (fun n bound => n < bound) value)
    | .opGte => e.values.any (compares (fun n bound => n ≥ bound) value)
    | .opLte => e.values.any (compares (fun n bound => n ≤ bound) value)

/-- The expressions the Kubernetes API admits. -/
def admitted (e : NodeSelectorRequirement) : Bool :=
  match e.operator with
  | .opIn | .opNotIn => !e.values.isEmpty
  | .opExists | .opDoesNotExist => true
  | .opGt | .opLt => match e.values with
    | [text] => (integer? text).isSome
    | _ => false
  | .opGte | .opLte => false

def requirement (e : NodeSelectorRequirement) : Requirement :=
  newRequirementWithFlexibility e.key e.operator none e.values

theorem key_newRequirement (key : String) (operator : NodeSelectorOperator) (minValues : Option Int)
    (values : List String) : (newRequirementWithFlexibility key operator minValues values).key = normalizeKey key := by
  cases operator <;> simp only [newRequirementWithFlexibility, newConcrete, newUnbounded, newGte, newLte]
  split <;> rfl

theorem key_requirement (unaliased : normalizedLabels.lookup e.key = none) : e.requirement.key = e.key := by
  rw [requirement, key_newRequirement, normalizeKey_of_unaliased unaliased]

theorem integer_bound (admitted : admitted e = true) (bound : e.operator = .opGt ∨ e.operator = .opLt) :
    ∃ text n, e.values = [text] ∧ integer? text = some n := by
  unfold NodeSelectorRequirement.admitted at admitted
  rcases bound with kind | kind <;> rw [kind] at admitted <;> simp only [] at admitted
  all_goals
    split at admitted
    · rename_i text single
      obtain ⟨n, read⟩ := Option.isSome_iff_exists.mp admitted
      exact ⟨text, n, single, read⟩
    · cases admitted

theorem satisfiedBy_gt (kind : e.operator = .opGt) (single : e.values = [text]) (read : integer? text = some bound)
    (value : String) : e.satisfiedBy (some value) = true ↔ ∃ n, integer? value = some n ∧ bound < n := by
  simp only [satisfiedBy, kind, single, List.any_cons, List.any_nil, Bool.or_false, compares, read]
  cases integer? value <;> simp

theorem satisfiedBy_lt (kind : e.operator = .opLt) (single : e.values = [text]) (read : integer? text = some bound)
    (value : String) : e.satisfiedBy (some value) = true ↔ ∃ n, integer? value = some n ∧ n < bound := by
  simp only [satisfiedBy, kind, single, List.any_cons, List.any_nil, Bool.or_false, compares, read]
  cases integer? value <;> simp

/-- Lt of the smallest 64-bit integer. -/
def belowSmallest (e : NodeSelectorRequirement) : Bool :=
  e.operator == .opLt && e.values.any fun text => integer? text == some minInt

theorem belowSmallest_eq_false (other : e.operator ≠ .opLt) : e.belowSmallest = false := by
  simp [belowSmallest, other]

/-- Every expression is represented exactly but Lt of the smallest integer, whose stored bound wraps
around to the largest. -/
theorem has_requirement_iff (admitted : e.admitted = true) (value : String) : e.requirement.has value = true ↔
      e.satisfiedBy (some value) = true ∨ (e.belowSmallest = true ∧ (integer? value).isSome = true) := by
  cases kind : e.operator with
  | opIn => simp [requirement, newRequirementWithFlexibility, newConcrete, Requirement.has, satisfiedBy, belowSmallest, kind]
  | opNotIn => simp [requirement, newRequirementWithFlexibility, newUnbounded, Requirement.has, satisfiedBy, belowSmallest, kind]
  | opExists => simp [requirement, newRequirementWithFlexibility, newUnbounded, Requirement.has, satisfiedBy, kind]
  | opDoesNotExist => simp [requirement, newRequirementWithFlexibility, newConcrete, Requirement.has, satisfiedBy, belowSmallest, kind]
  | opGt =>
    obtain ⟨text, bound, single, read⟩ := integer_bound admitted (.inl kind)
    have spec := (IntegerBound.requirement_spec e.key ⟨.opGt, none, text, bound, read, .inl rfl⟩).1 value
    rw [belowSmallest_eq_false (by simp [kind]), satisfiedBy_gt kind single read, requirement, kind, single]
    simpa [IntegerBound.requirement, IntegerBound.holds, IntegerBound.belowSmallest] using spec
  | opLt =>
    obtain ⟨text, bound, single, read⟩ := integer_bound admitted (.inr kind)
    have spec := (IntegerBound.requirement_spec e.key ⟨.opLt, none, text, bound, read, .inr (.inl rfl)⟩).1 value
    have smallest : e.belowSmallest = true ↔ bound = minInt := by
      simp [belowSmallest, kind, single, read]
    rw [satisfiedBy_lt kind single read, smallest, requirement, kind, single, Option.isSome_iff_exists]
    refine spec.trans ?_
    simp only [IntegerBound.holds, IntegerBound.belowSmallest, true_and]
    grind
  | opGte => simp [NodeSelectorRequirement.admitted, kind] at admitted
  | opLte => simp [NodeSelectorRequirement.admitted, kind] at admitted

/-- A bound that some value satisfies is represented exactly, and so is every other operator. -/
theorem has_requirement (admitted : e.admitted = true)
    (satisfiable : e.operator = .opGt ∨ e.operator = .opLt → ∃ witness, e.satisfiedBy (some witness) = true)
    (value : String) : e.requirement.has value = true ↔ e.satisfiedBy (some value) = true := by
  have bounded : e.belowSmallest = false := by
    by_cases kind : e.operator = .opLt
    · obtain ⟨text, bound, single, read⟩ := integer_bound admitted (.inr kind)
      obtain ⟨witness, satisfied⟩ := satisfiable (.inr kind)
      obtain ⟨n, readWitness, below⟩ := (satisfiedBy_lt kind single read witness).mp satisfied
      have low := (integer?_range readWitness).1
      have larger : bound ≠ minInt := by omega
      simp [belowSmallest, single, read, larger]
    · exact belowSmallest_eq_false kind
  rw [has_requirement_iff admitted, bounded]
  simp

/-- The values a complement stores are those of NotIn, and only Gt and Lt carry bounds; but for In, a requirement that
is not a complement admits nothing. -/
theorem requirement_shape (admitted : e.admitted = true) :
    (e.requirement.complement = true → e.operator ≠ .opIn ∧ e.operator ≠ .opDoesNotExist ∧
      (∀ value, value ∈ e.requirement.values ↔ e.operator = .opNotIn ∧ value ∈ e.values) ∧
      (e.operator ≠ .opGt → e.operator ≠ .opLt → e.requirement.gte = none ∧ e.requirement.lte = none)) ∧
    (e.requirement.complement = false → e.operator ≠ .opIn → ∀ value, e.requirement.has value = false) := by
  cases operator : e.operator with
  | opIn | opDoesNotExist => simp [requirement, newRequirementWithFlexibility, newConcrete, operator, Requirement.has]
  | opNotIn | opExists => simp [requirement, newRequirementWithFlexibility, newUnbounded, operator]
  | opGt =>
    rw [requirement, operator]
    rcases newRequirement_gt e.key none e.values with ⟨-, shape⟩ | ⟨range, -, shape⟩
    · simp [shape, newConcrete, Requirement.has]
    · simp [shape, newGte, newUnbounded]
  | opLt => simp [requirement, newRequirementWithFlexibility, newLte, newUnbounded, operator]
  | opGte | opLte => simp [NodeSelectorRequirement.admitted, operator] at admitted

end NodeSelectorRequirement

namespace Requirements

theorem newNodeSelectorRequirements_eq (selector : List NodeSelectorRequirement) :
    newNodeSelectorRequirements selector =
      newRequirements (selector.map NodeSelectorRequirement.requirement) := rfl

variable (labels : Labels)

/-- The label of a key decides its requirement unless another label is an alias of the key. -/
theorem get?_newLabelRequirements_own (key : String)
    (own : ∀ label ∈ labels.keys, normalizeKey label = key ↔ label = key) : (newLabelRequirements labels).get? key =
      (labels.lookup key).map fun value => newRequirement key .opIn [value] := by
  rw [newLabelRequirements, get?_newRequirements, filter_map_entries key labels.nodupKeys]
  · rw [AList.lookup]
    cases labels.entries.dlookup key <;> rfl
  · intro label member
    rw [newRequirement, NodeSelectorRequirement.key_newRequirement]
    exact own label.1 (List.mem_keys_of_mem member)

theorem get?_newLabelRequirements (unaliased : ∀ key ∈ labels.keys, normalizedLabels.lookup key = none) (key : String) :
    (newLabelRequirements labels).get? key = (labels.lookup key).map fun value => newRequirement key .opIn [value] := by
  apply get?_newLabelRequirements_own
  intro label member
  rw [normalizeKey_of_unaliased (unaliased label member)]

/-- Matching a concrete node decides each selected key separately: a present value must be admitted
by the merged requirement, an undefined key must be acceptable to it. -/
theorem isCompatible_labels (requirements : Requirements)
    (unaliased : ∀ key ∈ labels.keys, normalizedLabels.lookup key = none) :
    (newLabelRequirements labels).isCompatible requirements ∅ = true ↔
      ∀ key merged, requirements.get? key = some merged →
        match labels.lookup key with
        | none => merged.admitsAbsence = true
        | some value => merged.has value = true := by
  rw [isCompatible_iff_admitsKey]
  refine forall₃_congr fun key merged _ => ?_
  rw [get?_newLabelRequirements labels unaliased]
  cases labels.lookup key with
  | none => simp [AdmitsKey]
  | some value =>
    have single := Requirement.single_newRequirement key value
    simp [AdmitsKey, Requirement.hasIntersection_comm _ merged, single.hasIntersection_iff, single.admitsAbsence]

end Requirements

open Requirements
open NodeSelectorRequirement (key_requirement has_requirement requirement_shape)

/-- The condition under which matching is sound. A key with an expression that demands presence needs
a value satisfying all its expressions, and either an In expression or no NotIn value left over by
its Gt and Lt expressions: otherwise the merged requirement reads as NotIn or DoesNotExist, which
accepts a node without the label. -/
def PresenceKept (selector : List NodeSelectorRequirement) : Prop :=
  ∀ e ∈ selector, e.satisfiedBy none = false →
    (∃ value, ∀ other ∈ selector, other.key = e.key → other.satisfiedBy (some value) = true) ∧
    ((∃ other ∈ selector, other.key = e.key ∧ other.operator = .opIn) ∨
      ∀ excluding ∈ selector, excluding.key = e.key → excluding.operator = .opNotIn →
        ∀ value ∈ excluding.values, ∃ bound ∈ selector, bound.key = e.key ∧
          (bound.operator = .opGt ∨ bound.operator = .opLt) ∧ bound.satisfiedBy (some value) = false)

section Selector

variable {selector : List NodeSelectorRequirement} {key value : String} {merged : Requirement}

/-- The requirements of the expressions on a key. -/
def partsOf (selector : List NodeSelectorRequirement) (key : String) : List Requirement :=
  (selector.filter (·.key = key)).map NodeSelectorRequirement.requirement

theorem mem_partsOf : r ∈ partsOf selector key ↔ ∃ e ∈ selector, e.key = key ∧ e.requirement = r := by
  simp [partsOf, and_assoc]

theorem forall_partsOf {P : Requirement → Prop} :
    (∀ r ∈ partsOf selector key, P r) ↔ ∀ e ∈ selector, e.key = key → P e.requirement := by
  simp only [partsOf, List.forall_mem_map, List.mem_filter, decide_eq_true_eq, and_imp]

variable (admitted : ∀ e ∈ selector, e.admitted = true) (unaliased : ∀ e ∈ selector, normalizedLabels.lookup e.key = none)

section

include unaliased

/-- The merged requirement of a key meets the expressions on that key. -/
theorem selector_meets (stored : (newNodeSelectorRequirements selector).get? key = some merged) :
    Meets merged (partsOf selector key) := by
  rw [newNodeSelectorRequirements_eq] at stored
  apply (get?_newRequirements_meets _ key stored).of_perm
  intro r
  simp only [mem_partsOf, List.mem_filter, List.mem_map, decide_eq_true_eq]
  constructor
  · rintro ⟨⟨e, member, rfl⟩, keyed⟩
    exact ⟨e, member, (key_requirement (unaliased e member)).symm.trans keyed, rfl⟩
  · rintro ⟨e, member, keyed, rfl⟩
    exact ⟨⟨e, member, rfl⟩, (key_requirement (unaliased e member)).trans keyed⟩

theorem stored_iff : (∃ merged, (newNodeSelectorRequirements selector).get? key = some merged) ↔
    ∃ e ∈ selector, e.key = key := by
  rw [← Option.ne_none_iff_exists', newNodeSelectorRequirements_eq, ne_eq, get?_newRequirements_eq_none]
  simp only [List.forall_mem_map, not_forall, not_not]
  exact exists_congr fun e => ⟨fun ⟨member, keyed⟩ => ⟨member, key_requirement (unaliased e member) ▸ keyed⟩,
    fun ⟨member, keyed⟩ => ⟨member, (key_requirement (unaliased e member)).trans keyed⟩⟩

end

include admitted unaliased

theorem rejects_absence (member : e ∈ selector) (demanded : e.satisfiedBy none = false) (kept : PresenceKept selector)
    (stored : (newNodeSelectorRequirements selector).get? e.key = some merged) : merged.admitsAbsence = false := by
  have meets := selector_meets unaliased stored
  obtain ⟨⟨value, satisfied⟩, left⟩ := kept e member demanded
  have exactly : ∀ other ∈ selector, other.key = e.key → ∀ candidate,
      other.requirement.has candidate = true ↔ other.satisfiedBy (some candidate) = true := by
    intro other inSelector sameKey
    exact has_requirement (admitted other inSelector)
      fun _ => ⟨value, satisfied other inSelector sameKey⟩
  have witness : merged.has value = true := by
    rw [meets.has_iff, forall_partsOf]
    intro other inSelector sameKey
    exact (exactly other inSelector sameKey value).mpr (satisfied other inSelector sameKey)
  rw [Bool.eq_false_iff, ne_eq, Requirement.admitsAbsence_iff]
  cases kind : merged.complement with
  | false =>
    have listed := (merged.has_concrete kind value).mp witness
    simp [Finset.ne_empty_of_mem listed]
  | true =>
    have shape (other : NodeSelectorRequirement) (inSelector : other ∈ selector) (sameKey : other.key = e.key) :=
      (requirement_shape (admitted other inSelector)).1 (forall_partsOf.mp (meets.complements kind) other inSelector sameKey)
    have empty : merged.values = ∅ := by
      rw [Finset.eq_empty_iff_forall_notMem]
      intro excludedValue listed
      obtain ⟨inside, r, part, fromPart⟩ := (meets.excluded kind excludedValue).mp listed
      obtain ⟨excluding, inSelector, sameKey, rfl⟩ := mem_partsOf.mp part
      obtain ⟨notIn, named⟩ := ((shape excluding inSelector sameKey).2.2.1 excludedValue).mp fromPart
      rcases left with ⟨other, otherIn, otherKey, opIn⟩ | bounds
      · exact (shape other otherIn otherKey).1 opIn
      · obtain ⟨bound, boundIn, boundKey, operator, fails⟩ :=
          bounds excluding inSelector sameKey notIn excludedValue named
        have within := forall_partsOf.mp ((meets.bounds kind excludedValue).mp inside) bound boundIn boundKey
        have admits : bound.requirement.has excludedValue = true := by
          rw [Requirement.has_complement _ (forall_partsOf.mp (meets.complements kind) bound boundIn boundKey)]
          refine ⟨fun listed => ?_, within⟩
          have := (((shape bound boundIn boundKey).2.2.1 excludedValue).mp listed).1
          rcases operator with gt | lt <;> simp_all
        rw [(exactly bound boundIn boundKey excludedValue).mp admits] at fails
        exact absurd fails (by simp)
    simp [empty]

theorem leftover_admits_absence (member : excluding ∈ selector) (notIn : excluding.operator = .opNotIn)
    (stored : (newNodeSelectorRequirements selector).get? excluding.key = some merged)
    (finite : ∀ other ∈ selector, other.key = excluding.key → other.operator ≠ .opIn)
    (listed : value ∈ excluding.values) (leftover : ∀ bound ∈ selector, bound.key = excluding.key →
      bound.operator = .opGt ∨ bound.operator = .opLt → bound.satisfiedBy (some value) = true) :
    merged.admitsAbsence = true := by
  have meets := selector_meets unaliased stored
  rw [Requirement.admitsAbsence_iff]
  cases kind : merged.complement with
  | false =>
    have empty : merged.values = ∅ := by
      rcases meets.finite kind with empty | ⟨r, part, concrete⟩
      · exact empty
      · obtain ⟨other, inSelector, sameKey, rfl⟩ := mem_partsOf.mp part
        have none := (requirement_shape (admitted other inSelector)).2 concrete (finite other inSelector sameKey)
        rw [Finset.eq_empty_iff_forall_notMem]
        intro candidate admittedValue
        have all := (meets.has_iff candidate).mp ((merged.has_concrete kind candidate).mpr admittedValue) _ part
        rw [none candidate] at all
        exact absurd all (by simp)
    simp [empty]
  | true =>
    have shape (other : NodeSelectorRequirement) (inSelector : other ∈ selector) (sameKey : other.key = excluding.key) :=
      (requirement_shape (admitted other inSelector)).1 (forall_partsOf.mp (meets.complements kind) other inSelector sameKey)
    have inside : withinBounds value merged.gte merged.lte = true := by
      rw [meets.bounds kind, forall_partsOf]
      intro other inSelector sameKey
      by_cases bound : other.operator = .opGt ∨ other.operator = .opLt
      · have satisfied := leftover other inSelector sameKey bound
        apply Requirement.has_bounds
        exact (has_requirement (admitted other inSelector)
          (fun _ => ⟨value, satisfied⟩) value).mpr satisfied
      · rw [not_or] at bound
        obtain ⟨low, high⟩ := (shape other inSelector sameKey).2.2.2 bound.1 bound.2
        rw [low, high]
        rfl
    have excluded : value ∈ merged.values := by
      rw [meets.excluded kind]
      refine ⟨inside, excluding.requirement, mem_partsOf.mpr ⟨excluding, member, rfl, rfl⟩, ?_⟩
      exact ((shape excluding member rfl).2.2.1 value).mpr ⟨notIn, listed⟩
    simp [Finset.ne_empty_of_mem excluded]

end Selector

theorem exists_labels (choice : String → Option String) (keys : List String) :
    ∃ labels : Labels, ∀ key, labels.lookup key = if key ∈ keys then choice key else none := by
  induction keys with
  | nil => exact ⟨∅, fun key => by simp⟩
  | cons head rest ih =>
    obtain ⟨labels, chosen⟩ := ih
    cases picked : choice head with
    | none =>
      refine ⟨labels.erase head, fun key => ?_⟩
      by_cases same : key = head
      · subst same
        rw [AList.lookup_erase, if_pos List.mem_cons_self, picked]
      · rw [AList.lookup_erase_ne same, chosen]
        simp [same]
    | some value =>
      refine ⟨labels.insert head value, fun key => ?_⟩
      by_cases same : key = head
      · subst same
        rw [AList.lookup_insert, if_pos List.mem_cons_self, picked]
      · rw [AList.lookup_insert_ne same, chosen]
        simp [same]

/-- Some node is matched that defines exactly the keys whose merged requirement insists on a label. -/
theorem exists_matched (selector : List NodeSelectorRequirement)
    (unaliased : ∀ e ∈ selector, normalizedLabels.lookup e.key = none) :
    ∃ labels : Labels, (∀ key ∈ labels.keys, normalizedLabels.lookup key = none) ∧
      (newLabelRequirements labels).isCompatible (newNodeSelectorRequirements selector) ∅ = true ∧
      ∀ e ∈ selector, ∀ merged, (newNodeSelectorRequirements selector).get? e.key = some merged →
        merged.admitsAbsence = true → labels.lookup e.key = none := by
  have choose : ∀ key, ∃ label : Option String, ∀ merged,
      (newNodeSelectorRequirements selector).get? key = some merged →
        (merged.admitsAbsence = true ∧ label = none) ∨
          (merged.admitsAbsence = false ∧ ∃ value, label = some value ∧ merged.has value = true) := by
    intro key
    cases stored : (newNodeSelectorRequirements selector).get? key with
    | none => exact ⟨none, fun merged found => absurd found (by simp)⟩
    | some merged =>
      cases absent : merged.admitsAbsence with
      | true =>
        refine ⟨none, fun other found => .inl ⟨?_, rfl⟩⟩
        rw [← Option.some.inj found, absent]
      | false =>
        have strict : merged.complement = true ↔ merged.values = ∅ := by
          have := (Requirement.admitsAbsence_iff merged).not.mp (by simp [absent])
          tauto
        obtain ⟨value, admits⟩ := merged.exists_has strict
        refine ⟨some value, fun other found => .inr ?_⟩
        rw [← Option.some.inj found]
        exact ⟨absent, value, rfl, admits⟩
  choose choice chosen using choose
  obtain ⟨labels, lookups⟩ := exists_labels choice (selector.map (·.key))
  have known : ∀ key ∈ labels.keys, normalizedLabels.lookup key = none := by
    intro key member
    have defined := AList.lookup_isSome.mpr (AList.mem_keys.mpr member)
    rw [lookups] at defined
    split at defined
    · rename_i inSelector
      obtain ⟨e, inList, rfl⟩ := List.mem_map.mp inSelector
      exact unaliased e inList
    · simp at defined
  have keyed : ∀ key merged, (newNodeSelectorRequirements selector).get? key = some merged →
      labels.lookup key = choice key := by
    intro key merged stored
    obtain ⟨e, member, sameKey⟩ := (stored_iff unaliased).mp ⟨merged, stored⟩
    rw [lookups, if_pos (List.mem_map.mpr ⟨e, member, sameKey⟩)]
  refine ⟨labels, known, ?_, ?_⟩
  · rw [isCompatible_labels labels _ known]
    intro key merged stored
    rw [keyed key merged stored]
    rcases chosen key merged stored with ⟨absent, label⟩ | ⟨-, value, label, admits⟩
    · rw [label]
      exact absent
    · rw [label]
      exact admits
  · intro e member merged stored absent
    rw [keyed e.key merged stored]
    rcases chosen e.key merged stored with ⟨-, label⟩ | ⟨strict, -⟩
    · exact label
    · rw [strict] at absent
      cases absent

/-- Matching a selector against concrete nodes is sound for every node exactly when presence is kept
on every key. -/
theorem nodeSelector_sound_iff (selector : List NodeSelectorRequirement) (admitted : ∀ e ∈ selector, e.admitted = true)
    (unaliased : ∀ e ∈ selector, normalizedLabels.lookup e.key = none) :
    (∀ labels : Labels, (∀ key ∈ labels.keys, normalizedLabels.lookup key = none) →
      (newLabelRequirements labels).isCompatible (newNodeSelectorRequirements selector) ∅ = true →
        ∀ e ∈ selector, e.satisfiedBy (labels.lookup e.key) = true) ↔ PresenceKept selector := by
  constructor
  · intro sound e member demanded
    obtain ⟨labels, known, matched, absence⟩ := exists_matched selector unaliased
    have satisfied := sound labels known matched
    obtain ⟨merged, stored⟩ := (stored_iff unaliased).mpr ⟨e, member, rfl⟩
    cases label : labels.lookup e.key with
    | none =>
      have := satisfied e member
      rw [label, demanded] at this
      cases this
    | some value =>
      constructor
      · refine ⟨value, fun other inSelector sameKey => ?_⟩
        have := satisfied other inSelector
        rwa [sameKey, label] at this
      · by_contra left
        simp only [not_or, not_exists, not_and, not_forall] at left
        obtain ⟨finite, excluding, inSelector, sameKey, notIn, excludedValue, listed, bounds⟩ := left
        have leftover := leftover_admits_absence admitted unaliased inSelector notIn (sameKey ▸ stored)
          (sameKey ▸ finite) listed (by
            intro bound boundIn boundKey operator
            have := bounds bound boundIn (boundKey.trans sameKey) operator
            simpa using this)
        rw [absence e member merged stored leftover] at label
        cases label
  · intro kept labels known matched e member
    rw [isCompatible_labels labels _ known] at matched
    obtain ⟨merged, stored⟩ := (stored_iff unaliased).mpr ⟨e, member, rfl⟩
    have accepted := matched e.key merged stored
    cases label : labels.lookup e.key with
    | none =>
      rw [label] at accepted
      by_contra unmet
      rw [rejects_absence admitted unaliased member (by simpa using unmet) kept stored] at accepted
      cases accepted
    | some value =>
      rw [label] at accepted
      have part := ((selector_meets unaliased stored).has_iff value).mp accepted e.requirement
        (mem_partsOf.mpr ⟨e, member, rfl, rfl⟩)
      refine (has_requirement (admitted e member) ?_ value).mp part
      intro bound
      have demanded : e.satisfiedBy none = false := by
        rcases bound with gt | lt
        · simp [NodeSelectorRequirement.satisfiedBy, gt]
        · simp [NodeSelectorRequirement.satisfiedBy, lt]
      obtain ⟨⟨witness, all⟩, -⟩ := kept e member demanded
      exact ⟨witness, all e member rfl⟩

/-- A selector that mixes In, Gt and NotIn on one key and keeps its presence. -/
theorem nodeSelector_sound_generation : PresenceKept [⟨"generation", .opIn, ["3", "5"]⟩, ⟨"generation", .opGt, ["4"]⟩,
      ⟨"generation", .opNotIn, ["3"]⟩] ∧ ∀ labels : Labels, (∀ key ∈ labels.keys, normalizedLabels.lookup key = none) →
      (newLabelRequirements labels).isCompatible (newNodeSelectorRequirements
        [⟨"generation", .opIn, ["3", "5"]⟩, ⟨"generation", .opGt, ["4"]⟩, ⟨"generation", .opNotIn, ["3"]⟩]) ∅ = true →
        ∀ e ∈ ([⟨"generation", .opIn, ["3", "5"]⟩, ⟨"generation", .opGt, ["4"]⟩,
          ⟨"generation", .opNotIn, ["3"]⟩] : List NodeSelectorRequirement),
          e.satisfiedBy (labels.lookup e.key) = true := by
  have kept : PresenceKept [⟨"generation", .opIn, ["3", "5"]⟩, ⟨"generation", .opGt, ["4"]⟩,
      ⟨"generation", .opNotIn, ["3"]⟩] := by
    intro e member demanded
    have keyed : e.key = "generation" := by
      simp only [List.mem_cons, List.not_mem_nil, or_false] at member
      rcases member with rfl | rfl | rfl <;> rfl
    rw [keyed]
    exact ⟨⟨"5", by decide⟩, .inl ⟨_, List.mem_cons_self, by decide⟩⟩
  exact ⟨kept, (nodeSelector_sound_iff _ (by decide) (by decide)).mpr kept⟩

/-- A node without the label is matched although the selector demands its presence. -/
theorem nodeSelector_unsound_exists_notIn : (newLabelRequirements ∅).isCompatible (newNodeSelectorRequirements
      [⟨"gpu", .opExists, []⟩, ⟨"gpu", .opNotIn, ["none"]⟩]) ∅ = true ∧
    NodeSelectorRequirement.satisfiedBy ⟨"gpu", .opExists, []⟩ ((∅ : Labels).lookup "gpu") = false := by
  decide

section Complete

variable {selector : List NodeSelectorRequirement} (admitted : ∀ e ∈ selector, e.admitted = true)
  (unaliased : ∀ e ∈ selector, normalizedLabels.lookup e.key = none)

include admitted unaliased in
/-- A value that satisfies every expression on the key is kept by the merged requirement. -/
theorem admits_satisfying (stored : (newNodeSelectorRequirements selector).get? key = some merged)
    (satisfied : ∀ e ∈ selector, e.key = key → e.satisfiedBy (some value) = true) : merged.has value = true := by
  rw [(selector_meets unaliased stored).has_iff, forall_partsOf]
  intro e member keyed
  have holds := satisfied e member keyed
  exact (has_requirement (admitted e member) (fun _ => ⟨value, holds⟩) value).mpr holds

include admitted unaliased in
/-- Expressions that all hold without the label merge into a requirement that does not ask for it. -/
theorem admits_missing (stored : (newNodeSelectorRequirements selector).get? key = some merged)
    (satisfied : ∀ e ∈ selector, e.key = key → e.satisfiedBy none = true) : merged.admitsAbsence = true := by
  have operators : ∀ e ∈ selector, e.key = key → e.operator = .opNotIn ∨ e.operator = .opDoesNotExist := by
    intro e member keyed
    have holds := satisfied e member keyed
    simpa [NodeSelectorRequirement.satisfiedBy] using holds
  by_cases excluding : ∃ e ∈ selector, e.key = key ∧ e.operator = .opNotIn
  · obtain ⟨e, member, rfl, notIn⟩ := excluding
    have listed : ∃ value, value ∈ e.values := by
      have valid := admitted e member
      simp only [NodeSelectorRequirement.admitted, notIn, Bool.not_eq_true', List.isEmpty_eq_false_iff] at valid
      exact List.exists_mem_of_ne_nil _ valid
    obtain ⟨value, listed⟩ := listed
    refine leftover_admits_absence admitted unaliased member notIn stored ?_ listed ?_
    · intro other inSelector sameKey opIn
      rcases operators other inSelector sameKey with kind | kind <;> simp [opIn] at kind
    · intro bound inSelector sameKey operator
      rcases operators bound inSelector sameKey with kind | kind <;> simp [kind] at operator
  · obtain ⟨e, member, keyed⟩ := (stored_iff unaliased).mp ⟨merged, stored⟩
    have absent : e.operator = .opDoesNotExist :=
      (operators e member keyed).resolve_left fun notIn => excluding ⟨e, member, keyed, notIn⟩
    have part : e.requirement ∈ partsOf selector key := mem_partsOf.mpr ⟨e, member, keyed, rfl⟩
    have concrete : e.requirement.complement = false := by
      simp [NodeSelectorRequirement.requirement, newRequirementWithFlexibility, newConcrete, absent]
    have meets := selector_meets unaliased stored
    have kind : merged.complement = false := by
      rw [Bool.eq_false_iff]
      intro complement
      rw [meets.complements complement _ part] at concrete
      cases concrete
    have empty : merged.values = ∅ := by
      rw [Finset.eq_empty_iff_forall_notMem]
      intro value listed
      have all := (meets.has_iff value).mp ((merged.has_concrete kind value).mpr listed) _ part
      rw [(requirement_shape (admitted e member)).2 concrete (by simp [absent])] at all
      cases all
    rw [Requirement.admitsAbsence_iff]
    simp [kind, empty]

end Complete

/-- A node that satisfies every expression is matched. -/
theorem nodeSelector_complete (labels : Labels) (selector : List NodeSelectorRequirement)
    (admitted : ∀ e ∈ selector, e.admitted = true) (unaliased : ∀ e ∈ selector, normalizedLabels.lookup e.key = none)
    (known : ∀ key ∈ labels.keys, normalizedLabels.lookup key = none)
    (satisfied : ∀ e ∈ selector, e.satisfiedBy (labels.lookup e.key) = true) :
    (newLabelRequirements labels).isCompatible (newNodeSelectorRequirements selector) ∅ = true := by
  rw [isCompatible_labels labels _ known]
  intro key merged stored
  cases label : labels.lookup key with
  | none =>
    apply admits_missing admitted unaliased stored
    rintro e member rfl
    rw [← label]
    exact satisfied e member
  | some value =>
    apply admits_satisfying admitted unaliased stored
    rintro e member rfl
    rw [← label]
    exact satisfied e member

/-- A node of generation 5 without a gpu label, and a selector with several expressions for each. -/
theorem nodeSelector_complete_generation :
    (newLabelRequirements (AList.insert "generation" "5" ∅)).isCompatible (newNodeSelectorRequirements
      [⟨"generation", .opGt, ["-4"]⟩, ⟨"gpu", .opNotIn, ["a"]⟩, ⟨"generation", .opNotIn, ["4"]⟩,
        ⟨"gpu", .opDoesNotExist, []⟩, ⟨"generation", .opLt, ["6"]⟩]) ∅ = true :=
  nodeSelector_complete _ _ (by decide) (by decide) (by decide) (by decide)

end Karpenter.Scheduling
