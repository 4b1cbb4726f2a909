import Karpenter.Scheduling.Sampling
import Karpenter.Scheduling.Serialization

/-! Labels that a NodeClaim gets from the requirements of its NodePool template, and the drift check
that reads them back. The requirements `ToNodeClaim` adds before it resolves labels are on the instance
type and the capacity type, which are well known and not resolved. -/
namespace Karpenter.Provisioning.CustomLabels

open Go
open Scheduling

def nodePoolLabelKey : String := "karpenter.sh/nodepool"
def nodeRegisteredLabelKey : String := "karpenter.sh/registered"
def nodeInitializedLabelKey : String := "karpenter.sh/initialized"
def labelHostname : String := "kubernetes.io/hostname"

def restrictedLabels : Finset String := {labelHostname}
def schedulingSimulationKeys : Finset String := {nodeRegisteredLabelKey, nodeInitializedLabelKey}

/-- Cloud providers extend the well-known labels; the labels that aliases stand for are among them. -/
structure WellKnownLabels where
  labels : Finset String
  normalized : ∀ entry ∈ normalizedLabels.entries, entry.2 ∈ labels

/-- The keys that are not resolved at creation. -/
def WellKnownLabels.skips (wellKnown : WellKnownLabels) (key : String) : Bool :=
  decide (key ∈ wellKnown.labels) || decide (key ∈ restrictedLabels) || decide (key ∈ schedulingSimulationKeys)

/-- What the API demands of an expression of a template. A bound may be any integer. -/
def valid (e : NodeSelectorRequirementWithMinValues) : Bool :=
  match e.operator with
  | .opIn => !e.values.isEmpty
  | .opNotIn | .opExists | .opDoesNotExist => true
  | .opGt | .opLt | .opGte | .opLte => match e.values with
    | [text] => (integer? text).isSome
    | _ => false

structure NodePool where
  name : String
  nodeClassLabelKey : String
  nodeClassName : String
  labels : Labels := ∅
  requirements : List NodeSelectorRequirementWithMinValues
  valid : ∀ e ∈ requirements, valid e = true

namespace NodePool

variable (nodePool : NodePool)

/-- The labels of the NodeClaim template. -/
def templateLabels : Labels :=
  (nodePool.labels.insert nodePoolLabelKey nodePool.name).insert nodePool.nodeClassLabelKey nodePool.nodeClassName

/-- The requirements the NodePool states, which the drift check reads. -/
def specRequirements : Requirements :=
  Requirements.newNodeSelectorRequirementsWithMinValues nodePool.requirements

/-- The requirements of the NodeClaim template. -/
def templateRequirements : Requirements :=
  (((Requirements.empty.add nodePool.specRequirements.values).add
    (Requirements.newLabelRequirements nodePool.templateLabels).values).add
    [newRequirement nodeRegisteredLabelKey .opIn ["true"]]).add
    [newRequirement nodeInitializedLabelKey .opIn ["true"]]

end NodePool

/-- The loop over the keys of the requirements, each with its own random outcome. -/
def resolveLoop (wellKnown : WellKnownLabels) (draws : String → Draw) (requirements : Requirements) :
    List String → Labels → Option Labels
  | [], labels => some labels
  | key :: rest, labels =>
    if wellKnown.skips key then resolveLoop wellKnown draws requirements rest labels
    else match (requirements.get key).any (draws key) with
      | none => none
      | some value =>
        resolveLoop wellKnown draws requirements rest (if value ≠ "" then labels.insert key value else labels)

def resolveCustomLabelsFromRequirements (wellKnown : WellKnownLabels) (draws : String → Draw)
    (requirements : Requirements) : Option Labels :=
  resolveLoop wellKnown draws requirements requirements.keys ∅

/-- Resolved labels replace those of the template. -/
def assign (labels resolved : Labels) : Labels := resolved ∪ labels

def areRequirementsDrifted (nodePool : NodePool) (labels : Labels) : Bool :=
  !(Requirements.newLabelRequirements labels).isCompatible nodePool.specRequirements ∅

section Resolve

variable {wellKnown : WellKnownLabels}

/-- What one key contributes. -/
def stamped (wellKnown : WellKnownLabels) (draws : String → Draw) (requirements : Requirements) (key : String) :
    Option String :=
  if wellKnown.skips key then none
  else ((requirements.get key).any (draws key)).filter (· ≠ "")

theorem resolveLoop_isSome (keys : List String) (labels : Labels) :
    (resolveLoop wellKnown draws requirements keys labels).isSome = true ↔
      ∀ key ∈ keys, wellKnown.skips key = false → ((requirements.get key).any (draws key)).isSome = true := by
  induction keys generalizing labels with
  | nil => simp [resolveLoop]
  | cons key rest ih =>
    rw [List.forall_mem_cons, resolveLoop]
    cases skipped : wellKnown.skips key with
    | true => simp [ih]
    | false =>
      cases drawn : (requirements.get key).any (draws key) with
      | none => simp
      | some value => simp [ih]

theorem lookup_resolveLoop (keys : List String) (distinct : keys.Nodup) (labels resolved : Labels)
    (computed : resolveLoop wellKnown draws requirements keys labels = some resolved) (key : String) :
    resolved.lookup key =
      if key ∈ keys then (stamped wellKnown draws requirements key).or (labels.lookup key)
      else labels.lookup key := by
  induction keys generalizing labels with
  | nil =>
    cases computed
    rfl
  | cons head rest ih =>
    obtain ⟨fresh, distinct⟩ := List.nodup_cons.mp distinct
    rw [resolveLoop] at computed
    cases skipped : wellKnown.skips head with
    | true =>
      rw [skipped, if_pos rfl] at computed
      rw [ih distinct labels computed]
      by_cases same : key = head
      · subst same
        rw [if_neg fresh, if_pos List.mem_cons_self, stamped, skipped, if_pos rfl, Option.none_or]
      · simp only [List.mem_cons, same, false_or]
    | false =>
      rw [skipped, if_neg Bool.false_ne_true] at computed
      cases drawn : (requirements.get head).any (draws head) with
      | none =>
        rw [drawn] at computed
        cases computed
      | some value =>
        rw [drawn] at computed
        rw [ih distinct _ computed]
        by_cases same : key = head
        · subst same
          rw [if_neg fresh, if_pos List.mem_cons_self, stamped, skipped, if_neg Bool.false_ne_true, drawn]
          by_cases empty : value = ""
          · simp [empty, Option.filter]
          · simp [empty, Option.filter]
        · have kept : (if value ≠ "" then labels.insert head value else labels).lookup key = labels.lookup key := by
            split
            · exact AList.lookup_insert_ne same
            · rfl
          simp only [List.mem_cons, same, false_or, kept]

end Resolve

section Template

variable {wellKnown : WellKnownLabels}

section Custom

variable (custom : wellKnown.skips key = false) (normalized : normalizeKey key = key)
include custom normalized

/-- A key that is resolved is no label that an alias stands for. -/
theorem own_of_custom (label : String) : normalizeKey label = key ↔ label = key := by
  constructor
  · intro renamed
    cases aliased : normalizedLabels.lookup label with
    | none => rw [← renamed, normalizeKey_of_unaliased aliased]
    | some target =>
      have target_eq : target = key := by simpa only [normalizeKey, aliased, Option.getD_some] using renamed
      have named := wellKnown.normalized ⟨label, target⟩ (AList.mem_lookup_iff.mp aliased)
      rw [target_eq] at named
      simp [WellKnownLabels.skips, named] at custom
  · rintro rfl
    exact normalized

theorem get?_labels_of_custom (labels : Labels) : (Requirements.newLabelRequirements labels).get? key =
      (labels.lookup key).map fun value => newRequirement key .opIn [value] :=
  Requirements.get?_newLabelRequirements_own labels key fun label _ => own_of_custom custom normalized label

/-- Under a resolved key the template states what the NodePool states, narrowed to the label of the
template if there is one. -/
theorem get?_templateRequirements (nodePool : NodePool) : nodePool.templateRequirements.get? key =
      match nodePool.templateLabels.lookup key with
      | none => nodePool.specRequirements.get? key
      | some value => some (Requirements.merge (newRequirement key .opIn [value])
          (nodePool.specRequirements.get? key)) := by
  have unsimulated : key ≠ nodeRegisteredLabelKey ∧ key ≠ nodeInitializedLabelKey := by
    constructor <;> rintro rfl <;> simp [WellKnownLabels.skips, schedulingSimulationKeys] at custom
  have others : nodePool.templateRequirements.get? key =
      ((Requirements.empty.add nodePool.specRequirements.values).add
        (Requirements.newLabelRequirements nodePool.templateLabels).values).get? key := by
    have registered : key ≠ (newRequirement nodeRegisteredLabelKey .opIn ["true"]).key := unsimulated.1
    have initialized : key ≠ (newRequirement nodeInitializedLabelKey .opIn ["true"]).key := unsimulated.2
    show ((Requirements.addOne _ _).addOne _).get? key = _
    rw [Requirements.get?_addOne, if_neg initialized, Requirements.get?_addOne, if_neg registered]
  have spec : (Requirements.empty.add nodePool.specRequirements.values).get? key =
      nodePool.specRequirements.get? key := by
    rw [Requirements.get?_add_values, Requirements.get?_empty]
    cases nodePool.specRequirements.get? key <;> rfl
  rw [others, Requirements.get?_add_values, spec, get?_labels_of_custom custom normalized]
  cases nodePool.templateLabels.lookup key <;> rfl

end Custom

variable (nodePool : NodePool)

/-- The NodePool states a requirement under a key exactly when one of its expressions is about it. -/
theorem specRequirements_isSome : (nodePool.specRequirements.get? key).isSome = true ↔
    ∃ e ∈ nodePool.requirements, normalizeKey e.key = key := by
  rw [← not_iff_not, Bool.not_eq_true, Option.isSome_eq_false_iff, Option.isNone_iff_eq_none,
    NodePool.specRequirements, Requirements.newNodeSelectorRequirementsWithMinValues,
    Requirements.get?_newRequirements_eq_none]
  simp only [List.forall_mem_map, NodeSelectorRequirement.key_newRequirement, not_exists, not_and, ne_eq]

/-- The requirement that a NodeClaim label must meet, or must not need. -/
def Meets (requirement : Requirement) : Option String → Prop
  | none => requirement.admitsAbsence = true
  | some value => requirement.has value = true

/-- The drift check on keys that are all resolved at creation. -/
theorem undrifted_iff (custom : ∀ e ∈ nodePool.requirements, wellKnown.skips (normalizeKey e.key) = false)
    (labels : Labels) : areRequirementsDrifted nodePool labels = false ↔
      ∀ key requirement, nodePool.specRequirements.get? key = some requirement →
        Meets requirement (labels.lookup key) := by
  have compatible : areRequirementsDrifted nodePool labels = false ↔
      (Requirements.newLabelRequirements labels).isCompatible nodePool.specRequirements ∅ = true := by
    rw [areRequirementsDrifted, Bool.not_eq_false']
  rw [compatible, Requirements.isCompatible_iff_admitsKey]
  apply forall₃_congr
  intro key requirement stored
  obtain ⟨e, member, rfl⟩ := (specRequirements_isSome nodePool).mp (by rw [stored]; rfl)
  rw [get?_labels_of_custom (custom e member) (normalizeKey_idem e.key)]
  cases labels.lookup (normalizeKey e.key) with
  | none => simp [Requirements.AdmitsKey, Meets]
  | some value =>
    have single := Requirement.single_newRequirement (normalizeKey e.key) value
    simp only [Option.map_some, Requirements.AdmitsKey, Meets, single.admitsAbsence, Bool.false_eq_true,
      and_false, or_false]
    rw [Requirement.hasIntersection_comm, single.hasIntersection_iff]

end Template

theorem lookup_assign (labels resolved : Labels) (key : String) :
    (assign labels resolved).lookup key = (resolved.lookup key).or (labels.lookup key) := by
  by_cases member : key ∈ resolved
  · obtain ⟨value, found⟩ := Option.isSome_iff_exists.mp (AList.lookup_isSome.mpr member)
    rw [assign, AList.lookup_union_left member, found, Option.some_or]
  · rw [assign, AList.lookup_union_right member, AList.lookup_eq_none.mpr member, Option.none_or]

/-- Resolution succeeds, every label it stamps is admitted, and the labels of the NodeClaim pass the
drift check. -/
def Settles (wellKnown : WellKnownLabels) (nodePool : NodePool) (draws : String → Draw) : Prop :=
  ∃ resolved, resolveCustomLabelsFromRequirements wellKnown draws nodePool.templateRequirements = some resolved ∧
    (∀ key value, resolved.lookup key = some value →
      (nodePool.templateRequirements.get key).has value = true) ∧
    areRequirementsDrifted nodePool (assign nodePool.templateLabels resolved) = false

/-- What a key must offer to random choice: a range that can be sampled and excludes none of its
integers, or listed values none of which is the empty text, which is not stamped. -/
structure Resolvable (nodePool : NodePool) (key : String) : Prop where
  samplable : (nodePool.templateRequirements.get key).complement = true →
    (nodePool.templateRequirements.get key).Samplable
  nonempty : (nodePool.templateRequirements.get key).complement = false →
    "" ∈ (nodePool.templateRequirements.get key).values → (nodePool.templateLabels.lookup key).isSome = true

section Settles

variable {wellKnown : WellKnownLabels} {nodePool : NodePool} {resolved : Labels}

theorem lookup_resolved
    (computed : resolveCustomLabelsFromRequirements wellKnown draws nodePool.templateRequirements = some resolved)
    (key : String) : resolved.lookup key =
      if nodePool.templateRequirements.has key = true then
        stamped wellKnown draws nodePool.templateRequirements key else none := by
  have looked := lookup_resolveLoop _ nodePool.templateRequirements.entries.keys_nodup ∅ resolved computed key
  rw [looked, AList.lookup_empty, Option.or_none]
  exact if_congr (Requirements.mem_keys _ _) rfl rfl

/-- The requirement of a resolved key comes from a label alone, or the NodePool states one. -/
theorem template_cases (custom : wellKnown.skips key = false) (normalized : normalizeKey key = key)
    (stored : nodePool.templateRequirements.has key = true) : (∃ e ∈ nodePool.requirements, normalizeKey e.key = key) ∨
      ∃ value, (nodePool.templateRequirements.get key).Single value := by
  cases spec : nodePool.specRequirements.get? key with
  | some requirement => exact .inl ((specRequirements_isSome nodePool).mp (by rw [spec]; rfl))
  | none =>
    have found := get?_templateRequirements custom normalized nodePool
    rw [spec] at found
    cases label : nodePool.templateLabels.lookup key with
    | none =>
      rw [label] at found
      rw [Requirements.has, found] at stored
      cases stored
    | some value =>
      rw [label] at found
      right
      refine ⟨value, ?_⟩
      rw [Requirements.get_of_get? _ found]
      exact Requirement.single_newRequirement key value

/-- The template admits under a key what the NodePool admits, unless a label of it has another value. -/
theorem has_templateRequirements (custom : wellKnown.skips key = false) (normalized : normalizeKey key = key) :
    (nodePool.templateRequirements.get key).has value = true ↔ (nodePool.specRequirements.get key).has value = true ∧
      ∀ text, nodePool.templateLabels.lookup key = some text → value = text := by
  have found := get?_templateRequirements custom normalized nodePool
  cases label : nodePool.templateLabels.lookup key with
  | none => simp [Requirements.get, found, label]
  | some text =>
    rw [label] at found
    rw [Requirements.get_of_get? _ found, Requirements.has_merge, (Requirement.single_newRequirement key text).has_iff]
    simp

theorem has_template (custom : wellKnown.skips key = false) (normalized : normalizeKey key = key)
    (stored : nodePool.specRequirements.get? key = some requirement) :
    nodePool.templateRequirements.has key = true := by
  rw [Requirements.has, get?_templateRequirements custom normalized nodePool, stored]
  cases nodePool.templateLabels.lookup key <;> rfl

theorem stamped_eq (draws : String → Draw) (custom : wellKnown.skips key = false)
    (drawn : (nodePool.templateRequirements.get key).any (draws key) = some value) :
    stamped wellKnown draws nodePool.templateRequirements key = if value = "" then none else some value := by
  rw [stamped, custom, if_neg Bool.false_ne_true, drawn]
  by_cases empty : value = ""
  · simp [empty, Option.filter]
  · simp [empty, Option.filter]

section Custom

variable (custom : ∀ e ∈ nodePool.requirements, wellKnown.skips (normalizeKey e.key) = false)
  (admits : ∀ e ∈ nodePool.requirements,
    ∃ value, (nodePool.templateRequirements.get (normalizeKey e.key)).has value = true)
include custom

include admits in
theorem settles_of_resolvable (resolvable : ∀ e ∈ nodePool.requirements, Resolvable nodePool (normalizeKey e.key)) :
    Settles wellKnown nodePool draws := by
  have each : ∀ key, wellKnown.skips key = false → nodePool.templateRequirements.has key = true →
      ∃ value, (nodePool.templateRequirements.get key).any (draws key) = some value ∧
        (nodePool.templateRequirements.get key).has value = true := by
    intro key own stored
    obtain ⟨requirement, found⟩ := Option.isSome_iff_exists.mp stored
    have normalized : normalizeKey key = key := by
      rw [← Requirements.get?_keyed _ found]
      exact requirement.normalized
    rcases template_cases own normalized stored with ⟨e, member, rfl⟩ | ⟨value, single⟩
    · exact Requirement.any_admitted (admits e member) (resolvable e member).samplable _
    · refine Requirement.any_admitted ⟨value, (single.has_iff value).mpr rfl⟩ (fun kind => ?_) _
      rw [single.1] at kind
      cases kind
  have total : (resolveCustomLabelsFromRequirements wellKnown draws nodePool.templateRequirements).isSome = true := by
    refine (resolveLoop_isSome _ ∅).mpr fun key member own => ?_
    obtain ⟨value, drawn, -⟩ := each key own ((Requirements.mem_keys _ _).mp member)
    rw [drawn]
    rfl
  obtain ⟨resolved, computed⟩ := Option.isSome_iff_exists.mp total
  refine ⟨resolved, computed, fun key value looked => ?_, (undrifted_iff nodePool custom _).mpr ?_⟩
  · rw [lookup_resolved computed] at looked
    obtain ⟨stored, looked⟩ := Option.ite_none_right_eq_some.mp looked
    have own : wellKnown.skips key = false := by
      by_contra skipped
      rw [stamped, if_pos (by simpa using skipped)] at looked
      cases looked
    obtain ⟨drawnValue, drawn, admitted⟩ := each key own stored
    rw [stamped_eq draws own drawn] at looked
    obtain ⟨-, same⟩ := Option.ite_none_left_eq_some.mp looked
    rwa [← Option.some.inj same]
  · intro key requirement stored
    obtain ⟨e, member, rfl⟩ := (specRequirements_isSome nodePool).mp (by rw [stored]; rfl)
    have own := custom e member
    have normalized := normalizeKey_idem e.key
    have inTemplate := has_template own normalized stored
    obtain ⟨value, drawn, admitted⟩ := each _ own inTemplate
    obtain ⟨spec, labelled⟩ := (has_templateRequirements own normalized).mp admitted
    rw [Requirements.get_of_get? _ stored] at spec
    rw [lookup_assign, lookup_resolved computed, if_pos inTemplate, stamped_eq draws own drawn]
    by_cases empty : value = ""
    · subst empty
      have kind : (nodePool.templateRequirements.get (normalizeKey e.key)).complement = false := by
        by_contra complement
        exact Requirement.any_ne_empty (by simpa using complement) drawn rfl
      -- The empty text is not stamped, so the template must carry the label itself.
      obtain ⟨text, label⟩ := Option.isSome_iff_exists.mp
        ((resolvable e member).nonempty kind ((Requirement.has_concrete _ kind "").mp admitted))
      rw [if_pos rfl, Option.none_or, label, ← labelled text label]
      exact spec
    · rw [if_neg empty, Option.some_or]
      exact spec

theorem resolvable_of_settles (settles : ∀ draws, Settles wellKnown nodePool draws)
    (member : e ∈ nodePool.requirements) : Resolvable nodePool (normalizeKey e.key) := by
  have own := custom e member
  have normalized := normalizeKey_idem e.key
  obtain ⟨requirement, stored⟩ := Option.isSome_iff_exists.mp
    ((specRequirements_isSome nodePool).mpr ⟨e, member, rfl⟩)
  have inTemplate := has_template own normalized stored
  constructor
  · intro kind
    rw [← Requirement.any_admitted_iff kind]
    intro draw
    obtain ⟨resolved, computed, admitted, -⟩ := settles fun _ => draw
    have total := (resolveLoop_isSome _ ∅).mp (Option.isSome_of_eq_some computed)
    obtain ⟨value, drawn⟩ := Option.isSome_iff_exists.mp
      (total _ ((Requirements.mem_keys _ _).mpr inTemplate) own)
    refine ⟨value, drawn, admitted _ _ ?_⟩
    rw [lookup_resolved computed, if_pos inTemplate, stamped_eq (fun _ => draw) own drawn,
      if_neg (Requirement.any_ne_empty kind drawn)]
  · intro kind listed
    by_contra unlabelled
    have label : nodePool.templateLabels.lookup (normalizeKey e.key) = none := by simpa using unlabelled
    obtain ⟨resolved, computed, -, undrifted⟩ := settles fun _ => .preferring "" 0
    have drawn := Requirement.any_concrete kind ⟨"", listed⟩ (.preferring "" 0)
    rw [Draw.first_preferring listed] at drawn
    have absent := (undrifted_iff nodePool custom _).mp undrifted _ _ stored
    have unstamped : resolved.lookup (normalizeKey e.key) = none := by
      rw [lookup_resolved computed, if_pos inTemplate]
      exact stamped_eq (fun _ => .preferring "" 0) own drawn
    rw [lookup_assign, unstamped, Option.none_or, label] at absent
    have found := get?_templateRequirements own normalized nodePool
    rw [label, stored] at found
    rw [Requirements.get_of_get? _ found] at kind listed
    have nonempty : requirement.values ≠ ∅ := fun empty => by
      rw [empty] at listed
      exact absurd listed (Finset.notMem_empty _)
    have complement := (requirement.admitsAbsence_iff.mp absent).mpr nonempty
    rw [kind] at complement
    cases complement

end Custom

end Settles

/-- Labels stamped for custom keys are admitted and pass the drift check, whatever the outcome of the
random choices, exactly when every key is resolvable. -/
theorem custom_labels_settle_iff (wellKnown : WellKnownLabels) (nodePool : NodePool)
    (custom : ∀ e ∈ nodePool.requirements, wellKnown.skips (normalizeKey e.key) = false)
    (admits : ∀ e ∈ nodePool.requirements,
      ∃ value, (nodePool.templateRequirements.get (normalizeKey e.key)).has value = true) :
    (∀ draws, Settles wellKnown nodePool draws) ↔
      ∀ e ∈ nodePool.requirements, Resolvable nodePool (normalizeKey e.key) :=
  ⟨fun settles _ member => resolvable_of_settles custom settles member,
    fun resolvable _ => settles_of_resolvable custom admits resolvable⟩

def coreLabels : Finset String :=
  {nodePoolLabelKey, "topology.kubernetes.io/zone", "topology.kubernetes.io/region",
    "node.kubernetes.io/instance-type", "kubernetes.io/arch", "kubernetes.io/os", "karpenter.sh/capacity-type",
    "node.kubernetes.io/windows-build"}

theorem coreLabels_normalized : ∀ entry ∈ normalizedLabels.entries, entry.2 ∈ coreLabels := by
  decide +kernel

/-- The labels that are well known without a cloud provider. -/
def coreWellKnown : WellKnownLabels := ⟨coreLabels, coreLabels_normalized⟩

/-- Expressions on one custom key. -/
def generation (operator : NodeSelectorOperator) (value : String) : NodeSelectorRequirementWithMinValues where
  key := "example.com/generation"
  operator := operator
  values := [value]
  minValues := none

def generationPool (requirements : List NodeSelectorRequirementWithMinValues)
    (checked : ∀ e ∈ requirements, valid e = true) : NodePool where
  name := "default"
  nodeClassLabelKey := "example.com/nodeclass"
  nodeClassName := "default"
  requirements := requirements
  valid := checked

theorem between_valid : ∀ e ∈ [generation .opGt "1", generation .opLt "5"], valid e = true := by decide +kernel

def betweenPool : NodePool := generationPool _ between_valid

/-- Generations 2 to 4: every outcome is stamped and kept. -/
theorem custom_labels_settle_between : (betweenPool.templateRequirements.get "example.com/generation").has "3" = true ∧
      ∀ draws, Settles coreWellKnown betweenPool draws := by
  have custom : ∀ e ∈ betweenPool.requirements, coreWellKnown.skips (normalizeKey e.key) = false := by
    decide +kernel
  have three : ∀ e ∈ betweenPool.requirements,
      (betweenPool.templateRequirements.get (normalizeKey e.key)).has "3" = true := by decide +kernel
  have open_ : ∀ e ∈ betweenPool.requirements,
      (betweenPool.templateRequirements.get (normalizeKey e.key)).complement = true ∧
      (betweenPool.templateRequirements.get (normalizeKey e.key)).values = ∅ ∧
      (betweenPool.templateRequirements.get (normalizeKey e.key)).Drawable := by decide +kernel
  refine ⟨by decide +kernel, (custom_labels_settle_iff coreWellKnown betweenPool custom
    fun e member => ⟨"3", three e member⟩).mpr fun e member => ?_⟩
  obtain ⟨kind, empty, drawable⟩ := open_ e member
  constructor
  · intro _
    refine ⟨drawable, fun n _ _ => ?_⟩
    rw [empty]
    exact Finset.notMem_empty _
  · intro concrete
    rw [kind] at concrete
    cases concrete

theorem excluding_valid :
    ∀ e ∈ [generation .opGt "4", generation .opLt "7", generation .opNotIn "5"], valid e = true := by decide +kernel

def excludingPool : NodePool := generationPool _ excluding_valid

theorem negative_valid : ∀ e ∈ [generation .opLt "0"], valid e = true := by decide +kernel

def negativePool : NodePool := generationPool _ negative_valid

/-- Generation 5 or 6 without 5: both admit a value, but 5 may be drawn. Below 0, the draw panics. -/
theorem custom_labels_settle_excluded :
    ((excludingPool.templateRequirements.get "example.com/generation").has "6" = true ∧
      ¬ Settles coreWellKnown excludingPool fun _ => .preferring "" 0) ∧
    ((negativePool.templateRequirements.get "example.com/generation").has "-1" = true ∧
      ¬ Settles coreWellKnown negativePool fun _ => .preferring "" 0) := by
  refine ⟨⟨by decide +kernel, ?_⟩, by decide +kernel, ?_⟩
  · rintro ⟨resolved, computed, admitted, -⟩
    have stamps : (resolveCustomLabelsFromRequirements coreWellKnown (fun _ => .preferring "" 0)
        excludingPool.templateRequirements).map (AList.lookup "example.com/generation") = some (some "5") := by
      decide +kernel
    rw [computed] at stamps
    have five := admitted _ _ (Option.some.inj stamps)
    exact absurd five (by decide +kernel)
  · rintro ⟨resolved, computed, -⟩
    have panics : (resolveCustomLabelsFromRequirements coreWellKnown (fun _ => .preferring "" 0)
        negativePool.templateRequirements).isNone = true := by decide +kernel
    rw [computed] at panics
    cases panics

end Karpenter.Provisioning.CustomLabels
