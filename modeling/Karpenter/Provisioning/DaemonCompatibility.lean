import Karpenter.Provisioning.DaemonRequests
import Karpenter.Provisioning.Preferences
import Karpenter.Trace

/-! Which daemon pods are counted for the instance types of the templates, and then for the existing nodes. Looking
for a required term that suits removes the terms before it from the pod object, which every later question shares.
The grouping of instance types by the pods counted for them is left out, and so are daemon pods that are skipped
for their resource claims. -/
namespace Karpenter.Provisioning

open Go (Map)
open CloudProvider
open Scheduling
open Requirements (newLabelRequirements)

namespace PodSpec

def termRequirements (s : PodSpec) (term : List NodeSelectorRequirement) : Requirements :=
  (newLabelRequirements s.nodeSelector).add (Requirements.newNodeSelectorRequirements term).values

/-- Only the first of the required terms is read. -/
def newStrictPodRequirements (s : PodSpec) : Requirements :=
  match s.requiredNodeTerms with
  | [] => newLabelRequirements s.nodeSelector
  | first :: _ => s.termRequirements first

/-- The requirements for each of the required terms; a node has to satisfy one of them. -/
def alternatives (s : PodSpec) : List Requirements :=
  match s.requiredNodeTerms with
  | [] => [newLabelRequirements s.nodeSelector]
  | first :: rest => (first :: rest).map s.termRequirements

/-- The loop over the required terms of a pod; what it passes over is removed. -/
def relaxUntil (suits : Requirements → Bool) : Nat → PodSpec → Bool × PodSpec
  | 0, s => (suits s.newStrictPodRequirements, s)
  | fuel + 1, s =>
    if suits s.newStrictPodRequirements then (true, s)
    else match s.removeRequiredNodeAffinityTerm with
      | none => (false, s)
      | some t => relaxUntil suits fuel t

end PodSpec

/-- Each template with each of its instance types, in the order in which they are looked at. -/
def instanceTypePairs (templates : List NodeClaimTemplate) : List (NodeClaimTemplate × InstanceType) :=
  templates.flatMap fun template => template.instanceTypeOptions.map (template, ·)

structure NodeForDaemons where
  taints : List Taint := []
  labels : Map String String := ∅

namespace Settings

variable (settings : Settings)

def suits (template : NodeClaimTemplate) (it : InstanceType) (podRequirements : Requirements) : Bool :=
  template.requirements.isCompatible podRequirements settings.wellKnownLabels &&
    (it.requirements.intersects podRequirements).isEmpty

def isDaemonPodCompatible (pair : NodeClaimTemplate × InstanceType) (pod : PodSpec) : Bool × PodSpec :=
  let tolerant := pod.toleratePreferNoScheduleTaints.getD pod
  if toleratesTaints settings.toleratesTaint pair.1.taints tolerant.tolerations then
    tolerant.relaxUntil (settings.suits pair.1 pair.2) tolerant.requiredNodeTerms.length
  else (false, tolerant)

def isDaemonPodCompatibleWithNode (node : NodeForDaemons) (pod : PodSpec) : Bool :=
  toleratesTaints settings.toleratesTaint node.taints pod.tolerations &&
    (newLabelRequirements node.labels).isCompatible pod.newStrictPodRequirements ∅

/-- Whether each pod is counted for each pair, and what is left of the pods. -/
def buildDaemonOverheadGroups :
    List (NodeClaimTemplate × InstanceType) → List PodSpec → List (List Bool) × List PodSpec
  | [], pods => ([], pods)
  | pair :: rest, pods =>
    let judged := pods.map (settings.isDaemonPodCompatible pair)
    let later := buildDaemonOverheadGroups rest (judged.map (·.2))
    (judged.map (·.1) :: later.1, later.2)

/-- The templates come before the existing nodes. -/
def newScheduler (templates : List NodeClaimTemplate) (nodes : List NodeForDaemons) (daemonSetPods : List PodSpec) :
    List (List Bool) × List (List Bool) :=
  let groups := settings.buildDaemonOverheadGroups (instanceTypePairs templates) daemonSetPods
  (groups.1, nodes.map fun node => groups.2.map (settings.isDaemonPodCompatibleWithNode node))

/-- Whether a daemon pod belongs on a new node, by its own spec. -/
def belongs (pair : NodeClaimTemplate × InstanceType) (pod : PodSpec) : Bool :=
  toleratesTaints settings.toleratesTaint pair.1.taints (pod.tolerations ++ [preferNoSchedule]) &&
    pod.alternatives.any (settings.suits pair.1 pair.2)

/-- Whether a daemon pod belongs on an existing node, by its own spec. -/
def belongsOnNode (node : NodeForDaemons) (pod : PodSpec) : Bool :=
  toleratesTaints settings.toleratesTaint node.taints pod.tolerations &&
    pod.alternatives.any ((newLabelRequirements node.labels).isCompatible · ∅)

/-- Every pod is counted exactly where it belongs. -/
def JudgedOnOriginal (templates : List NodeClaimTemplate) (nodes : List NodeForDaemons) (pods : List PodSpec) : Prop :=
  settings.newScheduler templates nodes pods =
    ((instanceTypePairs templates).map fun pair => pods.map (settings.belongs pair),
      nodes.map fun node => pods.map (settings.belongsOnNode node))

/-- What is left of a pod after some pairs. -/
def examined (pairs : List (NodeClaimTemplate × InstanceType)) (pod : PodSpec) : PodSpec :=
  pairs.foldl (fun pod pair => (settings.isDaemonPodCompatible pair pod).2) pod

end Settings

namespace PodSpec

variable {s t : PodSpec}

theorem newStrictPodRequirements_mem (s : PodSpec) : s.newStrictPodRequirements ∈ s.alternatives := by
  rw [newStrictPodRequirements, alternatives]
  split <;> simp

theorem alternatives_of_stuck (stuck : s.removeRequiredNodeAffinityTerm = none) :
    s.alternatives = [s.newStrictPodRequirements] := by
  rw [alternatives, newStrictPodRequirements]
  rw [removeRequiredNodeAffinityTerm] at stuck
  split at stuck
  · cases stuck
  · rename_i short
    split
    · rfl
    · rename_i first rest terms
      cases rest with
      | nil => rfl
      | cons next rest => exact absurd terms (short first next rest)

theorem alternatives_of_removed (removed : s.removeRequiredNodeAffinityTerm = some t) :
    s.alternatives = s.newStrictPodRequirements :: t.alternatives ∧
      t.requiredNodeTerms.length + 1 = s.requiredNodeTerms.length := by
  rw [removeRequiredNodeAffinityTerm] at removed
  split at removed
  · rename_i term next rest terms
    cases removed
    rw [alternatives, newStrictPodRequirements, terms]
    exact ⟨rfl, rfl⟩
  · cases removed

theorem relaxUntil_answer {fuel : Nat} (enough : s.requiredNodeTerms.length ≤ fuel) :
    (relaxUntil suits fuel s).1 = s.alternatives.any suits := by
  induction fuel generalizing s with
  | zero =>
    have none_ : s.requiredNodeTerms = [] := List.length_eq_zero_iff.mp (by omega)
    simp [relaxUntil, newStrictPodRequirements, alternatives, none_]
  | succ fuel ih =>
    rw [relaxUntil]
    split
    · rename_i suited
      exact (List.any_eq_true.mpr ⟨_, s.newStrictPodRequirements_mem, suited⟩).symm
    · rename_i unsuited
      split
      · rename_i stuck
        simp [alternatives_of_stuck stuck, unsuited]
      · rename_i t removed
        obtain ⟨terms, fewer⟩ := alternatives_of_removed removed
        rw [ih (by omega), terms]
        simp [unsuited]

theorem relaxUntil_keepsHard (fuel : Nat) : KeepsHard s (relaxUntil suits fuel s).2 := by
  induction fuel generalizing s with
  | zero => exact .refl s
  | succ fuel ih =>
    rw [relaxUntil]
    split
    · exact .refl s
    · split
      · exact .refl s
      · rename_i t removed
        have step := keepsHard_of_relaxation (p := ⟨false⟩) (by simp [Preferences.relaxations]) removed
        exact step.1.trans ih

theorem tolerant_keepsHard (s : PodSpec) : KeepsHard s (s.toleratePreferNoScheduleTaints.getD s) := by
  cases added : s.toleratePreferNoScheduleTaints with
  | none => exact .refl s
  | some t => exact (keepsHard_of_relaxation (p := ⟨true⟩) (by simp [Preferences.relaxations]) added).1

theorem preferNoSchedule_mem_tolerant (s : PodSpec) :
    preferNoSchedule ∈ (s.toleratePreferNoScheduleTaints.getD s).tolerations := by
  rw [toleratePreferNoScheduleTaints]
  split
  · assumption
  · simp

end PodSpec

theorem KeepsHard.alternatives_subset {s t : PodSpec} (kept : KeepsHard s t) : t.alternatives ⊆ s.alternatives := by
  intro requirements member
  have terms : t.termRequirements = s.termRequirements := by
    funext term
    rw [PodSpec.termRequirements, PodSpec.termRequirements, kept.nodeSelector]
  by_cases none_ : s.requiredNodeTerms = []
  · have none' : t.requiredNodeTerms = [] := List.suffix_nil.mp (none_ ▸ kept.nodeTerms)
    rw [PodSpec.alternatives, none', kept.nodeSelector] at member
    rwa [PodSpec.alternatives, none_]
  · have listed (u : PodSpec) (given : u.requiredNodeTerms ≠ []) :
        u.alternatives = u.requiredNodeTerms.map u.termRequirements := by
      rw [PodSpec.alternatives]
      split
      · contradiction
      · rename_i found
        rw [found]
    rw [listed t (kept.someTerm none_), terms] at member
    rw [listed s none_]
    exact List.map_subset _ kept.nodeTerms.subset member

section Judging

variable {settings : Settings} {pod left : PodSpec}

theorem isDaemonPodCompatible_keepsHard (pair : NodeClaimTemplate × InstanceType) (pod : PodSpec) :
    KeepsHard pod (settings.isDaemonPodCompatible pair pod).2 := by
  rw [Settings.isDaemonPodCompatible]
  split
  · exact pod.tolerant_keepsHard.trans (PodSpec.relaxUntil_keepsHard _)
  · exact pod.tolerant_keepsHard

variable (pairs : List (NodeClaimTemplate × InstanceType))

theorem examined_keepsHard (pod : PodSpec) : KeepsHard pod (settings.examined pairs pod) := by
  induction pairs generalizing pod with
  | nil => exact .refl pod
  | cons pair rest ih => exact (isDaemonPodCompatible_keepsHard pair pod).trans (ih _)

/-- A pod from which terms were removed is judged by those that are left. -/
theorem isDaemonPodCompatible_of_keepsHard (kept : KeepsHard pod left) (pair : NodeClaimTemplate × InstanceType) :
    (settings.isDaemonPodCompatible pair left).1 =
      (toleratesTaints settings.toleratesTaint pair.1.taints (pod.tolerations ++ [preferNoSchedule]) &&
        left.alternatives.any (settings.suits pair.1 pair.2)) := by
  have tolerant := left.tolerant_keepsHard
  obtain ⟨added, extended, soft⟩ := (kept.trans tolerant).tolerations
  have tolerations : ∀ t, t ∈ (left.toleratePreferNoScheduleTaints.getD left).tolerations ↔
      t ∈ pod.tolerations ++ [preferNoSchedule] := by
    intro t
    constructor
    · rw [extended, List.mem_append, List.mem_append, List.mem_singleton]
      exact Or.imp_right (soft t)
    · intro member
      rcases List.mem_append.mp member with own | new
      · rw [extended]
        exact List.mem_append_left _ own
      · rw [List.mem_singleton.mp new]
        exact left.preferNoSchedule_mem_tolerant
  have same : (left.toleratePreferNoScheduleTaints.getD left).alternatives = left.alternatives := by
    rw [PodSpec.toleratePreferNoScheduleTaints]
    split <;> rfl
  rw [Settings.isDaemonPodCompatible, toleratesTaints_congr tolerations]
  split
  · rename_i tolerated
    rw [PodSpec.relaxUntil_answer le_rfl, same, tolerated, Bool.true_and]
  · rename_i refused
    rw [Bool.eq_false_iff.mpr refused, Bool.false_and]

theorem buildDaemonOverheadGroups_left (pods : List PodSpec) :
    (settings.buildDaemonOverheadGroups pairs pods).2 = pods.map (settings.examined pairs) := by
  induction pairs generalizing pods with
  | nil => exact (List.map_id pods).symm
  | cons pair rest ih =>
    rw [Settings.buildDaemonOverheadGroups]
    simp only [ih, List.map_map]
    rfl

/-- The answers are compared pair by pair, each with what the pairs before it left. -/
theorem buildDaemonOverheadGroups_answers_iff
    (before pairs : List (NodeClaimTemplate × InstanceType)) (pods : List PodSpec) :
    (settings.buildDaemonOverheadGroups pairs (pods.map (settings.examined before))).1 =
        pairs.map (fun pair => pods.map (settings.belongs pair)) ↔
      ∀ pod ∈ pods, Trace.Each (fun earlier pair =>
        (settings.isDaemonPodCompatible pair (settings.examined (before ++ earlier) pod)).1 =
          settings.belongs pair pod) pairs := by
  induction pairs generalizing before with
  | nil => simp [Settings.buildDaemonOverheadGroups, Trace.Each]
  | cons first rest ih =>
    have next := ih (before ++ [first])
    have step : pods.map (settings.examined (before ++ [first])) =
        ((pods.map (settings.examined before)).map (settings.isDaemonPodCompatible first)).map (·.2) := by
      simp [Settings.examined, List.foldl_append, Function.comp_def]
    rw [step] at next
    simp only [Settings.buildDaemonOverheadGroups, List.map_cons, List.cons.injEq, next]
    simp only [List.map_map, List.map_inj_left, Function.comp_apply, ← forall₂_and]
    refine forall₂_congr fun pod _ => Iff.trans ?_ (Trace.each_append (l := [first])).symm
    simp only [Trace.each_singleton, List.append_nil, List.append_assoc]

/-- A pod is counted for a pair that it does not belong to in no state, so that only lost terms can matter. -/
theorem isDaemonPodCompatible_eq_belongs_iff (kept : KeepsHard pod left) (pair : NodeClaimTemplate × InstanceType) :
    (settings.isDaemonPodCompatible pair left).1 = settings.belongs pair pod ↔
      (settings.belongs pair pod = true → left.alternatives.any (settings.suits pair.1 pair.2) = true) := by
  have fewer : left.alternatives.any (settings.suits pair.1 pair.2) = true →
      pod.alternatives.any (settings.suits pair.1 pair.2) = true := by
    simp only [List.any_eq_true]
    exact fun ⟨requirements, member, suited⟩ => ⟨requirements, kept.alternatives_subset member, suited⟩
  rw [isDaemonPodCompatible_of_keepsHard kept, Settings.belongs]
  revert fewer
  cases toleratesTaints settings.toleratesTaint pair.1.taints (pod.tolerations ++ [preferNoSchedule]) <;>
    cases left.alternatives.any (settings.suits pair.1 pair.2) <;>
    cases pod.alternatives.any (settings.suits pair.1 pair.2) <;> simp

theorem isDaemonPodCompatibleWithNode_eq_belongsOnNode_iff (kept : KeepsHard pod left) (node : NodeForDaemons) :
    settings.isDaemonPodCompatibleWithNode node left = settings.belongsOnNode node pod ↔
      (settings.belongsOnNode node pod = true →
        (newLabelRequirements node.labels).isCompatible left.newStrictPodRequirements ∅ = true) ∧
      (toleratesTaints settings.toleratesTaint node.taints left.tolerations = true →
        toleratesTaints settings.toleratesTaint node.taints pod.tolerations = false →
        (newLabelRequirements node.labels).isCompatible left.newStrictPodRequirements ∅ = false) := by
  have more : toleratesTaints settings.toleratesTaint node.taints pod.tolerations = true →
      toleratesTaints settings.toleratesTaint node.taints left.tolerations = true := by
    obtain ⟨added, extended, -⟩ := kept.tolerations
    simp only [toleratesTaints, List.all_eq_true, List.any_eq_true, extended]
    intro tolerated taint member
    obtain ⟨t, own, tolerates⟩ := tolerated taint member
    exact ⟨t, List.mem_append_left _ own, tolerates⟩
  have some_ : (newLabelRequirements node.labels).isCompatible left.newStrictPodRequirements ∅ = true →
      pod.alternatives.any ((newLabelRequirements node.labels).isCompatible · ∅) = true :=
    fun fits => List.any_eq_true.mpr ⟨_, kept.alternatives_subset left.newStrictPodRequirements_mem, fits⟩
  rw [Settings.isDaemonPodCompatibleWithNode, Settings.belongsOnNode]
  revert more some_
  cases toleratesTaints settings.toleratesTaint node.taints pod.tolerations <;>
    cases toleratesTaints settings.toleratesTaint node.taints left.tolerations <;>
    cases (newLabelRequirements node.labels).isCompatible left.newStrictPodRequirements ∅ <;>
    cases pod.alternatives.any ((newLabelRequirements node.labels).isCompatible · ∅) <;> simp

end Judging

/-- Daemons are counted where they belong exactly when each pair and each node that a pod belongs on finds, among the
terms that the pairs before left, one that suits, which for a node has to be the first, and when the pod does not
fit a node that it tolerates only by the toleration that was added. -/
theorem judgedOnOriginal_iff (settings : Settings) (templates : List NodeClaimTemplate)
    (nodes : List NodeForDaemons) (pods : List PodSpec) : settings.JudgedOnOriginal templates nodes pods ↔ ∀ pod ∈ pods,
      (∀ earlier pair later, instanceTypePairs templates = earlier ++ pair :: later →
        settings.belongs pair pod = true →
          (settings.examined earlier pod).alternatives.any (settings.suits pair.1 pair.2) = true) ∧
      ∀ node ∈ nodes,
        let left := settings.examined (instanceTypePairs templates) pod
        let fits := (newLabelRequirements node.labels).isCompatible left.newStrictPodRequirements ∅
        (settings.belongsOnNode node pod = true → fits = true) ∧
          (toleratesTaints settings.toleratesTaint node.taints left.tolerations = true →
            toleratesTaints settings.toleratesTaint node.taints pod.tolerations = false → fits = false) := by
  have start : pods.map (settings.examined []) = pods := List.map_id pods
  have answers := @buildDaemonOverheadGroups_answers_iff settings [] (instanceTypePairs templates) pods
  simp only [start, Trace.Each, List.nil_append, isDaemonPodCompatible_eq_belongs_iff (examined_keepsHard _ _)] at answers
  rw [Settings.JudgedOnOriginal, Settings.newScheduler, Prod.mk.injEq, answers, buildDaemonOverheadGroups_left]
  simp only [List.map_map, List.map_inj_left, Function.comp_apply,
    isDaemonPodCompatibleWithNode_eq_belongsOnNode_iff (examined_keepsHard _ _)]
  constructor
  · rintro ⟨pairs, onNodes⟩ pod member
    exact ⟨pairs pod member, fun node listed => onNodes node listed pod member⟩
  · intro all
    exact ⟨fun pod member => (all pod member).1, fun node listed pod member => (all pod member).2 node listed⟩

def zonalTerm (zone : String) : List NodeSelectorRequirement := [⟨"zone", .opIn, [zone]⟩]

def zonalTemplate (zone : String) : NodeClaimTemplate where
  nodePoolName := zone
  requirements := Requirements.newNodeSelectorRequirements (zonalTerm zone)
  instanceTypeOptions := [plainType "small"]

def zonalDaemon : PodSpec := { requiredNodeTerms := [zonalTerm "a", zonalTerm "b"] }

def untainted : Settings := untolerating ∅ "reservation-id"

/-- The daemon runs in either zone. In one order of the templates it is counted for both; in the other it has lost its
first term when the template of that zone is looked at, and then it is not counted for a node there either. -/
theorem daemon_lost_in_first_zone :
    untainted.newScheduler [zonalTemplate "b", zonalTemplate "a"] [{ labels := AList.insert "zone" "a" ∅ }]
        [zonalDaemon] = ([[true], [false]], [[false]]) ∧
      ¬ untainted.JudgedOnOriginal [zonalTemplate "b", zonalTemplate "a"] [] [zonalDaemon] ∧
      untainted.JudgedOnOriginal [zonalTemplate "a", zonalTemplate "b"] [] [zonalDaemon] := by
  unfold Settings.JudgedOnOriginal
  decide +kernel

end Karpenter.Provisioning
