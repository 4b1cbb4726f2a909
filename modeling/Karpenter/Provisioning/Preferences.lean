import Karpenter.Provisioning.NewTopology

/-! The preferences of a pod are given up one at a time while it cannot be placed. An affinity that is not set is one
without terms. The cached requirements of a pod, whose computation sorts its preferences, are left out: the next
relaxation sorts them again. The placement attempts themselves are a parameter. -/
namespace Karpenter.Provisioning

open Go (Map)
open Scheduling

structure Weighted (α : Type) where
  weight : Int
  term : α

structure PodSpec where
  nodeSelector : Map String String := ∅
  requiredNodeTerms : List (List NodeSelectorRequirement) := []
  preferredNodeTerms : List (Weighted (List NodeSelectorRequirement)) := []
  requiredPodAffinity : List PodAffinityTerm := []
  preferredPodAffinity : List (Weighted PodAffinityTerm) := []
  requiredPodAntiAffinity : List PodAffinityTerm := []
  preferredPodAntiAffinity : List (Weighted PodAffinityTerm) := []
  topologySpreadConstraints : List TopologySpreadConstraint := []
  tolerations : List Toleration := []

def preferNoSchedule : Toleration := { operator := "Exists", effect := "PreferNoSchedule" }

/-- Removes the heaviest term; of equal ones the first. -/
def dropHeaviest (terms : List (Weighted α)) : Option (List (Weighted α)) :=
  if terms.isEmpty then none else some (terms.mergeSort fun a b => decide (b.weight ≤ a.weight)).tail

/-- Removes the first element of a kind; the last one takes its place. -/
def swapRemove (kind : α → Bool) : List α → Option (List α)
  | [] => none
  | first :: rest =>
    if kind first then some (rest.getLast?.elim [] (· :: rest.dropLast))
    else (swapRemove kind rest).map (first :: ·)

def TopologySpreadConstraint.isSoft (c : TopologySpreadConstraint) : Bool :=
  decide (c.whenUnsatisfiable = .scheduleAnyway)

namespace PodSpec

variable (s : PodSpec)

/-- All but the last term can be removed. -/
def removeRequiredNodeAffinityTerm : Option PodSpec :=
  match s.requiredNodeTerms with
  | _ :: next :: rest => some { s with requiredNodeTerms := next :: rest }
  | _ => none

def removePreferredPodAffinityTerm : Option PodSpec :=
  (dropHeaviest s.preferredPodAffinity).map fun terms => { s with preferredPodAffinity := terms }

def removePreferredPodAntiAffinityTerm : Option PodSpec :=
  (dropHeaviest s.preferredPodAntiAffinity).map fun terms => { s with preferredPodAntiAffinity := terms }

def removePreferredNodeAffinityTerm : Option PodSpec :=
  (dropHeaviest s.preferredNodeTerms).map fun terms => { s with preferredNodeTerms := terms }

def removeTopologySpreadScheduleAnyway : Option PodSpec :=
  (swapRemove TopologySpreadConstraint.isSoft s.topologySpreadConstraints).map fun constraints =>
    { s with topologySpreadConstraints := constraints }

def toleratePreferNoScheduleTaints : Option PodSpec :=
  if preferNoSchedule ∈ s.tolerations then none
  else some { s with tolerations := s.tolerations ++ [preferNoSchedule] }

/-- How many preferences are left to give up. -/
def slack : Nat :=
  (s.requiredNodeTerms.length - 1) + s.preferredPodAffinity.length + s.preferredPodAntiAffinity.length +
    s.preferredNodeTerms.length + s.topologySpreadConstraints.countP TopologySpreadConstraint.isSoft +
    if preferNoSchedule ∈ s.tolerations then 0 else 1

end PodSpec

structure Preferences where
  toleratePreferNoSchedule : Bool

namespace Preferences

open PodSpec

def relaxations (p : Preferences) : List (PodSpec → Option PodSpec) :=
  [removeRequiredNodeAffinityTerm, removePreferredPodAffinityTerm, removePreferredPodAntiAffinityTerm,
    removePreferredNodeAffinityTerm, removeTopologySpreadScheduleAnyway] ++
    if p.toleratePreferNoSchedule then [toleratePreferNoScheduleTaints] else []

def relax (p : Preferences) (s : PodSpec) : Option PodSpec := p.relaxations.findSome? (· s)

end Preferences

/-- What relaxing keeps of the constraints that a node has to satisfy. -/
structure KeepsHard (s relaxed : PodSpec) : Prop where
  nodeSelector : relaxed.nodeSelector = s.nodeSelector
  podAffinity : relaxed.requiredPodAffinity = s.requiredPodAffinity
  podAntiAffinity : relaxed.requiredPodAntiAffinity = s.requiredPodAntiAffinity
  spread : (relaxed.topologySpreadConstraints.filter (!·.isSoft)).Perm
    (s.topologySpreadConstraints.filter (!·.isSoft))
  nodeTerms : relaxed.requiredNodeTerms <:+ s.requiredNodeTerms
  someTerm : s.requiredNodeTerms ≠ [] → relaxed.requiredNodeTerms ≠ []
  tolerations : ∃ added, relaxed.tolerations = s.tolerations ++ added ∧ ∀ t ∈ added, t = preferNoSchedule

section Steps

variable {s t u : PodSpec} {p : Preferences}

theorem KeepsHard.refl (s : PodSpec) : KeepsHard s s :=
  ⟨rfl, rfl, rfl, .refl _, List.suffix_rfl, id, [], by simp, by simp⟩

theorem KeepsHard.trans (first : KeepsHard s t) (second : KeepsHard t u) : KeepsHard s u := by
  obtain ⟨added, here, soft⟩ := first.tolerations
  obtain ⟨added', here', soft'⟩ := second.tolerations
  refine ⟨second.nodeSelector.trans first.nodeSelector, second.podAffinity.trans first.podAffinity,
    second.podAntiAffinity.trans first.podAntiAffinity, second.spread.trans first.spread,
    second.nodeTerms.trans first.nodeTerms, fun given => second.someTerm (first.someTerm given),
    added ++ added', ?_, ?_⟩
  · rw [here', here, List.append_assoc]
  · intro toleration member
    exact (List.mem_append.mp member).elim (soft toleration) (soft' toleration)

theorem length_dropHeaviest (dropped : dropHeaviest terms = some left) : left.length + 1 = terms.length := by
  rw [dropHeaviest] at dropped
  split at dropped
  · cases dropped
  · rename_i given
    cases dropped
    rw [List.length_tail, List.length_mergeSort]
    have := List.length_pos_of_ne_nil (by simpa using given : terms ≠ [])
    omega

theorem perm_swapRemove (removed : swapRemove kind list = some left) : ∃ x, kind x = true ∧ list.Perm (x :: left) := by
  induction list generalizing left with
  | nil => cases removed
  | cons first rest ih =>
    rw [swapRemove] at removed
    split at removed
    · rename_i found
      cases removed
      refine ⟨first, found, .cons first ?_⟩
      cases last : rest.getLast? with
      | none => rw [List.getLast?_eq_none_iff.mp last, Option.elim_none]
      | some x =>
        rw [Option.elim_some]
        nth_rewrite 1 [← List.dropLast_append_getLast? x last]
        exact List.perm_append_singleton x _
    · obtain ⟨others, later, rfl⟩ := Option.map_eq_some_iff.mp removed
      obtain ⟨x, found, perm⟩ := ih later
      exact ⟨x, found, (perm.cons first).trans (.swap x first others)⟩

/-- Every relaxation gives up one preference and no hard constraint. -/
theorem keepsHard_of_relaxation (listed : relaxation ∈ p.relaxations) (relaxed : relaxation s = some t) :
    KeepsHard s t ∧ t.slack < s.slack := by
  have same := KeepsHard.refl s
  simp only [Preferences.relaxations, List.cons_append, List.nil_append, List.mem_cons] at listed
  rcases listed with rfl | rfl | rfl | rfl | rfl | optional
  · rw [PodSpec.removeRequiredNodeAffinityTerm] at relaxed
    split at relaxed
    · rename_i term next rest terms
      cases relaxed
      refine ⟨{ same with nodeTerms := ?_, someTerm := fun _ => List.cons_ne_nil next rest }, ?_⟩
      · rw [terms]
        exact List.suffix_cons term _
      · simp only [PodSpec.slack, terms, List.length_cons]
        omega
    · cases relaxed
  -- the preferred terms of the three kinds of affinity
  iterate 3
    · obtain ⟨terms, dropped, rfl⟩ := Option.map_eq_some_iff.mp relaxed
      have fewer := length_dropHeaviest dropped
      refine ⟨{ same with }, ?_⟩
      simp only [PodSpec.slack]
      omega
  · obtain ⟨constraints, removed, rfl⟩ := Option.map_eq_some_iff.mp relaxed
    obtain ⟨c, soft, perm⟩ := perm_swapRemove removed
    refine ⟨{ same with spread := ?_ }, ?_⟩
    · have kept := perm.filter (!·.isSoft)
      rw [List.filter_cons_of_neg (by simp [soft])] at kept
      exact kept.symm
    · have fewer := perm.countP_eq TopologySpreadConstraint.isSoft
      rw [List.countP_cons_of_pos soft] at fewer
      simp only [PodSpec.slack]
      omega
  · obtain rfl : relaxation = PodSpec.toleratePreferNoScheduleTaints := by
      split at optional
      · exact List.mem_singleton.mp optional
      · cases optional
    rw [PodSpec.toleratePreferNoScheduleTaints] at relaxed
    split at relaxed
    · cases relaxed
    · rename_i missing
      cases relaxed
      refine ⟨{ same with tolerations := ⟨[preferNoSchedule], rfl, by simp⟩ }, ?_⟩
      simp [PodSpec.slack, missing]

theorem keepsHard_of_relax (relaxed : p.relax s = some t) : KeepsHard s t ∧ t.slack < s.slack := by
  obtain ⟨relaxation, listed, step⟩ := List.exists_of_findSome?_eq_some relaxed
  exact keepsHard_of_relaxation listed step

end Steps

/-- How a placement attempt ends. The loop is left at once when the context is done. -/
inductive PlacementOutcome where
  | placed
  | reservedOffering
  | dynamicResources
  | cancelled
  | failed

structure Tried where
  relaxed : Nat
  pod : PodSpec
  outcome : PlacementOutcome

namespace Preferences

variable (p : Preferences)

/-- The loop over placement attempts, with the number of relaxations made so far. -/
def trySchedule (attempt : Nat → PodSpec → PlacementOutcome) (relaxed : Nat) (s : PodSpec) : Tried :=
  match attempt relaxed s with
  | .failed =>
    match loosened : p.relax s with
    | none => ⟨relaxed, s, .failed⟩
    | some t => trySchedule attempt (relaxed + 1) t
  | outcome => ⟨relaxed, s, outcome⟩
termination_by s.slack
decreasing_by exact (keepsHard_of_relax loosened).2

def relaxTimes : Nat → PodSpec → Option PodSpec
  | 0, s => some s
  | n + 1, s => (p.relax s).bind (relaxTimes n)

variable {p}

theorem keepsHard_of_relaxTimes {s t : PodSpec} (relaxed : p.relaxTimes n s = some t) : n ≤ s.slack ∧ KeepsHard s t := by
  induction n generalizing s with
  | zero =>
    cases relaxed
    exact ⟨Nat.zero_le _, .refl _⟩
  | succ n ih =>
    obtain ⟨next, step, rest⟩ := Option.bind_eq_some_iff.mp relaxed
    obtain ⟨kept, fewer⟩ := keepsHard_of_relax step
    obtain ⟨bound, keptRest⟩ := ih rest
    exact ⟨by omega, kept.trans keptRest⟩

theorem relaxTimes_of_trySchedule (attempt : Nat → PodSpec → PlacementOutcome) (relaxed : Nat) (s : PodSpec) :
    ∃ n, (p.trySchedule attempt relaxed s).relaxed = relaxed + n ∧
      p.relaxTimes n s = some (p.trySchedule attempt relaxed s).pod := by
  fun_induction trySchedule p attempt relaxed s with
  | case1 relaxed s failed stuck => exact ⟨0, rfl, rfl⟩
  | case2 relaxed s failed t loosened ih =>
    obtain ⟨n, count, reached⟩ := ih
    exact ⟨n + 1, by omega, by rw [relaxTimes, loosened, Option.bind_some, reached]⟩
  | case3 relaxed s ended => exact ⟨0, rfl, rfl⟩

end Preferences

/-- The nodes that a spread of the pod counts, as `MakeTopologyNodeFilter` makes them up from its node selector, its
required terms and its tolerations. -/
def PodSpec.nodeFilter (s : PodSpec) (c : TopologySpreadConstraint) : TopologyNodeFilter :=
  makeTopologyNodeFilter
    { pod := { key := ⟨"", ""⟩, tolerations := s.tolerations }
      nodeSelector := s.nodeSelector
      requiredNodeAffinity := if s.requiredNodeTerms.isEmpty then none else some s.requiredNodeTerms }
    (c.nodeTaintsPolicy.getD .ignore) (c.nodeAffinityPolicy.getD .honor)

/-- A node, with what Kubernetes decides about it for the constraints of a pod; a spread depends on the nodes that
count for it. The toleration that relaxing adds tolerates taints of its own effect only. -/
structure NodeView where
  labels : Map String String
  taints : List Taint
  matches_ : NodeSelectorRequirement → Bool
  toleratesTaint : Toleration → Taint → Bool
  affinity : PodAffinityTerm → Prop
  antiAffinity : PodAffinityTerm → Prop
  spread : TopologySpreadConstraint → (List Taint → Requirements → Bool) → Prop
  prefers : ∀ taint, toleratesTaint preferNoSchedule taint = true → taint.effect = "PreferNoSchedule"

structure NodeView.SatisfiesHard (node : NodeView) (s : PodSpec) : Prop where
  nodeSelector : ∀ key value, s.nodeSelector.lookup key = some value → node.labels.lookup key = some value
  nodeTerms : s.requiredNodeTerms = [] ∨
    ∃ term ∈ s.requiredNodeTerms, ∀ expression ∈ term, node.matches_ expression = true
  tolerates : ∀ taint ∈ node.taints, taint.effect ≠ "PreferNoSchedule" →
    ∃ t ∈ s.tolerations, node.toleratesTaint t taint = true
  affinity : ∀ term ∈ s.requiredPodAffinity, node.affinity term
  antiAffinity : ∀ term ∈ s.requiredPodAntiAffinity, node.antiAffinity term
  spread : ∀ c ∈ s.topologySpreadConstraints, c.isSoft = false →
    node.spread c ((s.nodeFilter c).matches_ node.toleratesTaint)

/-- What relaxing gives up does not decide which nodes a hard spread of the pod counts: it ignores affinities or
there is only one term, and it ignores taints or the toleration is there already. -/
def PodSpec.CountsApart (s : PodSpec) : Prop :=
  ∀ c ∈ s.topologySpreadConstraints, c.isSoft = false →
    (c.nodeAffinityPolicy = some .ignore ∨ s.requiredNodeTerms.length ≤ 1) ∧
      (c.nodeTaintsPolicy ≠ some .honor ∨ preferNoSchedule ∈ s.tolerations)

section Satisfying

variable {s relaxed : PodSpec} (kept : KeepsHard s relaxed)
include kept

theorem KeepsHard.nodeTerms_eq (one : s.requiredNodeTerms.length ≤ 1) :
    relaxed.requiredNodeTerms = s.requiredNodeTerms := by
  apply kept.nodeTerms.eq_of_length_le
  by_cases none_ : s.requiredNodeTerms = []
  · simp [none_]
  · exact one.trans (List.length_pos_of_ne_nil (kept.someTerm none_))

theorem KeepsHard.matches_eq (apart : s.CountsApart) (member : c ∈ s.topologySpreadConstraints)
    (hard : c.isSoft = false) (toleratesTaint : Toleration → Taint → Bool) :
    (relaxed.nodeFilter c).matches_ toleratesTaint = (s.nodeFilter c).matches_ toleratesTaint := by
  obtain ⟨affinity, taints⟩ := apart c member hard
  obtain ⟨added, extended, soft⟩ := kept.tolerations
  funext nodeTaints requirements
  simp only [TopologyNodeFilter.matches_, PodSpec.nodeFilter, makeTopologyNodeFilter]
  congr 1
  · rcases affinity with ignored | one
    · simp [ignored]
    · rw [kept.nodeTerms_eq one, kept.nodeSelector]
      rfl
  · rcases taints with ignored | there
    · have policy : c.nodeTaintsPolicy.getD .ignore ≠ .honor := by
        cases given : c.nodeTaintsPolicy with
        | none => nofun
        | some policy => exact fun same => ignored (given.trans (congrArg some same))
      simp [policy]
    · congr 1
      apply toleratesTaints_congr
      intro t
      rw [extended, List.mem_append]
      exact ⟨fun listed => listed.elim id fun new => soft t new ▸ there, .inl⟩

theorem KeepsHard.satisfiesHard (apart : s.CountsApart) {node : NodeView} (satisfied : node.SatisfiesHard relaxed) :
    node.SatisfiesHard s where
  nodeSelector := kept.nodeSelector ▸ satisfied.nodeSelector
  nodeTerms := by
    by_cases none_ : s.requiredNodeTerms = []
    · exact .inl none_
    · obtain ⟨term, member, matched⟩ := satisfied.nodeTerms.resolve_left (kept.someTerm none_)
      exact .inr ⟨term, kept.nodeTerms.subset member, matched⟩
  tolerates := by
    intro taint member hard
    obtain ⟨added, extended, soft⟩ := kept.tolerations
    obtain ⟨t, listed, tolerated⟩ := satisfied.tolerates taint member hard
    rw [extended] at listed
    rcases List.mem_append.mp listed with own | new
    · exact ⟨t, own, tolerated⟩
    · rw [soft t new] at tolerated
      exact absurd (node.prefers taint tolerated) hard
  affinity := kept.podAffinity ▸ satisfied.affinity
  antiAffinity := kept.podAntiAffinity ▸ satisfied.antiAffinity
  spread := by
    intro c member hard
    have listed := kept.spread.mem_iff.mpr (List.mem_filter.mpr ⟨member, by simp [hard]⟩)
    rw [← kept.matches_eq apart member hard]
    exact satisfied.spread c (List.mem_filter.mp listed).1 hard

end Satisfying

/-- The loop relaxes a pod at most as often as it has preferences, and whatever it has given up, the pod keeps the
hard constraints it had. A node for the relaxed pod is one for the original if the hard spreads count the same
nodes for both. -/
theorem relaxing_keeps_hard_constraints (p : Preferences) (s : PodSpec) :
    (∀ attempt, (p.trySchedule attempt 0 s).relaxed ≤ s.slack ∧
      p.relaxTimes (p.trySchedule attempt 0 s).relaxed s = some (p.trySchedule attempt 0 s).pod) ∧
    ∀ n relaxed, p.relaxTimes n s = some relaxed → n ≤ s.slack ∧ KeepsHard s relaxed ∧
      (s.CountsApart → ∀ node : NodeView, node.SatisfiesHard relaxed → node.SatisfiesHard s) := by
  refine ⟨?_, ?_⟩
  · intro attempt
    obtain ⟨n, count, reached⟩ := Preferences.relaxTimes_of_trySchedule attempt 0 s
    rw [count, Nat.zero_add]
    exact ⟨(Preferences.keepsHard_of_relaxTimes reached).1, reached⟩
  · intro n relaxed reached
    obtain ⟨bound, kept⟩ := Preferences.keepsHard_of_relaxTimes reached
    exact ⟨bound, kept, fun apart node => kept.satisfiesHard apart⟩

/-- A pod for either of two zones that is spread over racks. -/
def rackPod : PodSpec where
  requiredNodeTerms := [[⟨"zone", .opIn, ["a"]⟩], [⟨"zone", .opIn, ["b"]⟩]]
  topologySpreadConstraints := [⟨1, "rack", .doNotSchedule, none, none, none, none, []⟩]

/-- A node of zone `b` in a rack that reaches into zone `a`, where it has one pod on another node already. There is
a rack without pods, so that the next pod may only go to a rack without pods that count. -/
def rackNode : NodeView where
  labels := Map.ofList [("zone", "b"), ("rack", "one")]
  taints := []
  matches_ r := decide (r.key = "zone" ∧ "b" ∈ r.values)
  toleratesTaint _ _ := false
  affinity _ := True
  antiAffinity _ := True
  spread c counts := (if counts [] (Requirements.newLabelRequirements (Map.ofList [("zone", "a"), ("rack", "one")]))
    then 2 else 1) ≤ c.maxSkew
  prefers := nofun

/-- Once the first term is given up, the pod in zone `a` does not count any more: the node suits the relaxed pod and
exceeds the skew of the original. -/
theorem relaxing_widens_spread : ∃ relaxed, Preferences.relax ⟨false⟩ rackPod = some relaxed ∧
    rackNode.SatisfiesHard relaxed ∧ ¬ rackNode.SatisfiesHard rackPod := by
  refine ⟨_, rfl, ⟨nofun, .inr ⟨_, List.mem_singleton_self _, by decide⟩, nofun, nofun, nofun, ?_⟩, fun original => ?_⟩
  · intro c member _
    cases List.mem_singleton.mp member
    show (if _ then (2 : Int) else 1) ≤ 1
    rw [if_neg (by decide +kernel)]
  · have skew : (if _ then (2 : Int) else 1) ≤ 1 := original.spread _ (List.mem_singleton_self _) rfl
    rw [if_pos (by decide +kernel)] at skew
    exact absurd skew (by decide)

end Karpenter.Provisioning
