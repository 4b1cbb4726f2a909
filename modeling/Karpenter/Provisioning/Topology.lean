import Karpenter.Provisioning.TopologyGroup

/-! The topology constraints of one scheduling loop. A group is stored under its hash and shared by all pods
whose constraints have that hash: the groups of the pods' own constraints, which count the pods they select, and
the inverse groups of anti-affinities, which count their owners. The order in which groups are combined does
not change what the combined requirements admit and is fixed here. -/
namespace Karpenter.Provisioning

open Go (Map RangeOrder)
open Scheduling

structure Topology where
  topologyGroups : Map UInt64 TopologyGroup := ∅
  inverseTopologyGroups : Map UInt64 TopologyGroup := ∅

structure TopologyError where
  topology : TopologyGroup
  podDomains : Requirement
  nodeDomains : Requirement

/-- The part of a placed pod's node that a group counts: all domains that are still open for an anti-affinity,
otherwise the domain of the node once it is the only one. -/
def TopologyGroup.recordFor (t : TopologyGroup) (order : RangeOrder String) (requirements : Requirements) :
    TopologyGroup :=
  let domains := requirements.get t.key
  if t.type = .podAntiAffinity then t.record (order.visit domains.values)
  else if domains.len = 1 then t.record ((order.visit domains.values).take 1)
  else t

theorem TopologyGroup.recordFor_sameRule (t : TopologyGroup) (order : RangeOrder String)
    (requirements : Requirements) : (t.recordFor order requirements).SameRule t := by
  unfold TopologyGroup.recordFor
  dsimp only
  repeat' split
  · exact t.record_sameRule _
  · exact t.record_sameRule _
  · exact .refl t

theorem TopologyGroup.recordFor_single {t : TopologyGroup} {order : RangeOrder String} {requirements : Requirements}
    (kind : t.type ≠ .podAntiAffinity) (single : (requirements.get t.key).Single domain) :
    t.recordFor order requirements = t.record [domain] := by
  have one : (requirements.get t.key).len = 1 := by
    rw [Requirement.len, single.1, single.2]
    rfl
  rw [TopologyGroup.recordFor, if_neg kind, if_pos one, single.2, RangeOrder.visit_singleton]
  rfl

namespace Topology

/-- A group with the hash it is stored under. -/
abbrev Entry := Sigma fun _ : UInt64 => TopologyGroup

variable (toleratesTaint : Toleration → Taint → Bool)

/-- The groups the pod owns, and the inverse groups that select it. -/
def getMatchingTopologies (t : Topology) (pod : Pod) (taints : List Taint) (requirements : Requirements) :
    List Entry :=
  (t.topologyGroups.entries.filter fun entry => entry.2.isOwnedBy pod.uid) ++
    t.inverseTopologyGroups.entries.filter fun entry => entry.2.counts toleratesTaint pod taints requirements

/-- What a group asks of the node. -/
def domainsFor (orders : UInt64 → TopologyGroup.Orders) (pod : Pod)
    (podRequirements nodeRequirements : Requirements) (entry : Entry) : Requirement :=
  (entry.2.get (orders entry.1) pod (podRequirements.get entry.2.key) (nodeRequirements.get entry.2.key)).1

def addDomains (orders : UInt64 → TopologyGroup.Orders) (pod : Pod)
    (podRequirements nodeRequirements : Requirements) :
    List Entry → Requirements → Except TopologyError Requirements
  | [], requirements => .ok requirements
  | entry :: rest, requirements =>
    let domains := domainsFor orders pod podRequirements nodeRequirements entry
    if domains.len = 0 then
      .error ⟨entry.2, podRequirements.get entry.2.key, nodeRequirements.get entry.2.key⟩
    else addDomains orders pod podRequirements nodeRequirements rest (requirements.addOne domains)

/-- The requirements of the node with what every matching group asks of it. Each group is asked about the node
as it came in, not about what the groups before it left over. -/
def addRequirements (t : Topology) (orders : UInt64 → TopologyGroup.Orders) (pod : Pod) (taints : List Taint)
    (podRequirements nodeRequirements : Requirements) : Except TopologyError Requirements :=
  addDomains orders pod podRequirements nodeRequirements
    (t.getMatchingTopologies toleratesTaint pod taints nodeRequirements)
    (Requirements.newRequirements nodeRequirements.values)

/-- Placing the pod on a node with these requirements. -/
def record (t : Topology) (order : RangeOrder String) (pod : Pod) (taints : List Taint)
    (requirements : Requirements) : Topology where
  topologyGroups := t.topologyGroups.mapValues fun _ tg =>
    if tg.counts toleratesTaint pod taints requirements then tg.recordFor order requirements else tg
  inverseTopologyGroups := t.inverseTopologyGroups.mapValues fun _ tg =>
    if tg.isOwnedBy pod.uid then tg.record (order.visit (requirements.get tg.key).values) else tg

def register (t : Topology) (topologyKey domain : String) : Topology where
  topologyGroups := t.topologyGroups.mapValues fun _ tg =>
    if tg.key = topologyKey then tg.register domain else tg
  inverseTopologyGroups := t.inverseTopologyGroups.mapValues fun _ tg =>
    if tg.key = topologyKey then tg.register domain else tg

/-- The constraints apart from one group. -/
def without (t : Topology) (id : UInt64) : Topology := { t with topologyGroups := t.topologyGroups.erase id }

section Requirements

variable {toleratesTaint} {t : Topology} {pod : Pod} {podRequirements nodeRequirements added : Requirements}

theorem mem_getMatchingTopologies : entry ∈ t.getMatchingTopologies toleratesTaint pod taints nodeRequirements ↔
      (t.topologyGroups.lookup entry.1 = some entry.2 ∧ entry.2.isOwnedBy pod.uid = true) ∨
      (t.inverseTopologyGroups.lookup entry.1 = some entry.2 ∧
        entry.2.counts toleratesTaint pod taints nodeRequirements = true) := by
  rw [getMatchingTopologies, List.mem_append, List.mem_filter, List.mem_filter, ← Map.mem_entries_iff,
    ← Map.mem_entries_iff]

/-- The groups of an owner are the owned one and the others. -/
theorem mem_matching_of_owned {id : UInt64} (found : t.topologyGroups.lookup id = some tg)
    (owned : tg.isOwnedBy pod.uid = true) : entry ∈ t.getMatchingTopologies toleratesTaint pod taints nodeRequirements ↔
      entry = ⟨id, tg⟩ ∨ entry ∈ (t.without id).getMatchingTopologies toleratesTaint pod taints nodeRequirements := by
  rw [mem_getMatchingTopologies, mem_getMatchingTopologies, without, Map.lookup_erase_eq]
  obtain ⟨hash, group⟩ := entry
  by_cases same : hash = id
  · subst same
    simp only [found, Option.some.injEq, if_true, Sigma.mk.injEq, heq_eq_eq, true_and, reduceCtorEq, false_and,
      false_or]
    refine or_congr_left ⟨fun ⟨equal, _⟩ => equal.symm, fun equal => ?_⟩
    subst equal
    exact ⟨rfl, owned⟩
  · simp only [Sigma.mk.injEq, same, false_and, false_or, if_false]

theorem addDomains_ok {entries : List Entry} {requirements : Requirements}
    (ok : addDomains orders pod podRequirements nodeRequirements entries requirements = .ok added) :
    added = requirements.add (entries.map (domainsFor orders pod podRequirements nodeRequirements)) := by
  induction entries generalizing requirements with
  | nil =>
    cases ok
    rfl
  | cons entry rest ih =>
    unfold addDomains at ok
    dsimp only at ok
    split at ok
    · cases ok
    · exact ih ok

/-- The node with the topology requirements admits what the node and every matching group admit. -/
theorem addRequirements_has
    (ok : t.addRequirements toleratesTaint orders pod taints podRequirements nodeRequirements = .ok added)
    (key value : String) : ((nodeRequirements.add added.values).get key).has value = true ↔
      (nodeRequirements.get key).has value = true ∧
        ∀ entry ∈ t.getMatchingTopologies toleratesTaint pod taints nodeRequirements,
          normalizeKey entry.2.key = key →
            (domainsFor orders pod podRequirements nodeRequirements entry).has value = true := by
  have keyed : ∀ entry, (domainsFor orders pod podRequirements nodeRequirements entry).key =
      normalizeKey entry.2.key := by
    intro entry
    obtain ⟨values, same⟩ := entry.2.get_eq_options (orders entry.1) pod (podRequirements.get entry.2.key)
      (nodeRequirements.get entry.2.key)
    rw [domainsFor, same, TopologyGroup.key_options]
  rw [Requirements.has_get_add_values, addDomains_ok ok, Requirements.has_get_add,
    Requirements.has_get_newRequirements_values, ← and_assoc, and_self, List.forall_mem_map]
  simp only [keyed]

/-- A key that some matching group constrains ends up with a list of values. -/
theorem addRequirements_concrete
    (ok : t.addRequirements toleratesTaint orders pod taints podRequirements nodeRequirements = .ok added)
    (member : entry ∈ t.getMatchingTopologies toleratesTaint pod taints nodeRequirements) :
    ((nodeRequirements.add added.values).get (normalizeKey entry.2.key)).complement = false := by
  rw [Bool.eq_false_iff]
  intro kind
  obtain ⟨-, both⟩ := Requirements.complement_get_add_values _ _ _ kind
  rw [addDomains_ok ok] at both
  obtain ⟨values, same⟩ := entry.2.get_eq_options (orders entry.1) pod (podRequirements.get entry.2.key)
    (nodeRequirements.get entry.2.key)
  have listed : domainsFor orders pod podRequirements nodeRequirements entry = entry.2.options values := same
  have open_ := (Requirements.complement_get_add _ _ _ both).2 _ (List.mem_map_of_mem member)
  rw [listed] at open_
  exact absurd (open_ rfl) (by simp)

end Requirements

section Recording

variable {toleratesTaint} (t : Topology) (order : RangeOrder String) (pod : Pod) (taints : List Taint)
  (requirements : Requirements) (id : UInt64)

theorem lookup_record : (t.record toleratesTaint order pod taints requirements).topologyGroups.lookup id =
    (t.topologyGroups.lookup id).map fun tg =>
      if tg.counts toleratesTaint pod taints requirements then tg.recordFor order requirements else tg := by
  rw [record, Map.lookup_mapValues]

theorem lookup_register (topologyKey domain : String) : (t.register topologyKey domain).topologyGroups.lookup id =
    (t.topologyGroups.lookup id).map fun tg => if tg.key = topologyKey then tg.register domain else tg := by
  rw [register, Map.lookup_mapValues]

end Recording

end Topology

end Karpenter.Provisioning
