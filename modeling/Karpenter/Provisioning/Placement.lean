import Karpenter.Provisioning.ExistingNode
import Karpenter.Provisioning.Topology

/-! Placements as the topology sees them. What receives a pod is a host: an existing node, or a NodeClaim of the
loop, which is there from the start and empty until its first pod. A placement narrows the host by the pod's own
requirements, its volumes and its devices, then by the topology, and is recorded. Any other check may only refuse
a pod, and a refused pod leaves no trace. -/
namespace Karpenter.Provisioning

open Go (Map RangeOrder)
open CloudProvider
open Scheduling

inductive HostKind where
  | nodeClaim (hostname : String)
  | existingNode

structure Host where
  kind : HostKind
  taints : List Taint := []
  requirements : Requirements
  pods : List Pod := []

/-- A pod to place. The requirements of the pod are the strict ones; `narrowing` is what else narrows the host
before the topology is asked, and `relaxed` the minimums that are lowered afterwards. -/
structure PodPlacement where
  pod : Pod
  podRequirements : Requirements
  narrowing : List Requirements
  orders : UInt64 → TopologyGroup.Orders
  recordOrder : RangeOrder String
  relaxed : Map String Nat := ∅

namespace Host

variable (settings : Settings)

/-- The labels that may be undefined: none on a node that is there. -/
def allowUndefined (h : Host) : Finset String :=
  match h.kind with
  | .nodeClaim _ => settings.wellKnownLabels
  | .existingNode => ∅

/-- A NodeClaim works on a copy of its requirements. -/
def base (h : Host) : Requirements :=
  match h.kind with
  | .nodeClaim _ => Requirements.newRequirements h.requirements.values
  | .existingNode => h.requirements

/-- The requirements of the host that the topology is asked about. -/
def narrowFor (h : Host) (p : PodPlacement) : Option Requirements :=
  tightenEach (h.allowUndefined settings) h.base p.narrowing

/-- The topology once the host is known to it; an existing node has been announced before. -/
def announce (h : Host) (t : Topology) : Topology :=
  match h.kind with
  | .nodeClaim hostname => t.register labelHostname hostname
  | .existingNode => t

/-- The requirements the host has with the pod on it. -/
def requirementsWith (h : Host) (t : Topology) (p : PodPlacement) : Option Requirements :=
  match h.narrowFor settings p with
  | none => none
  | some narrowed =>
    match t.addRequirements settings.toleratesTaint p.orders p.pod h.taints p.podRequirements narrowed with
    | .error _ => none
    | .ok added =>
      if narrowed.isCompatible added (h.allowUndefined settings) then
        some (relaxMinimums (narrowed.add added.values) p.relaxed)
      else none

end Host

structure Simulation where
  topology : Topology
  hosts : List Host

namespace Simulation

variable (settings : Settings)

def place (s : Simulation) (index : Nat) (h : Host) (p : PodPlacement) (requirements : Requirements) : Simulation where
  topology := (h.announce s.topology).record settings.toleratesTaint p.recordOrder p.pod h.taints requirements
  hosts := s.hosts.set index { h with requirements := requirements, pods := h.pods ++ [p.pod] }

/-- The host that a placement goes to and its requirements afterwards, unless the pod is refused. -/
def accepts (s : Simulation) (index : Nat) (p : PodPlacement) : Option (Host × Requirements) :=
  match s.hosts[index]? with
  | none => none
  | some h => (h.requirementsWith settings s.topology p).map fun requirements => (h, requirements)

def step (s : Simulation) (attempt : Nat × PodPlacement) : Simulation :=
  match s.accepts settings attempt.1 attempt.2 with
  | none => s
  | some (h, requirements) => s.place settings attempt.1 h attempt.2 requirements

def run (s : Simulation) (attempts : List (Nat × PodPlacement)) : Simulation := attempts.foldl (step settings) s

end Simulation

theorem SameValues.get (same : SameValues r s) (key : String) :
    forgetMinimum (r.get key) = forgetMinimum (s.get key) := by
  have stored := same key
  unfold Requirements.get
  cases left : r.get? key <;> cases right : s.get? key <;> simp_all

theorem SameValues.has_get (same : SameValues r s) (key value : String) :
    (r.get key).has value = (s.get key).has value := by
  have both := congrArg (Requirement.has · value) (same.get key)
  exact both

theorem SameValues.complement_get (same : SameValues r s) (key : String) :
    (r.get key).complement = (s.get key).complement := by
  have both := congrArg Requirement.complement (same.get key)
  exact both

theorem tightenEach_spec (ok : tightenEach allowUndefined requirements each = some tightened) (key : String) :
    (∀ value, (tightened.get key).has value = true → (requirements.get key).has value = true) ∧
      ((requirements.get key).complement = false → (tightened.get key).complement = false) := by
  induction each generalizing requirements with
  | nil =>
    cases ok
    exact ⟨fun _ => id, id⟩
  | cons added rest ih =>
    obtain ⟨fewer, listed⟩ := ih (tightenEach_cons.mp ok).2
    refine ⟨fun value admitted => ?_, fun kind => listed ?_⟩
    · exact ((Requirements.has_get_add_values requirements key value added).mp (fewer value admitted)).1
    · rw [Bool.eq_false_iff] at kind ⊢
      exact fun kept => kind (Requirements.complement_get_add_values requirements key added kept).1

theorem Host.base_spec (h : Host) (key : String) :
    (∀ value, (h.base.get key).has value = true → (h.requirements.get key).has value = true) ∧
      ((h.requirements.get key).complement = false → (h.base.get key).complement = false) := by
  unfold Host.base
  split
  · refine ⟨fun value => (Requirements.has_get_newRequirements_values h.requirements key value).mp, fun kind => ?_⟩
    rw [Bool.eq_false_iff] at kind ⊢
    exact fun kept => kind (Requirements.complement_get_add_values _ key _ kept).2
  · exact ⟨fun _ => id, id⟩

theorem Host.narrowFor_spec {settings : Settings} {h : Host} (ok : h.narrowFor settings p = some narrowed)
    (key : String) : (∀ value, (narrowed.get key).has value = true → (h.requirements.get key).has value = true) ∧
      ((h.requirements.get key).complement = false → (narrowed.get key).complement = false) := by
  obtain ⟨fewer, listed⟩ := tightenEach_spec ok key
  obtain ⟨copied, copiedKind⟩ := h.base_spec key
  exact ⟨fun value admitted => copied value (fewer value admitted), fun kind => listed (copiedKind kind)⟩

namespace Simulation

variable {settings : Settings}

/-- A placement that went through: the host it went to, what it left of the host before the topology was
asked, and what the host admits afterwards. -/
structure Accepted (settings : Settings) (s : Simulation) (index : Nat) (p : PodPlacement) (h : Host)
    (narrowed requirements : Requirements) : Prop where
  host : s.hosts[index]? = some h
  narrowing : h.narrowFor settings p = some narrowed
  has_iff : ∀ key value, (requirements.get key).has value = true ↔
    (narrowed.get key).has value = true ∧
      ∀ entry ∈ s.topology.getMatchingTopologies settings.toleratesTaint p.pod h.taints narrowed,
        normalizeKey entry.2.key = key →
          (Topology.domainsFor p.orders p.pod p.podRequirements narrowed entry).has value = true
  listed : ∀ entry ∈ s.topology.getMatchingTopologies settings.toleratesTaint p.pod h.taints narrowed,
    (requirements.get (normalizeKey entry.2.key)).complement = false
  kept : ∀ key, (h.requirements.get key).complement = false → (requirements.get key).complement = false

theorem accepts_spec {s : Simulation} (ok : s.accepts settings index p = some (h, requirements)) :
    ∃ narrowed, Accepted settings s index p h narrowed requirements := by
  unfold accepts at ok
  split at ok
  · cases ok
  rename_i found here
  obtain ⟨left, with_, pair⟩ := Option.map_eq_some_iff.mp ok
  cases pair
  unfold Host.requirementsWith at with_
  split at with_
  · cases with_
  rename_i narrowed narrowing
  split at with_
  · cases with_
  rename_i added asked
  split at with_
  · cases with_
    have same := sameValues_relaxMinimums (narrowed.add added.values) p.relaxed
    refine ⟨narrowed, here, narrowing, fun key value => ?_, fun entry member => ?_, fun key kind => ?_⟩
    · rw [same.has_get]
      exact Topology.addRequirements_has asked key value
    · rw [same.complement_get]
      exact Topology.addRequirements_concrete asked member
    · rw [same.complement_get, Bool.eq_false_iff]
      intro open_
      have before := (h.narrowFor_spec narrowing key).2 kind
      exact absurd (Requirements.complement_get_add_values narrowed key added open_).1 (by simp [before])
  · cases with_

theorem step_cases (s : Simulation) (attempt : Nat × PodPlacement) :
    s.step settings attempt = s ∨ ∃ h narrowed requirements,
      Accepted settings s attempt.1 attempt.2 h narrowed requirements ∧
        s.step settings attempt = s.place settings attempt.1 h attempt.2 requirements := by
  unfold step
  split
  · exact .inl rfl
  · rename_i h requirements ok
    obtain ⟨narrowed, accepted⟩ := accepts_spec ok
    exact .inr ⟨h, narrowed, requirements, accepted, rfl⟩

/-- The owner of a constraint that it is itself selected by, with the given domains. -/
structure SelfSelecting (g : TopologyGroup) (podDomains : Requirement) (p : PodPlacement) : Prop where
  owned : g.isOwnedBy p.pod.uid = true
  selected : g.selects p.pod = true
  admits : ∀ domain, (p.podRequirements.get g.key).has domain = podDomains.has domain

/-- One constraint through a run: the same rule, stored under the same hash. -/
structure Follows (g tg : TopologyGroup) (id : UInt64) (s : Simulation) : Prop where
  found : s.topology.topologyGroups.lookup id = some tg
  same : tg.SameRule g

theorem lookup_announce {h : Host} {t : Topology} {id : UInt64} {tg : TopologyGroup}
    (found : t.topologyGroups.lookup id = some tg) (elsewhere : tg.key ≠ labelHostname) :
    (h.announce t).topologyGroups.lookup id = some tg := by
  unfold Host.announce
  split
  · rw [Topology.lookup_register, found, Option.map_some, if_neg elsewhere]
  · exact found

section Following

variable {g tg : TopologyGroup} {id : UInt64} {s : Simulation}

theorem lookup_place {index : Nat} {h : Host} {p : PodPlacement} (elsewhere : g.key ≠ labelHostname)
    (follows : Follows g tg id s) : (s.place settings index h p requirements).topology.topologyGroups.lookup id =
      some (if tg.counts settings.toleratesTaint p.pod h.taints requirements then
        tg.recordFor p.recordOrder requirements else tg) := by
  rw [place, Topology.lookup_record, lookup_announce follows.found (follows.same.key ▸ elsewhere),
    Option.map_some]

theorem Follows.step (elsewhere : g.key ≠ labelHostname) (follows : Follows g tg id s) (attempt : Nat × PodPlacement) :
    ∃ after, Follows g after id (s.step settings attempt) := by
  rcases @step_cases settings s attempt with same | ⟨h, narrowed, requirements, -, same⟩
  · exact ⟨tg, by rw [same]; exact follows⟩
  · refine ⟨_, by rw [same]; exact lookup_place elsewhere follows, ?_⟩
    split
    · exact (tg.recordFor_sameRule _ _).trans follows.same
    · exact follows.same

theorem run_concat (s : Simulation) (done : List (Nat × PodPlacement)) (next : Nat × PodPlacement) :
    s.run settings (done ++ [next]) = (s.run settings done).step settings next :=
  List.foldl_concat ..

theorem Follows.run (elsewhere : g.key ≠ labelHostname) (follows : Follows g tg id s)
    (attempts : List (Nat × PodPlacement)) : ∃ after, Follows g after id (s.run settings attempts) := by
  induction attempts using List.reverseRecOn with
  | nil => exact ⟨tg, follows⟩
  | append_singleton done next ih =>
    obtain ⟨before, kept⟩ := ih
    rw [run_concat]
    exact kept.step elsewhere next

end Following

/-- The host keeps its pods and admits nothing that it did not admit before. -/
structure Narrowed (h h' : Host) : Prop where
  pods : h.pods <+: h'.pods
  taints : h'.taints = h.taints
  has : ∀ key value, (h'.requirements.get key).has value = true → (h.requirements.get key).has value = true

/-- In every run of placements, accepted or not, each host is only narrowed. -/
theorem run_narrows (s : Simulation) (attempts : List (Nat × PodPlacement)) :
    List.Forall₂ Narrowed s.hosts (s.run settings attempts).hosts := by
  induction attempts using List.reverseRecOn with
  | nil => exact List.forall₂_same.mpr fun h _ => ⟨List.prefix_rfl, rfl, fun _ _ => id⟩
  | append_singleton done next ih =>
    rw [run_concat]
    obtain same | ⟨h, narrowed, requirements, accepted, same⟩ := @step_cases settings (s.run settings done) next
    · rwa [same]
    · obtain ⟨lengths, each⟩ := List.forall₂_iff_get.mp ih
      rw [same, List.forall₂_iff_get]
      refine ⟨by simpa [place] using lengths, fun i first last => ?_⟩
      have before := each i first (lengths ▸ first)
      simp only [place, List.get_eq_getElem, List.getElem_set]
      split
      · rename_i here
        obtain ⟨_, rfl⟩ := List.getElem?_eq_some_iff.mp (here ▸ accepted.host)
        refine ⟨before.pods.trans (List.prefix_append _ _), before.taints, fun key value admitted => ?_⟩
        have narrower := ((accepted.has_iff key value).mp admitted).1
        exact before.has key value ((Host.narrowFor_spec accepted.narrowing key).1 value narrower)
      · exact before

end Simulation

/-! The two kinds of host are the NodeClaims and the existing nodes of the loop: whatever they accept is a
placement on them. -/
section Refinement

def TopologyType.text : TopologyType → String
  | .spread => "topology spread"
  | .podAffinity => "pod affinity"
  | .podAntiAffinity => "pod anti-affinity"

/-- The beginning of the text; the counts and the two requirements that follow it are left out. -/
def TopologyError.text (e : TopologyError) : String :=
  "unsatisfiable topology constraint for " ++ e.topology.type.text ++ ", key=" ++ e.topology.key

/-- The topology as one call sees it, with an order for every time it is asked. -/
def Topology.answer (settings : Settings) (t : Topology) (orders : Requirements → UInt64 → TopologyGroup.Orders)
    (pod : Pod) (taints : List Taint) (podRequirements nodeRequirements : Requirements) : Except String Requirements :=
  match t.addRequirements settings.toleratesTaint (orders nodeRequirements) pod taints podRequirements
      nodeRequirements with
  | .error err => .error err.text
  | .ok added => .ok added

def NodeClaim.toHost (n : NodeClaim) : Host where
  kind := .nodeClaim n.hostname
  taints := n.taints
  requirements := n.requirements
  pods := n.pods

def ExistingNode.toHost (n : ExistingNode) : Host where
  kind := .existingNode
  taints := n.cachedTaints
  requirements := n.requirements
  pods := n.pods

variable {settings : Settings} {t : Topology} {orders : Requirements → UInt64 → TopologyGroup.Orders}
  {allocate : Option (Requirements → Except String DynamicResources.AllocationResult)} {pod : Pod}
  {taints : List Taint} {podData : PodData} {volumes : Volumes}

theorem Topology.answer_ok (ok : t.answer settings orders pod taints podRequirements nodeRequirements = .ok added) :
    t.addRequirements settings.toleratesTaint (orders nodeRequirements) pod taints podRequirements nodeRequirements =
      .ok added := by
  unfold Topology.answer at ok
  split at ok
  · cases ok
  · rename_i asked
    cases ok
    exact asked

/-- The topology agrees to what the placement narrows the host to. -/
theorem Host.requirementsWith_ok {h : Host} (narrowing : h.narrowFor settings p = some narrowed)
    (asked : t.addRequirements settings.toleratesTaint p.orders p.pod h.taints p.podRequirements narrowed = .ok added)
    (topology : tightenEach (h.allowUndefined settings) narrowed [added] = some tightened) :
    h.requirementsWith settings t p = some (relaxMinimums tightened p.relaxed) := by
  obtain ⟨compatible, same⟩ := tightenEach_cons.mp topology
  obtain rfl := Option.some.inj same
  simp only [Host.requirementsWith, narrowing, asked, compatible, if_true]

theorem NodeClaim.canAdd_placement {n : NodeClaim} {rm : ReservationManager} {relaxMinValues : Bool}
    {result : CanAddResult} (order : RangeOrder String)
    (ok : n.canAdd settings rm ⟨t.answer settings orders, allocate⟩ pod podData volumes relaxMinValues =
      some (.ok result)) : ∃ p : PodPlacement, p.pod = pod ∧ p.podRequirements = podData.strictRequirements ∧
      podData.requirements ∈ p.narrowing ∧ p.recordOrder = order ∧
      n.toHost.requirementsWith settings t p = some result.requirements := by
  obtain ⟨-, -, base, volReqs, baseOk, narrowed⟩ := canAdd_ok ok
  obtain ⟨withVolumes, withDevices, added, tightened, -, keys, volumesOk, devicesOk, asked, topology, -, -, same⟩ :=
    narrow_ok narrowed
  have narrowing := tightenEach_append volumesOk (tightenByAllocation_each devicesOk)
  refine ⟨{ pod, podRequirements := podData.strictRequirements
            narrowing :=
              [podData.requirements] ++ (volReqs.toList ++ (result.allocationResult.map (·.requirements)).toList)
            orders := orders withDevices, recordOrder := order, relaxed := if relaxMinValues then keys else ∅ },
    rfl, rfl, List.mem_cons_self, rfl, ?_⟩
  rw [same]
  exact Host.requirementsWith_ok (tightenEach_append baseOk narrowing) (Topology.answer_ok asked) topology

theorem ExistingNode.canAdd_placement {n : ExistingNode} {requirements : Requirements} (order : RangeOrder String)
    (ok : n.canAdd settings ⟨t.answer settings orders, allocate⟩ pod podData volumes = .ok (requirements, allocated)) :
    ∃ p : PodPlacement, p.pod = pod ∧ p.podRequirements = podData.strictRequirements ∧
      podData.requirements ∈ p.narrowing ∧ p.recordOrder = order ∧
      n.toHost.requirementsWith settings t p = some requirements := by
  obtain ⟨volReqs, withVolumes, added, narrowing, asked, topology⟩ := canAdd_ok ok
  refine ⟨{ pod, podRequirements := podData.strictRequirements
            narrowing := podData.requirements :: volReqs.toList
            orders := orders withVolumes, recordOrder := order }, rfl, rfl, List.mem_cons_self, rfl, ?_⟩
  exact Host.requirementsWith_ok narrowing (Topology.answer_ok asked) topology

end Refinement

/-! A small setting: NodeClaims without a zone, and pods that may go to any. -/
def zoneLabel : String := "topology.kubernetes.io/zone"

def zonalSettings : Settings := untolerating {zoneLabel}

/-- A NodeClaim without a zone. -/
def openNodeClaim (hostname : String) : Host where
  kind := .nodeClaim hostname
  requirements := Requirements.newRequirements [newRequirement labelHostname .opIn [hostname]]

def webPod (name : String) : Pod := { key := ⟨"default", name⟩, uid := name }

/-- A pod that may go to any zone, with the orders of the loops that look for one. -/
def placeWeb (name : String) (first second : List String) : PodPlacement where
  pod := webPod name
  podRequirements := Requirements.empty
  narrowing := [Requirements.empty]
  orders := fun _ => ⟨.listed first, .listed second⟩
  recordOrder := .listed []

def anyZone : Requirement := newRequirement zoneLabel .opExists []

end Karpenter.Provisioning
