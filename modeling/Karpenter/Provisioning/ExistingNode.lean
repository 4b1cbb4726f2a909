import Karpenter.Provisioning.CanAdd

/-! A node that is already there. Its requirements start out as its labels and its host name, and every pod
placed on it narrows them further. A label that the node does not have is denied to a pod that asks for it,
but an earlier pod may have left a requirement under that label, and then it counts as one of the node. -/
namespace Karpenter.Provisioning

open Go (Map)
open CloudProvider
open Resources (ResourceList)
open Scheduling

/-- What the scheduler reads from its copy of a node of the cluster state. -/
structure NodeSnapshot where
  name : String
  labels : Map String String := ∅
  available : ResourceList := ∅
  daemonSetRequests : ResourceList := ∅
  hostPortUsage : HostPortUsage := ∅
  volumeUsage : VolumeUsage := {}

def NodeSnapshot.hostName (n : NodeSnapshot) : String :=
  let hostname := (n.labels.lookup labelHostname).getD ""
  if hostname = "" then n.name else hostname

structure ExistingNode where
  cachedTaints : List Taint := []
  pods : List Pod := []
  remainingResources : ResourceList
  requirements : Requirements
  hostPortUsage : HostPortUsage := ∅
  volumeUsage : VolumeUsage := {}
  isUnderConsolidateAfter : Bool := false

/-- The labels of the node and its host name. -/
def NodeSnapshot.requirements (n : NodeSnapshot) : Requirements :=
  (Requirements.newLabelRequirements n.labels).addOne (newRequirement labelHostname .opIn [n.hostName])

/-- Daemons that run although they were not expected do not add to what remains. -/
def newExistingNode (n : NodeSnapshot) (taints : List Taint) (daemonResources : ResourceList)
    (instanceType : Option InstanceType) (isUnderConsolidateAfter : Bool) : ExistingNode :=
  let daemons := (Resources.subtractFrom daemonResources n.daemonSetRequests).filterMapValues fun _ quantity =>
    some (if quantity < 0 then 0 else quantity)
  let limits := instanceType.elim ∅ (·.volumeAttachmentLimits)
  { cachedTaints := taints
    remainingResources := Resources.subtract n.available daemons
    requirements := n.requirements
    hostPortUsage := n.hostPortUsage
    volumeUsage := limits.entries.foldl (fun usage entry => usage.addFallbackLimit entry.1 entry.2) n.volumeUsage
    isUnderConsolidateAfter }

inductive ExistingNodeError where
  | taints
  | volumeUsage
  | hostPortUsage
  | resources
  | requirements
  | volumeRequirements
  | topology (text : String)
  | topologyRequirements
  | allocation (text : String)
  deriving DecidableEq

/-- No label may be undefined on a node that is there. -/
def tightenDefined (requirements added : Requirements) (err : ExistingNodeError) :
    Except ExistingNodeError Requirements :=
  if requirements.isCompatible added ∅ then .ok (requirements.add added.values) else .error err

def tightenDefinedByVolumes (requirements : Requirements) (volReqs : Option Requirements) :
    Except ExistingNodeError Requirements :=
  match volReqs with
  | none => .ok requirements
  | some volReqs => tightenDefined requirements volReqs .volumeRequirements

namespace ExistingNode

variable (settings : Settings)

def tryVolumeAlternative (n : ExistingNode) (collaborators : Collaborators) (pod : Pod) (podData : PodData)
    (baseRequirements : Requirements) (volReqs : Option Requirements) :
    Except ExistingNodeError Requirements :=
  match tightenDefinedByVolumes baseRequirements volReqs with
  | .error err => .error err
  | .ok nodeRequirements =>
    match collaborators.addRequirements pod n.cachedTaints podData.strictRequirements nodeRequirements with
    | .error text => .error (.topology text)
    | .ok topologyRequirements => tightenDefined nodeRequirements topologyRequirements .topologyRequirements

/-- The devices are allocated for the node as it is; its requirements do not change with them. -/
def allocateDevices (n : ExistingNode) (collaborators : Collaborators) (requirements : Requirements) :
    Except ExistingNodeError (Requirements × Option DynamicResources.AllocationResult) :=
  match collaborators.allocate with
  | none => .ok (requirements, none)
  | some allocate =>
    match allocate n.requirements with
    | .error text => .error (.allocation text)
    | .ok result => .ok (requirements, some result)

def tryAlternative (n : ExistingNode) (collaborators : Collaborators) (pod : Pod) (podData : PodData)
    (baseRequirements : Requirements) (volReqs : Option Requirements) :
    Except ExistingNodeError (Requirements × Option DynamicResources.AllocationResult) :=
  match n.tryVolumeAlternative collaborators pod podData baseRequirements volReqs with
  | .error err => .error err
  | .ok requirements => n.allocateDevices collaborators requirements

/-- The first alternative that works, or the error of the last one. -/
def tryAlternatives (n : ExistingNode) (collaborators : Collaborators) (pod : Pod) (podData : PodData)
    (baseRequirements : Requirements) : Option Requirements → List Requirements →
      Except ExistingNodeError (Requirements × Option DynamicResources.AllocationResult)
  | volReqs, [] => n.tryAlternative collaborators pod podData baseRequirements volReqs
  | volReqs, next :: rest =>
    match n.tryAlternative collaborators pod podData baseRequirements volReqs with
    | .ok found => .ok found
    | .error _ => tryAlternatives n collaborators pod podData baseRequirements (some next) rest

def canAdd (n : ExistingNode) (collaborators : Collaborators) (pod : Pod) (podData : PodData) (volumes : Volumes) :
    Except ExistingNodeError (Requirements × Option DynamicResources.AllocationResult) :=
  if !toleratesTaints settings.toleratesTaint n.cachedTaints pod.tolerations then .error .taints
  else if n.volumeUsage.exceedsLimits volumes then .error .volumeUsage
  else if HostPortUsage.conflicts n.hostPortUsage pod.key (getHostPorts pod) then .error .hostPortUsage
  else if !Resources.fits podData.requests n.remainingResources then .error .resources
  else match tightenDefined n.requirements podData.requirements .requirements with
    | .error err => .error err
    | .ok baseRequirements =>
      match podData.volumeRequirements with
      | [] => n.tryAlternatives collaborators pod podData baseRequirements none []
      | first :: rest => n.tryAlternatives collaborators pod podData baseRequirements (some first) rest

/-- Placing the pod; recording it in the topology and committing its devices is up to the caller. -/
def add (n : ExistingNode) (pod : Pod) (podData : PodData) (nodeRequirements : Requirements) (volumes : Volumes) :
    ExistingNode :=
  { n with
    pods := n.pods ++ [pod]
    remainingResources := Resources.subtractFrom n.remainingResources podData.requests
    requirements := nodeRequirements
    hostPortUsage := HostPortUsage.add n.hostPortUsage pod.key (getHostPorts pod)
    volumeUsage := n.volumeUsage.add pod.key volumes }

end ExistingNode

/-- A concrete requirement with one value at most, as a label gives rise to. -/
structure IsLabel (r : Requirement) : Prop where
  concrete : r.complement = false
  unique : ∀ a b, r.has a = true → r.has b = true → a = b

/-- Concrete requirements with the same values. -/
structure SameLabel (r s : Requirement) : Prop where
  left : r.complement = false
  right : s.complement = false
  has_iff : ∀ value, r.has value = true ↔ s.has value = true

theorem SameLabel.refl (label : IsLabel r) : SameLabel r r := ⟨label.concrete, label.concrete, fun _ => Iff.rfl⟩

theorem SameLabel.admitsKey_iff (same : SameLabel r s) (allowUndefined : Finset String) (key : String) :
    Requirements.AdmitsKey allowUndefined key (some r) incoming ↔
      Requirements.AdmitsKey allowUndefined key (some s) incoming := by
  have values : r.values = s.values := by
    ext value
    rw [← Requirement.has_concrete r same.left, ← Requirement.has_concrete s same.right]
    exact same.has_iff value
  have overlap : r.hasIntersection incoming = true ↔ s.hasIntersection incoming = true := by
    rw [Requirement.hasIntersection_iff_exists, Requirement.hasIntersection_iff_exists]
    exact exists_congr fun value => and_congr_left' (same.has_iff value)
  have absence : r.admitsAbsence = true ↔ s.admitsAbsence = true := by
    rw [Requirement.admitsAbsence_iff, Requirement.admitsAbsence_iff, same.left, same.right, values]
  exact or_congr overlap (and_congr_right' absence)

/-- A compatible requirement does not change a label. -/
theorem SameLabel.intersection (label : IsLabel s) (same : SameLabel r s)
    (admits : Requirements.AdmitsKey allowUndefined key (some r) incoming) : SameLabel (incoming.intersection r) s := by
  constructor
  · exact Requirement.concrete_intersection (.inr same.left)
  · exact same.right
  · intro value
    rw [Requirement.has_intersection, same.has_iff]
    refine ⟨fun both => both.2, fun inside => ⟨?_, inside⟩⟩
    rcases admits with overlap | ⟨-, absent⟩
    · obtain ⟨common, inLabel, inIncoming⟩ := (Requirement.hasIntersection_iff_exists r _).mp overlap
      rw [label.unique value common inside ((same.has_iff common).mp inLabel)]
      exact inIncoming
    · have empty : r.values = ∅ := by
        by_contra nonempty
        exact absurd ((Requirement.admitsAbsence_iff r).mp absent |>.mpr nonempty) (by simp [same.left])
      have impossible := (same.has_iff value).mpr inside
      rw [Requirement.has_concrete r same.left, empty] at impossible
      cases impossible

theorem isLabel_newRequirement (key value : String) : IsLabel (newRequirement key .opIn [value]) where
  concrete := (Requirement.single_newRequirement key value).1
  unique := by
    intro a b first second
    have single := Requirement.single_newRequirement key value
    rw [(single.has_iff a).mp first, (single.has_iff b).mp second]

theorem IsLabel.merge (label : IsLabel r) (existing : Option Requirement) :
    IsLabel (Requirements.merge r existing) := by
  cases existing with
  | none => exact label
  | some existing =>
    constructor
    · exact Requirement.concrete_intersection (.inl label.concrete)
    · intro a b first second
      exact label.unique a b ((Requirement.has_intersection _ _ _).mp first).1
        ((Requirement.has_intersection _ _ _).mp second).1

/-- Every requirement is a label. -/
def Labelled (r : Requirements) : Prop := ∀ key requirement, r.get? key = some requirement → IsLabel requirement

theorem Labelled.addOne (labelled : Labelled r) (label : IsLabel requirement) : Labelled (r.addOne requirement) := by
  intro key found here
  rw [Requirements.get?_addOne] at here
  split at here
  · cases here
    exact label.merge _
  · exact labelled key found here

theorem NodeSnapshot.labelled (n : NodeSnapshot) : Labelled n.requirements := by
  have empty : Labelled Requirements.empty := by
    intro key requirement found
    rw [Requirements.get?_empty] at found
    cases found
  refine Labelled.addOne (List.foldlRecOn _ _ empty fun r labelled requirement member => labelled.addOne ?_)
    (isLabel_newRequirement _ _)
  obtain ⟨label, -, rfl⟩ := List.mem_map.mp member
  exact isLabel_newRequirement _ _

/-- The labels of the node are what they were. -/
def KeepsLabels (base r : Requirements) : Prop :=
  ∀ key label, base.get? key = some label → ∃ kept, r.get? key = some kept ∧ SameLabel kept label

section Narrowing

variable {n : ExistingNode} {collaborators : Collaborators} {podData : PodData}

theorem KeepsLabels.tightenEach (labelled : Labelled base) (keeps : KeepsLabels base r)
    (ok : tightenEach ∅ r each = some tightened) : KeepsLabels base tightened := by
  induction each generalizing r with
  | nil =>
    cases ok
    exact keeps
  | cons added rest ih =>
    obtain ⟨compatible, ok⟩ := tightenEach_cons.mp ok
    refine ih (fun key label found => ?_) ok
    obtain ⟨kept, here, same⟩ := keeps key label found
    rw [Requirements.get?_add_values]
    cases incoming : added.get? key with
    | none => exact ⟨kept, here, same⟩
    | some requirement =>
      have admits := (Requirements.isCompatible_iff_admitsKey _ _ _).mp compatible key requirement incoming
      rw [here] at admits ⊢
      exact ⟨_, rfl, same.intersection (labelled key label found) admits⟩

theorem tightenDefined_each (ok : tightenDefined r added err = .ok tightened) :
    tightenEach ∅ r [added] = some tightened := by
  unfold tightenDefined at ok
  split at ok
  · rename_i compatible
    cases ok
    exact tightenEach_cons.mpr ⟨compatible, rfl⟩
  · cases ok

theorem tightenDefinedByVolumes_each (ok : tightenDefinedByVolumes r volReqs = .ok tightened) :
    tightenEach ∅ r volReqs.toList = some tightened := by
  cases volReqs with
  | none =>
    cases ok
    rfl
  | some volReqs => exact tightenDefined_each ok

theorem ExistingNode.tryAlternatives_ok
    (ok : n.tryAlternatives collaborators pod podData r volReqs rest = .ok (tightened, result)) :
    ∃ chosen, n.tryVolumeAlternative collaborators pod podData r chosen = .ok tightened := by
  have one (chosen : Option Requirements)
      (tried : n.tryAlternative collaborators pod podData r chosen = .ok (tightened, result)) :
      n.tryVolumeAlternative collaborators pod podData r chosen = .ok tightened := by
    rw [tryAlternative] at tried
    split at tried
    · cases tried
    · rename_i requirements alternative
      rw [allocateDevices] at tried
      repeat' split at tried
      all_goals cases tried
      all_goals exact alternative
  induction rest generalizing volReqs with
  | nil => exact ⟨volReqs, one volReqs ok⟩
  | cons next rest ih =>
    rw [tryAlternatives] at ok
    split at ok
    · rename_i found tried
      cases ok
      exact ⟨volReqs, one volReqs tried⟩
    · exact ih ok

/-- The steps of an acceptance: the pod's own requirements and one alternative for its volumes, then the topology. -/
theorem ExistingNode.canAdd_ok (ok : n.canAdd settings collaborators pod podData volumes = .ok (tightened, result)) :
    ∃ volReqs narrowed added,
      tightenEach ∅ n.requirements (podData.requirements :: Option.toList volReqs) = some narrowed ∧
      collaborators.addRequirements pod n.cachedTaints podData.strictRequirements narrowed = .ok added ∧
      tightenEach ∅ narrowed [added] = some tightened := by
  rw [canAdd] at ok
  split at ok
  · cases ok
  split at ok
  · cases ok
  split at ok
  · cases ok
  split at ok
  · cases ok
  split at ok
  · cases ok
  rename_i base baseOk
  obtain ⟨volReqs, tried⟩ : ∃ chosen, n.tryVolumeAlternative collaborators pod podData base chosen = .ok tightened := by
    split at ok
    · exact tryAlternatives_ok ok
    · exact tryAlternatives_ok ok
  rw [tryVolumeAlternative] at tried
  split at tried
  · cases tried
  rename_i withVolumes volumesOk
  split at tried
  · cases tried
  rename_i added asked
  refine ⟨volReqs, withVolumes, added, ?_, asked, tightenDefined_each tried⟩
  exact tightenEach_append (tightenDefined_each baseOk) (tightenDefinedByVolumes_each volumesOk)

theorem existingNode_canAdd_spec (labelled : Labelled base) (keeps : KeepsLabels base n.requirements)
    (ok : n.canAdd settings collaborators pod podData volumes = .ok (tightened, result)) :
    n.requirements.isCompatible podData.requirements ∅ = true ∧ KeepsLabels base tightened := by
  obtain ⟨volReqs, narrowed, added, narrowing, -, topology⟩ := ExistingNode.canAdd_ok ok
  exact ⟨(tightenEach_cons.mp narrowing).1, (keeps.tightenEach labelled narrowing).tightenEach labelled topology⟩

end Narrowing

/-- A pod that was placed, with the node as it was before. -/
structure Receipt where
  before : ExistingNode
  pod : Pod
  podData : PodData

/-- Pods placed one after another; the topology and the devices may answer anything. -/
inductive Receives (settings : Settings) (start : ExistingNode) : List Receipt → ExistingNode → Prop where
  | empty : Receives settings start [] start
  | place {placed : List Receipt} {n : ExistingNode} {collaborators : Collaborators} {pod : Pod}
      {podData : PodData} {volumes : Volumes} {requirements : Requirements}
      {result : Option DynamicResources.AllocationResult} (earlier : Receives settings start placed n)
      (accepted : n.canAdd settings collaborators pod podData volumes = .ok (requirements, result)) :
      Receives settings start (placed ++ [⟨n, pod, podData⟩]) (n.add pod podData requirements volumes)

/-- A pod asks for a label that the node lacks and that a pod before it has left a requirement for. -/
def Borrows (labels current requested : Requirements) : Prop :=
  ∃ key ∈ requested.keys, labels.has key = false ∧ current.has key = true ∧
    (requested.get key).admitsAbsence = false

instance (labels current requested : Requirements) : Decidable (Borrows labels current requested) := by
  unfold Borrows
  infer_instance

/-- Compatibility with the labels differs from compatibility with the current requirements in what is
borrowed only. -/
theorem compatible_labels_iff (keeps : KeepsLabels labels current)
    (compatible : current.isCompatible requested ∅ = true) :
    labels.isCompatible requested ∅ = true ↔ ¬ Borrows labels current requested := by
  rw [Requirements.isCompatible_iff_admitsKey] at compatible ⊢
  constructor
  · rintro each ⟨key, member, undefined, -, required⟩
    obtain ⟨incoming, found⟩ := Option.isSome_iff_exists.mp ((Requirements.mem_keys _ _).mp member)
    have admits := each key incoming found
    rw [Option.isSome_eq_false_iff.mp undefined |> Option.isNone_iff_eq_none.mp] at admits
    rw [Requirements.get_of_get? _ found] at required
    rcases admits with impossible | absent
    · cases impossible
    · rw [absent] at required
      cases required
  · intro unborrowed key incoming found
    have admits := compatible key incoming found
    cases defined : labels.get? key with
    | some label =>
      obtain ⟨kept, here, same⟩ := keeps key label defined
      rw [here] at admits
      exact (same.admitsKey_iff ∅ key).mp admits
    | none =>
      right
      cases here : current.get? key with
      | none =>
        rw [here] at admits
        exact admits.resolve_left (by simp)
      | some earlier =>
        by_contra required
        refine unborrowed ⟨key, (Requirements.mem_keys _ _).mpr (by rw [found]; rfl), ?_, ?_, ?_⟩
        · rw [Requirements.has, defined]
          rfl
        · rw [Requirements.has, here]
          rfl
        · rw [Requirements.get_of_get? _ found]
          exact Bool.eq_false_iff.mpr required

theorem Receives.keepsLabels {settings : Settings} {start n : ExistingNode} (labelled : Labelled labels)
    (fresh : start.requirements = labels) (run : Receives settings start placed n) : KeepsLabels labels n.requirements := by
  induction run with
  | empty =>
    intro key label found
    exact ⟨label, fresh ▸ found, SameLabel.refl (labelled key label found)⟩
  | place _ accepted ih => exact (existingNode_canAdd_spec labelled ih accepted).2

/-- Every pod placed on a node is compatible with the labels of the node, unless it borrows a label. -/
theorem existing_node_accepts_iff {settings : Settings} {snapshot : NodeSnapshot} {taints : List Taint}
    {daemonResources : ResourceList} {instanceType : Option InstanceType} {isUnderConsolidateAfter : Bool}
    {placed : List Receipt} {n : ExistingNode} (run : Receives settings
      (newExistingNode snapshot taints daemonResources instanceType isUnderConsolidateAfter) placed n) :
    ∀ receipt ∈ placed,
      snapshot.requirements.isCompatible receipt.podData.requirements ∅ = true ↔
        ¬ Borrows snapshot.requirements receipt.before.requirements receipt.podData.requirements := by
  induction run with
  | empty => simp
  | place earlier accepted ih =>
    intro receipt member
    rcases List.mem_append.mp member with before | now
    · exact ih receipt before
    · obtain rfl := List.mem_singleton.mp now
      have keeps := earlier.keepsLabels snapshot.labelled rfl
      exact compatible_labels_iff keeps (existingNode_canAdd_spec snapshot.labelled keeps accepted).1

def plainSettings : Settings := untolerating ∅

def plainNode : ExistingNode := newExistingNode { name := "node" } [] ∅ none false

def teamPod (name : String) (operator : NodeSelectorOperator) (values : List String) : Pod × PodData :=
  ({ key := ⟨"default", name⟩ },
    { requests := ∅
      requirements := Requirements.newRequirements [newRequirement "team" operator values]
      strictRequirements := Requirements.newRequirements [newRequirement "team" operator values] })

/-- Without topologies the requirements come back as they are. -/
def withoutTopologies : Collaborators where
  addRequirements := fun _ _ _ requirements => .ok requirements

/-- The node after a pod, if it takes the pod. -/
def ExistingNode.receive (n : ExistingNode) (pod : Pod × PodData) : Option ExistingNode :=
  match n.canAdd plainSettings withoutTopologies pod.1 pod.2 ∅ with
  | .ok (requirements, _) => some (n.add pod.1 pod.2 requirements ∅)
  | .error _ => none

theorem Receives.receive (pod : Pod × PodData) (earlier : Receives plainSettings start placed n)
    (ok : (n.receive pod).isSome = true) :
    Receives plainSettings start (placed ++ [⟨n, pod.1, pod.2⟩]) ((n.receive pod).getD n) := by
  obtain ⟨next, found⟩ := Option.isSome_iff_exists.mp ok
  rw [found, Option.getD_some]
  rw [ExistingNode.receive] at found
  split at found
  · rename_i accepted
    cases found
    exact earlier.place accepted
  · cases found

/-- A pod that keeps away from a team is compatible with a node without a team. -/
theorem existing_node_accepts_notIn :
    (NodeSnapshot.requirements { name := "node" }).isCompatible (teamPod "a" .opNotIn ["red"]).2.requirements ∅ =
      true := by
  have run := Receives.receive (teamPod "a" .opNotIn ["red"]) Receives.empty
    (show (plainNode.receive _).isSome = true by decide +kernel)
  refine (existing_node_accepts_iff run _ (List.mem_append_right _ (List.mem_singleton_self _))).mpr ?_
  decide +kernel

/-- After it, a pod that asks for another team is taken as well, although the node has no team. -/
theorem existing_node_accepts_borrowed : ∃ placed n, Receives plainSettings plainNode placed n ∧ ∃ receipt ∈ placed,
      ¬ (NodeSnapshot.requirements { name := "node" }).isCompatible receipt.podData.requirements ∅ = true := by
  have first := Receives.receive (teamPod "a" .opNotIn ["red"]) Receives.empty
    (show (plainNode.receive _).isSome = true by decide +kernel)
  have second := Receives.receive (teamPod "b" .opIn ["blue"]) first (by decide +kernel)
  refine ⟨_, _, second, _, List.mem_append_right _ (List.mem_singleton_self _), ?_⟩
  decide +kernel

end Karpenter.Provisioning
