import Karpenter.Provisioning.ExistingNode
import Karpenter.Provisioning.Topology

/-! How the topology of a scheduling loop is set up. The constraints of the pods become groups under their hashes,
and a group that is new counts the pods that are running already. The terms of required anti-affinities are
tracked a second time, from the side of their owners. Where Go ranges over a map or a set the order is fixed here:
it decides only in which order the same pods are counted. -/
namespace Karpenter.Provisioning

open Go (Map)
open Scheduling

inductive PreferencePolicy where
  | respect
  | ignore
  deriving DecidableEq

/-- The namespace selector is represented by its text. -/
structure PodAffinityTerm where
  topologyKey : String
  labelSelector : Option LabelSelector
  namespaces : List String := []
  namespaceSelector : Option String := none

/-- The terms of an affinity or of an anti-affinity. The weights of the preferred ones are not read here. -/
structure PodAffinity where
  required : List PodAffinityTerm := []
  preferred : List PodAffinityTerm := []

inductive UnsatisfiableConstraintAction where
  | doNotSchedule
  | scheduleAnyway
  deriving DecidableEq

structure TopologySpreadConstraint where
  maxSkew : Int
  topologyKey : String
  whenUnsatisfiable : UnsatisfiableConstraintAction
  labelSelector : Option LabelSelector
  minDomains : Option Int := none
  nodeAffinityPolicy : Option NodeInclusionPolicy := none
  nodeTaintsPolicy : Option NodeInclusionPolicy := none
  matchLabelKeys : List String := []

/-- A pod with what constrains its placement. An affinity without terms stands for one that is not set. -/
structure ConstrainedPod where
  pod : Pod
  labels : Map String String := ∅
  nodeSelector : Map String String := ∅
  requiredNodeAffinity : Option (List (List NodeSelectorRequirement)) := none
  topologySpreadConstraints : List TopologySpreadConstraint := []
  podAffinity : PodAffinity := {}
  podAntiAffinity : PodAffinity := {}

def hasPodAntiAffinity (p : ConstrainedPod) : Bool :=
  !p.podAntiAffinity.required.isEmpty || !p.podAntiAffinity.preferred.isEmpty

def hasRequiredPodAntiAffinity (p : ConstrainedPod) : Bool :=
  hasPodAntiAffinity p && !p.podAntiAffinity.required.isEmpty

inductive PodPhase where
  | pending
  | running
  | succeeded
  | failed
  deriving DecidableEq

/-- A pod as the API server knows it. -/
structure ClusterPod where
  pod : Pod
  nodeName : String := ""
  phase : PodPhase := .running
  deletionTimestamp : Option Nat := none

namespace ClusterPod

variable (p : ClusterPod)

def isScheduled : Bool := decide (p.nodeName ≠ "")

def isTerminal : Bool := decide (p.phase = .failed) || decide (p.phase = .succeeded)

def isTerminating : Bool := p.deletionTimestamp.isSome

def ignoredForTopology : Bool := !p.isScheduled || p.isTerminal || p.isTerminating

end ClusterPod

/-- A node as the API server knows it. -/
structure ClusterNode extends NodeSnapshot where
  taints : List Taint := []

/-- The domain of the node. The host name label is set late, and the name of the node stands in for it. -/
def ClusterNode.domain (n : ClusterNode) (key : String) : Option String :=
  match n.labels.lookup key with
  | some domain => some domain
  | none => if key = labelHostname then some n.name else none

/-- A node of the cluster state. Its labels are those of its NodeClaim until the node is initialized. -/
structure KnownNode where
  node : Option ClusterNode
  labels : Map String String := ∅

/-- Why no topology is set up. A selector that has to be extended with the labels of the pod must be there: the
code dereferences it. -/
inductive TopologyFailure where
  | listingPods (namespaceName : String)
  | gettingNode (name : String)
  | selectingNamespaces (selector : String)
  | nilSelector

/-- What the API server holds, and which requests it fails to answer. -/
structure KubeClient where
  pods : List ClusterPod := []
  nodes : List ClusterNode := []
  selectNamespaces : String → Option (List String) := fun _ => some []
  podsUnavailable : String → Bool := fun _ => false
  nodeUnavailable : String → Bool := fun _ => false

namespace KubeClient

variable (c : KubeClient)

def listPods (namespaceName : String) (selector : Pod → Bool) : Except TopologyFailure (List ClusterPod) :=
  if c.podsUnavailable namespaceName then .error (.listingPods namespaceName)
  else .ok (c.pods.filter fun p => decide (p.pod.key.namespaceName = namespaceName) && selector p.pod)

def getNode (name : String) : Except TopologyFailure (Option ClusterNode) :=
  if c.nodeUnavailable name then .error (.gettingNode name) else .ok (c.nodes.find? fun n => n.name = name)

def listNamespaces (selector : String) : Except TopologyFailure (List String) :=
  match c.selectNamespaces selector with
  | none => .error (.selectingNamespaces selector)
  | some names => .ok names

end KubeClient

/-- The domains of one topology key, each with the taints of the NodePools that offer it. -/
abbrev TopologyDomainGroup := Map String (List (List Taint))

/-- Taints that every pod tolerates make all others of the domain irrelevant. -/
def TopologyDomainGroup.insert (t : TopologyDomainGroup) (domain : String) (taints : List Taint) :
    TopologyDomainGroup :=
  match AList.lookup domain t with
  | none | some [] => AList.insert domain [taints] t
  | some (first :: rest) =>
    if taints = [] then AList.insert domain [[]] t
    else if first = [] then t
    else AList.insert domain (first :: rest ++ [taints]) t

/-- A NodePool with the instance types it may launch. -/
structure NodePoolTypes where
  requirements : Requirements
  labels : Map String String := ∅
  taints : List Taint := []
  instanceTypes : List CloudProvider.InstanceType := []

def insertDomains (taints : List Taint) (domainGroups : Map String TopologyDomainGroup) (requirement : Requirement) :
    Map String TopologyDomainGroup :=
  let domainGroup := (domainGroups.lookup requirement.key).getD ∅
  domainGroups.insert requirement.key
    ((Go.sorted requirement.values).foldl (fun group domain => TopologyDomainGroup.insert group domain taints)
      domainGroup)

/-- The domains of one NodePool: what its instance types have in common with it, and what it lists itself. -/
def insertNodePool (domainGroups : Map String TopologyDomainGroup) (np : NodePoolTypes) :
    Map String TopologyDomainGroup :=
  let template := np.requirements.add (Requirements.newLabelRequirements np.labels).values
  let ofTypes := np.instanceTypes.foldl
    (fun groups it => (template.add it.requirements.values).values.foldl (insertDomains np.taints) groups) domainGroups
  (template.values.filter fun requirement => requirement.operator = .opIn).foldl (insertDomains np.taints) ofTypes

def buildDomainGroups (nodePools : List NodePoolTypes) : Map String TopologyDomainGroup :=
  nodePools.foldl insertNodePool ∅

/-- The domains a pod may use; its tolerations count unless taints are to be ignored. -/
def TopologyDomainGroup.forEachDomain (toleratesTaint : Toleration → Taint → Bool) (t : TopologyDomainGroup) (pod : Pod)
    (taintHonorPolicy : Option NodeInclusionPolicy) : List String :=
  ((AList.entries t).filter fun entry => decide (taintHonorPolicy = some .ignore) ||
    entry.2.any fun taints => toleratesTaints toleratesTaint taints pod.tolerations).map Sigma.fst

/-- The nodes that a spread counts: those the pod could go to. -/
def makeTopologyNodeFilter (p : ConstrainedPod) (taintPolicy affinityPolicy : NodeInclusionPolicy) :
    TopologyNodeFilter :=
  let nodeSelectorRequirements := Requirements.newLabelRequirements p.nodeSelector
  { requirements := match p.requiredNodeAffinity with
      | none => [nodeSelectorRequirements]
      | some terms => terms.map fun matchExpressions =>
        (Requirements.newRequirements nodeSelectorRequirements.values).add
          (Requirements.newNodeSelectorRequirements matchExpressions).values
    taintPolicy := some taintPolicy
    affinityPolicy := some affinityPolicy
    tolerations := p.pod.tolerations }

/-- What tells two groups apart: the fields their hash is made of. -/
structure HashedFields where
  topologyKey : String
  type : TopologyType
  namespaces : Finset String
  maxSkew : Int
  nodeFilter : TopologyNodeFilter
  rawSelector : Option LabelSelector

def TopologyGroup.hashedFields (t : TopologyGroup) : HashedFields :=
  ⟨t.key, t.type, t.namespaces, t.maxSkew, t.nodeFilter, t.rawSelector⟩

/-- The pod stops to own any of the groups that count the pods they select. -/
def Topology.removeOwner (t : Topology) (uid : String) : Topology :=
  { t with topologyGroups := t.topologyGroups.mapValues fun _ tg => tg.removeOwner uid }

/-- What a topology is made from. The pods of the batch have distinct identities. `hash` and the extension of a
selector by a label are those of the libraries; `antiAffinityPods` are the bound pods with a required
anti-affinity, as the cluster state has them. -/
structure TopologyInputs where
  kubeClient : KubeClient := {}
  preferencePolicy : PreferencePolicy := .respect
  toleratesTaint : Toleration → Taint → Bool
  requireLabel : LabelSelector → String → String → LabelSelector
  hash : HashedFields → UInt64
  nodePools : List NodePoolTypes := []
  stateNodes : List KnownNode := []
  antiAffinityPods : List (ConstrainedPod × ClusterNode) := []
  pods : List ConstrainedPod
  distinct : pods.Pairwise fun p q => p.pod.uid ≠ q.pod.uid

namespace TopologyInputs

variable (inputs : TopologyInputs)

def domainGroups : Map String TopologyDomainGroup := buildDomainGroups inputs.nodePools

/-- The pods of the batch are not counted where they run now. -/
def excludes (uid : String) : Bool := inputs.pods.any fun p => decide (p.pod.uid = uid)

def newTopologyGroup (type : TopologyType) (topologyKey : String) (p : ConstrainedPod) (namespaces : Finset String)
    (labelSelector : Option LabelSelector) (maxSkew : Int) (minDomains : Option Int)
    (taintPolicy affinityPolicy : Option NodeInclusionPolicy) : TopologyGroup :=
  let tg := TopologyGroup.ofConstraint type topologyKey namespaces labelSelector maxSkew minDomains
    (makeTopologyNodeFilter p (taintPolicy.getD .ignore) (affinityPolicy.getD .honor))
  let domainGroup := (inputs.domainGroups.lookup topologyKey).getD ∅
  (TopologyDomainGroup.forEachDomain inputs.toleratesTaint domainGroup p.pod tg.nodeFilter.taintPolicy).foldl
    TopologyGroup.register tg

def buildNamespaceList (namespaceName : String) (namespaces : List String) (selector : Option String) :
    Except TopologyFailure (Finset String) :=
  match namespaces, selector with
  | [], none => .ok {namespaceName}
  | namespaces, none => .ok namespaces.toFinset
  | namespaces, some selector => do
    let selected ← inputs.kubeClient.listNamespaces selector
    .ok (selected.toFinset ∪ namespaces.toFinset)

/-- The group of one term. -/
def newForTerm (p : ConstrainedPod) (type : TopologyType) (term : PodAffinityTerm) :
    Except TopologyFailure TopologyGroup := do
  let namespaces ← inputs.buildNamespaceList p.pod.key.namespaceName term.namespaces term.namespaceSelector
  .ok (inputs.newTopologyGroup type term.topologyKey p namespaces term.labelSelector TopologyGroup.maxInt32 none
    none none)

/-- The terms of an affinity that count, soft ones included unless preferences are ignored. -/
def affinityTerms (affinity : PodAffinity) : List PodAffinityTerm :=
  affinity.required ++ if inputs.preferencePolicy = .respect then affinity.preferred else []

def newForAffinities (p : ConstrainedPod) : Except TopologyFailure (List TopologyGroup) := do
  let affinities ← (inputs.affinityTerms p.podAffinity).mapM (inputs.newForTerm p .podAffinity)
  let antiAffinities ← (inputs.affinityTerms p.podAntiAffinity).mapM (inputs.newForTerm p .podAntiAffinity)
  .ok (affinities ++ antiAffinities)

/-- The selector with the value the pod has for the key. -/
def matchLabelKey (p : ConstrainedPod) (selector : Option LabelSelector) (key : String) :
    Except TopologyFailure (Option LabelSelector) :=
  match p.labels.lookup key, selector with
  | none, _ => .ok selector
  | some _, none => .error .nilSelector
  | some value, some selector => .ok (some (inputs.requireLabel selector key value))

def newForSpread (p : ConstrainedPod) (tsc : TopologySpreadConstraint) : Except TopologyFailure TopologyGroup := do
  let selector ← tsc.matchLabelKeys.foldlM (inputs.matchLabelKey p) tsc.labelSelector
  .ok (inputs.newTopologyGroup .spread tsc.topologyKey p {p.pod.key.namespaceName} selector tsc.maxSkew
    tsc.minDomains tsc.nodeTaintsPolicy tsc.nodeAffinityPolicy)

def newForTopologies (p : ConstrainedPod) : Except TopologyFailure (List TopologyGroup) :=
  (p.topologySpreadConstraints.filter fun tsc => decide (inputs.preferencePolicy ≠ .ignore) ||
    decide (tsc.whenUnsatisfiable = .doNotSchedule)).mapM (inputs.newForSpread p)

/-- A constraint without a selector lists every pod. -/
def topologyListOptions : Option LabelSelector → Pod → Bool
  | none => fun _ => true
  | some selector => selector.matches_

def listPods (tg : TopologyGroup) : Except TopologyFailure (List ClusterPod) := do
  let listed ← (Go.sorted tg.namespaces).mapM fun namespaceName =>
    inputs.kubeClient.listPods namespaceName (topologyListOptions tg.rawSelector)
  .ok listed.flatten

/-- The domain of a node that the group does not filter out. -/
def registerNode (tg : TopologyGroup) (n : KnownNode) : TopologyGroup :=
  match n.node, n.labels.lookup tg.key with
  | some node, some domain =>
    if tg.nodeFilter.matches_ inputs.toleratesTaint node.taints (Requirements.newLabelRequirements node.labels) then
      tg.register domain
    else tg
  | _, _ => tg

/-- Counts a pod on the node. -/
def countOn (tg : TopologyGroup) (node : ClusterNode) : TopologyGroup :=
  match node.domain tg.key with
  | none => tg
  | some domain =>
    if tg.nodeFilter.matches_ inputs.toleratesTaint node.taints (Requirements.newLabelRequirements node.labels) then
      tg.record [domain]
    else tg

/-- A pod whose node is gone does not count. -/
def countPod (tg : TopologyGroup) (p : ClusterPod) : Except TopologyFailure TopologyGroup :=
  if p.ignoredForTopology || inputs.excludes p.pod.uid then .ok tg
  else do
    match ← inputs.kubeClient.getNode p.nodeName with
    | none => .ok tg
    | some node => .ok (inputs.countOn tg node)

/-- Registers the domains of the nodes and counts the pods. The source sorts the pods by node, to look each node
up once. -/
def countDomains (tg : TopologyGroup) : Except TopologyFailure TopologyGroup := do
  let pods ← inputs.listPods tg
  pods.foldlM inputs.countPod (inputs.stateNodes.foldl inputs.registerNode tg)

/-- Counts the owner of the group on a node with these labels. -/
def recordOwner (tg : TopologyGroup) (domains : Map String String) : TopologyGroup :=
  match domains.lookup tg.key with
  | none => tg
  | some domain => tg.record [domain]

/-- Tracks one term from the side of its owner, which is on a node with these labels. -/
def trackInverse (p : ConstrainedPod) (domains : Map String String) (t : Topology) (term : PodAffinityTerm) :
    Except TopologyFailure Topology := do
  let tg ← inputs.newForTerm p .podAntiAffinity term
  let hash := inputs.hash tg.hashedFields
  let shared := recordOwner ((t.inverseTopologyGroups.lookup hash).getD tg) domains
  .ok { t with inverseTopologyGroups := t.inverseTopologyGroups.insert hash (shared.addOwner p.pod.uid) }

def updateInverseAntiAffinity (p : ConstrainedPod) (domains : Map String String) (t : Topology) :
    Except TopologyFailure Topology :=
  p.podAntiAffinity.required.foldlM (inputs.trackInverse p domains) t

/-- The bound pods with a required anti-affinity, apart from those of the batch. -/
def updateInverseAffinities (t : Topology) : Except TopologyFailure Topology :=
  inputs.antiAffinityPods.foldlM
    (fun t bound => if inputs.excludes bound.1.pod.uid then .ok t
      else inputs.updateInverseAntiAffinity bound.1 bound.2.labels t) t

def tracksInverse (p : ConstrainedPod) : Bool :=
  (decide (inputs.preferencePolicy = .ignore) && hasRequiredPodAntiAffinity p) ||
    (decide (inputs.preferencePolicy = .respect) && hasPodAntiAffinity p)

/-- A pod of the batch has no node yet. -/
def trackPod (p : ConstrainedPod) (t : Topology) : Except TopologyFailure Topology :=
  if inputs.tracksInverse p then inputs.updateInverseAntiAffinity p ∅ t else .ok t

/-- The group under this hash; a new one is counted first. -/
def sharedGroup (t : Topology) (hash : UInt64) (tg : TopologyGroup) : Except TopologyFailure TopologyGroup :=
  match t.topologyGroups.lookup hash with
  | some existing => .ok existing
  | none => inputs.countDomains tg

/-- Makes the pod an owner of the group. -/
def enlist (uid : String) (t : Topology) (tg : TopologyGroup) : Except TopologyFailure Topology := do
  let hash := inputs.hash tg.hashedFields
  let shared ← inputs.sharedGroup t hash tg
  .ok { t with topologyGroups := t.topologyGroups.insert hash (shared.addOwner uid) }

/-- From now on the pod owns the groups of its constraints, and no other. -/
def update (t : Topology) (p : ConstrainedPod) : Except TopologyFailure Topology := do
  let tracked ← inputs.trackPod p (t.removeOwner p.pod.uid)
  let topologies ← inputs.newForTopologies p
  let affinities ← inputs.newForAffinities p
  (topologies ++ affinities).foldlM (inputs.enlist p.pod.uid) tracked

/-- The topology of a scheduling loop. -/
def newTopology : Except TopologyFailure Topology := do
  let tracked ← inputs.updateInverseAffinities {}
  inputs.pods.foldlM inputs.update tracked

/-- The pods that run where they are, apart from those of the batch. -/
def settles (p : ClusterPod) : Bool := !(p.ignoredForTopology || inputs.excludes p.pod.uid)

/-- The same loop with no other pods in the cluster. -/
def settled : TopologyInputs :=
  { inputs with
    kubeClient := { inputs.kubeClient with pods := inputs.kubeClient.pods.filter inputs.settles }
    antiAffinityPods := inputs.antiAffinityPods.filter fun bound => !inputs.excludes bound.1.pod.uid }

theorem listPods_settled (tg : TopologyGroup) :
    inputs.settled.listPods tg = List.filter inputs.settles <$> inputs.listPods tg := by
  have each (namespaceName : String) (selector : Pod → Bool) :
      inputs.settled.kubeClient.listPods namespaceName selector =
        List.filter inputs.settles <$> inputs.kubeClient.listPods namespaceName selector := by
    simp only [KubeClient.listPods, settled, List.filter_comm]
    split <;> rfl
  have mapped (names : List String) (f : String → Except TopologyFailure (List ClusterPod)) :
      (names.mapM fun name => List.filter inputs.settles <$> f name) =
        List.map (List.filter inputs.settles) <$> names.mapM f := by
    induction names with
    | nil => rfl
    | cons first rest ih => simp [ih]
  rw [listPods, funext fun name => each name _, mapped, listPods, map_bind, bind_map_left]
  simp only [← List.filter_flatten]
  rfl

theorem countDomains_settled (tg : TopologyGroup) : inputs.settled.countDomains tg = inputs.countDomains tg := by
  have uncounted (tg : TopologyGroup) (p : ClusterPod) :
      (if inputs.settles p then inputs.settled.countPod tg p else pure tg) = inputs.countPod tg p := by
    rw [show inputs.settled.countPod tg p = inputs.countPod tg p from rfl, settles, countPod]
    cases p.ignoredForTopology || inputs.excludes p.pod.uid <;> rfl
  rw [countDomains, listPods_settled, bind_map_left]
  simp only [List.foldlM_filter, uncounted]
  rfl

/-- Pods that do not run and the pods of the batch have no part in the topology. -/
theorem newTopology_settled : inputs.settled.newTopology = inputs.newTopology := by
  have enlists (uid : String) (t : Topology) (tg : TopologyGroup) :
      inputs.settled.enlist uid t tg = inputs.enlist uid t tg := by
    simp only [enlist, sharedGroup, countDomains_settled]
    rfl
  have update (t : Topology) (p : ConstrainedPod) : inputs.settled.update t p = inputs.update t p := by
    simp only [update, funext₃ enlists]
    rfl
  have inverse (t : Topology) : inputs.settled.updateInverseAffinities t = inputs.updateInverseAffinities t := by
    rw [updateInverseAffinities]
    show (inputs.antiAffinityPods.filter _).foldlM _ t = _
    rw [List.foldlM_filter]
    refine congrArg (List.foldlM · t _) (funext₂ fun t bound => ?_)
    show (if _ then if inputs.excludes _ then _ else inputs.updateInverseAntiAffinity _ _ t else _) = _
    cases inputs.excludes bound.1.pod.uid <;> rfl
  rw [newTopology, newTopology, inverse, funext₂ update]
  rfl

end TopologyInputs

end Karpenter.Provisioning
