import Karpenter.Go.Errors
import Karpenter.State.Cluster

/-! The cost of disrupting a node is kept pod by pod. It is what a computation from the tracked pods would give, up
to two events: an update of the NodeClaim forgets the costs of all pods of the node, and a pod that has come to be
owned by a daemonset keeps the cost it had before. -/
namespace Karpenter.State

open Go (Map)
open Scheduling

variable (gate : Bool)

/-- What a pod adds to the cost of its node. -/
def podCost (pod : Pod) : ℚ := if pod.ownedByDaemonSet then 0 else max 0 (evictionCost gate pod)

variable (n : StateNode)

/-- The cost computed from the pods whose requests are tracked. -/
def StateNode.recomputedCost : ℚ :=
  perNodeBaseDisruptionCost + n.podRequests.total fun key _ => (n.podVersions.lookup key).elim 0 (podCost gate)

variable (c : Cluster)

def Cluster.CostsExact : Prop :=
  ∀ id n, c.nodes.lookup id = some n → n.node.isSome = true → n.disruptionCost = n.recomputedCost gate

/-- The history variable holds the pods whose requests are tracked. -/
def StateNode.Synced : Prop :=
  ∀ key, n.podRequests.lookup key = (n.podVersions.lookup key).map (·.requests)

/-- The cost that is recorded for a pod, if any is. -/
def recordedCost (pod : Pod) : Option ℚ :=
  if pod.ownedByDaemonSet then none
  else if 0 < evictionCost gate pod then some (evictionCost gate pod) else none

def StateNode.Priced : Prop :=
  ∀ key, n.podDisruptionCosts.lookup key = (n.podVersions.lookup key).bind (recordedCost gate)

section Node

variable {gate} {n : StateNode}

theorem podCost_nonneg (gate : Bool) (pod : Pod) : 0 ≤ podCost gate pod := by
  rw [podCost]
  split
  · exact le_refl 0
  · exact le_max_left 0 _

theorem recordedCost_elim (pod : Pod) : (recordedCost gate pod).elim 0 (fun cost => cost) = podCost gate pod := by
  rw [recordedCost, podCost]
  split
  · rfl
  · split
    · rename_i positive
      exact (max_eq_right positive.le).symm
    · rename_i other
      exact (max_eq_left (not_lt.mp other)).symm

theorem recordedCost_eq_none : recordedCost gate pod = none ↔ podCost gate pod = 0 := by
  rw [← recordedCost_elim]
  constructor
  · intro none
    rw [none]
    rfl
  · intro zero
    rw [recordedCost] at zero ⊢
    split
    · rfl
    · rename_i owned
      rw [if_neg owned] at zero
      split
      · rename_i positive
        rw [if_pos positive] at zero
        exact absurd zero positive.ne'
      · rfl

theorem StateNode.Synced.recomputedCost_eq (synced : n.Synced) :
    n.recomputedCost gate = perNodeBaseDisruptionCost + n.podVersions.total fun _ => podCost gate := by
  rw [StateNode.recomputedCost, Map.total_eq_total]
  intro key
  rw [synced]
  cases n.podVersions.lookup key <;> rfl

theorem StateNode.Priced.disruptionCost_eq (priced : n.Priced gate) :
    n.disruptionCost = perNodeBaseDisruptionCost + n.podVersions.total fun _ => podCost gate := by
  rw [StateNode.disruptionCost, Map.total_eq_total]
  intro key
  rw [priced]
  cases n.podVersions.lookup key with
  | none => rfl
  | some pod => exact recordedCost_elim pod

theorem StateNode.Synced.updateForPod (synced : n.Synced) (pod : Pod) (volumes : Volumes) :
    (n.updateForPod gate pod volumes).Synced := by
  intro key
  rw [StateNode.updateForPod, Map.lookup_insert_eq, Map.lookup_insert_eq]
  split
  · rfl
  · exact synced key

theorem StateNode.Synced.cleanupForPod (synced : n.Synced) (podKey : ObjectKey) : (n.cleanupForPod podKey).Synced := by
  intro key
  rw [StateNode.cleanupForPod, Map.lookup_erase_eq, Map.lookup_erase_eq]
  split
  · rfl
  · exact synced key

theorem StateNode.Priced.cleanupForPod (priced : n.Priced gate) (podKey : ObjectKey) :
    (n.cleanupForPod podKey).Priced gate := by
  intro key
  rw [StateNode.cleanupForPod, Map.lookup_erase_eq, Map.lookup_erase_eq]
  split
  · rfl
  · exact priced key

theorem lookup_updateCosts (costs : Map ObjectKey ℚ) (pod : Pod) (key : ObjectKey) :
    (StateNode.updateCosts gate costs pod).lookup key =
      if key = pod.key ∧ pod.ownedByDaemonSet = false then recordedCost gate pod else costs.lookup key := by
  rw [StateNode.updateCosts, recordedCost]
  by_cases owned : pod.ownedByDaemonSet = true
  · simp [owned]
  · rw [if_neg owned, if_neg owned]
    dsimp only
    split
    · rw [Map.lookup_insert_eq]
      simp [owned]
    · rw [Map.lookup_erase_eq]
      simp [owned]

/-- A pod of a daemonset must not have had a cost before. -/
theorem StateNode.Priced.updateForPod (priced : n.Priced gate) {pod : Pod} (volumes : Volumes)
    (fresh : pod.ownedByDaemonSet = true → n.podDisruptionCosts.lookup pod.key = none) :
    (n.updateForPod gate pod volumes).Priced gate := by
  intro key
  rw [StateNode.updateForPod, lookup_updateCosts, Map.lookup_insert_eq]
  by_cases same : key = pod.key
  · subst same
    rw [if_pos rfl, Option.bind_some]
    by_cases owned : pod.ownedByDaemonSet = true
    · rw [if_neg (by simp [owned]), fresh owned, recordedCost, if_pos owned]
    · rw [if_pos ⟨rfl, Bool.eq_false_iff.mpr owned⟩]
  · rw [if_neg fun both => same both.1, if_neg same]
    exact priced key

/-- What is recorded under other names does not matter once the name is cleaned up. -/
theorem StateNode.Priced.cleanup_update (priced : n.Priced gate) (pod : Pod) (volumes : Volumes) :
    ((n.updateForPod gate pod volumes).cleanupForPod pod.key).Priced gate := by
  intro key
  rw [StateNode.cleanupForPod, Map.lookup_erase_eq, Map.lookup_erase_eq, StateNode.updateForPod]
  split
  · rfl
  · rename_i different
    rw [lookup_updateCosts, if_neg fun both => different both.1, Map.lookup_insert_eq, if_neg different]
    exact priced key

end Node

/-- A property of every tracked node. -/
def Each (P : StateNode → Prop) (nodes : Map String StateNode) : Prop := ∀ id n, nodes.lookup id = some n → P n

/-- A node keeps the property when a pod leaves it, when it is marked or unmarked, and when its Node or its
NodeClaim is taken off. -/
structure Lasting (P : StateNode → Prop) : Prop where
  cleanupForPod : ∀ n podKey, P n → P (n.cleanupForPod podKey)
  mark : ∀ n marked, P n → P { n with markedForDeletion := marked }
  withoutNodeClaim : ∀ n, P n → P { n with nodeClaim := none }
  withoutNode : ∀ n, P n → P { n with node := none }

section Each

variable {gate} {P : StateNode → Prop} {nodes : Map String StateNode} {c c' : Cluster}

theorem Each.insert (each : Each P nodes) {n : StateNode} (own : P n) (id : String) : Each P (nodes.insert id n) := by
  intro other n' tracked
  rw [Map.lookup_insert_eq] at tracked
  split at tracked
  · cases tracked
    exact own
  · exact each other n' tracked

theorem Each.erase (each : Each P nodes) (id : String) : Each P (nodes.erase id) := by
  intro other n' tracked
  rw [Map.lookup_erase_eq] at tracked
  split at tracked
  · cases tracked
  · exact each other n' tracked

variable {id : String} {oldNode newNode : Option StateNode}

theorem nodes_track (tracked : c.track id oldNode newNode = some c') :
    c'.nodes = newNode.elim (c.nodes.erase id) (c.nodes.insert id) := by
  rw [Cluster.track] at tracked
  obtain ⟨pools, _, rest⟩ := Option.bind_eq_some_iff.mp tracked
  cases rest
  rfl

theorem lookup_track (tracked : c.track id oldNode newNode = some c') (different : other ≠ id) :
    c'.nodes.lookup other = c.nodes.lookup other := by
  rw [nodes_track tracked]
  cases newNode with
  | none => exact (Map.lookup_erase_eq _ _ _).trans (if_neg different)
  | some n => exact (Map.lookup_insert_eq _ _ _ _).trans (if_neg different)

theorem Each.track (each : Each P c.nodes) (tracked : c.track id oldNode newNode = some c')
    (new : ∀ n, newNode = some n → P n) : Each P c'.nodes := by
  rw [nodes_track tracked]
  cases newNode with
  | none => exact each.erase id
  | some n => exact each.insert (new n rfl) id

variable (lasting : Lasting P) (each : Each P c.nodes)
include lasting each

theorem Lasting.setMark (done : c.setMark marked id = some c') : Each P c'.nodes := by
  rw [Cluster.setMark] at done
  split at done
  · cases done
    exact each
  · rename_i n tracked
    apply each.track done
    rintro _ ⟨⟩
    exact lasting.mark n marked (each id n tracked)

theorem Lasting.foldlM_setMark (ids : List String) (done : ids.foldlM (Cluster.setMark marked) c = some c') :
    Each P c'.nodes :=
  Go.foldlM_some (R := fun c c' : Cluster => Each P c.nodes → Each P c'.nodes) (fun _ => id)
    (fun first second => second ∘ first) (fun _ _ _ _ marked each => lasting.setMark each marked) done each

theorem Lasting.cleanupNodeClaim (done : c.cleanupNodeClaim name = some c') :
    Each P c'.nodes ∧ ∀ other, other ≠ (c.nodeClaimNameToProviderID.lookup name).getD "" →
      c'.nodes.lookup other = c.nodes.lookup other := by
  rw [Cluster.cleanupNodeClaim] at done
  obtain ⟨next, detached, rest⟩ := Option.bind_eq_some_iff.mp done
  cases rest
  rw [Cluster.detachNodeClaim] at detached
  split at detached
  · cases detached
    exact ⟨each, fun _ _ => rfl⟩
  · obtain ⟨n, tracked, replaced⟩ := Option.bind_eq_some_iff.mp detached
    have others (other : String) (different : other ≠ _) := lookup_track replaced different
    have kept : Each P next.nodes := by
      apply each.track replaced
      intro n' same
      split at same
      · cases same
      · cases same
        exact lasting.withoutNodeClaim n (each _ n tracked)
    exact ⟨kept, others⟩

theorem Lasting.cleanupMovedNodeClaim (done : c.cleanupMovedNodeClaim nodeClaim = some c') :
    Each P c'.nodes ∧ c'.nodes.lookup nodeClaim.providerID = c.nodes.lookup nodeClaim.providerID := by
  rw [Cluster.cleanupMovedNodeClaim] at done
  split at done
  · rename_i moved
    obtain ⟨each', lookups⟩ := lasting.cleanupNodeClaim each done
    exact ⟨each', lookups _ (ne_getD_of_any moved)⟩
  · cases done
    exact ⟨each, rfl⟩

theorem Lasting.cleanupNode (done : c.cleanupNode name = some c') : Each P c'.nodes := by
  rw [Cluster.cleanupNode] at done
  split at done
  · cases done
    exact each
  · obtain ⟨n, tracked, rest⟩ := Option.bind_eq_some_iff.mp done
    obtain ⟨next, replaced, last⟩ := Option.bind_eq_some_iff.mp rest
    cases last
    apply each.track replaced
    intro n' same
    split at same
    · cases same
    · cases same
      exact lasting.withoutNode n (each _ n tracked)

theorem Lasting.cleanupOldBindings (pod : Pod) : Each P (c.cleanupOldBindings pod).nodes := by
  rw [Cluster.cleanupOldBindings]
  split
  · exact each
  · split
    · exact each
    · dsimp only
      split
      · exact each
      · rename_i n tracked
        exact each.insert (lasting.cleanupForPod n _ (each _ n tracked)) _

theorem Lasting.completion (podKey : ObjectKey) : Each P (c.updateNodeUsageFromPodCompletion podKey).nodes := by
  rw [Cluster.updateNodeUsageFromPodCompletion]
  split
  · exact each
  · dsimp only
    split
    · exact each
    · rename_i n tracked
      exact each.insert (lasting.cleanupForPod n _ (each _ n tracked)) _

theorem Lasting.populate (listed : List (Pod × Option Volumes)) (n : StateNode) :
    Each P (c.populateResourceRequests gate n listed).1.nodes := by
  induction listed generalizing c n with
  | nil => exact each
  | cons entry rest ih =>
    obtain ⟨pod, volumes⟩ := entry
    simp only [Cluster.populateResourceRequests]
    split
    · exact ih each n
    · cases volumes with
      | none => exact each
      | some volumes => exact ih (by exact lasting.cleanupOldBindings each pod) _

theorem Lasting.updateNode {node : Node} {read : NodeRead}
    (built : ∀ node oldNode n, (c.newStateFromNode gate node oldNode read).2 = some n → P n)
    (done : c.updateNode gate node read = some c') : Each P c'.nodes := by
  rw [Cluster.updateNode] at done
  dsimp only at done
  split at done
  · cases done
    exact each
  · split at done
    · cases done
      exact each
    · revert done
      generalize { node with providerID := if node.providerID = "" then node.name else node.providerID } = node
      intro done
      rw [Cluster.trackNode] at done
      have own := built node ((c.nodes.lookup node.providerID).getD {})
      have each₁ : Each P (c.newStateFromNode gate node ((c.nodes.lookup node.providerID).getD {}) read).1.nodes := by
        rw [Cluster.newStateFromNode]
        cases read.pods with
        | none => exact each
        | some pods => exact lasting.populate each pods _
      revert each₁ own done
      generalize c.newStateFromNode gate node ((c.nodes.lookup node.providerID).getD {}) read = result
      obtain ⟨c₁, n⟩ := result
      intro done own each₁
      cases n with
      | none =>
        cases done
        exact each₁
      | some n =>
        obtain ⟨c₂, cleaned, rest⟩ := Option.bind_eq_some_iff.mp done
        obtain ⟨c₃, replaced, last⟩ := Option.bind_eq_some_iff.mp rest
        cases last
        have each₂ : Each P c₂.nodes := by
          rw [Cluster.cleanupMovedNode] at cleaned
          split at cleaned
          · exact lasting.cleanupNode each₁ cleaned
          · cases cleaned
            exact each₁
        apply each₂.track replaced
        rintro _ ⟨⟩
        exact own n rfl

end Each

/-- The pods of a node are those tracked and, if it has a Node, so are their costs. -/
def StateNode.Orderly : Prop := n.Synced ∧ (n.node.isSome = true → n.Priced gate)

section Orderly

variable {gate} {c c' : Cluster}

theorem lasting_orderly : Lasting (StateNode.Orderly gate) where
  cleanupForPod := fun _ podKey orderly =>
    ⟨orderly.1.cleanupForPod podKey, fun hasNode => (orderly.2 hasNode).cleanupForPod podKey⟩
  mark := fun _ _ orderly => orderly
  withoutNodeClaim := fun _ orderly => orderly
  withoutNode := fun _ orderly => ⟨orderly.1, nofun⟩

theorem costsExact_of_orderly (orderly : Each (StateNode.Orderly gate) c.nodes) : c.CostsExact gate := by
  intro id n tracked hasNode
  obtain ⟨synced, priced⟩ := orderly id n tracked
  rw [synced.recomputedCost_eq, (priced hasNode).disruptionCost_eq]

theorem synced_populate (listed : List (Pod × Option Volumes)) {n : StateNode} (synced : n.Synced) (c : Cluster) :
    (c.populateResourceRequests gate n listed).2.1.Synced := by
  induction listed generalizing c n with
  | nil => exact synced
  | cons entry rest ih =>
    obtain ⟨pod, volumes⟩ := entry
    simp only [Cluster.populateResourceRequests]
    split
    · exact ih synced c
    · cases volumes with
      | none => exact synced
      | some volumes => exact ih (synced.updateForPod pod volumes) _

/-- Each pod is listed once, so no cost of another version is left behind. -/
theorem priced_populate {listed : List (Pod × Option Volumes)} {n : StateNode}
    (distinct : (listed.map (·.1.key)).Nodup) (priced : n.Priced gate)
    (unseen : ∀ entry ∈ listed, n.podDisruptionCosts.lookup entry.1.key = none) (c : Cluster) :
    (c.populateResourceRequests gate n listed).2.1.Priced gate := by
  induction listed generalizing c n with
  | nil => exact priced
  | cons entry rest ih =>
    obtain ⟨pod, volumes⟩ := entry
    obtain ⟨fresh, distinct'⟩ := List.nodup_cons.mp distinct
    obtain ⟨own, others⟩ := List.forall_mem_cons.mp unseen
    simp only [Cluster.populateResourceRequests]
    split
    · exact ih distinct' priced others c
    · cases volumes with
      | none => exact priced
      | some volumes =>
        refine ih distinct' (priced.updateForPod volumes fun _ => own) (fun entry member => ?_) _
        rw [StateNode.updateForPod, lookup_updateCosts, if_neg]
        · exact others entry member
        · rintro ⟨same, _⟩
          exact fresh (List.mem_map.mpr ⟨entry, member, same⟩)

theorem orderly_newStateFromNode (c : Cluster) (node : Node) (oldNode : StateNode) (read : NodeRead) {n : StateNode}
    (built : (c.newStateFromNode gate node oldNode read).2 = some n) : n.Orderly gate := by
  rw [Cluster.newStateFromNode] at built
  cases listed : read.pods with
  | none =>
    rw [listed] at built
    cases built
  | some pods =>
    rw [listed] at built
    dsimp only at built
    split at built
    · obtain ⟨drivers, _, rfl⟩ := Option.map_eq_some_iff.mp built
      exact ⟨synced_populate pods (fun _ => rfl) c,
        fun _ => priced_populate (read.distinct pods listed) (fun _ => rfl) (fun _ _ => rfl) c⟩
    · cases built

end Orderly

def Cluster.providerIDOf (nodeName : String) : String := (c.nodeNameToProviderID.lookup nodeName).getD ""

/-- The pod was bound to another name of the same node, so the node forgets it right after the update. -/
def Cluster.Rebinds (pod : Pod) : Prop :=
  ∃ oldNodeName, c.bindings.lookup pod.key = some oldNodeName ∧ oldNodeName ≠ pod.nodeName ∧
    c.providerIDOf oldNodeName = c.providerIDOf pod.nodeName

/-- An update of a NodeClaim finds no pod with a cost on its node, and an update of a pod owned by a daemonset finds
the pod tracked without a cost, if at all. -/
def Cluster.KeepsCosts : Event → Prop
  | .updateNodeClaim nodeClaim => nodeClaim.providerID ≠ "" →
      ∀ n, c.nodes.lookup nodeClaim.providerID = some n → n.node.isSome = true →
        ∀ key pod, n.podVersions.lookup key = some pod → podCost gate pod = 0
  | .updatePod pod volumes => pod.terminal = false → pod.nodeName ≠ "" → volumes.isSome = true →
      pod.ownedByDaemonSet = true → ¬ c.Rebinds pod →
        ∀ n, c.nodes.lookup (c.providerIDOf pod.nodeName) = some n → n.node.isSome = true →
          ∀ earlier, n.podVersions.lookup pod.key = some earlier → podCost gate earlier = 0
  | _ => True

section Steps

variable {gate} {c c' : Cluster} {n : StateNode} {pod : Pod}

theorem total_podCost_eq_zero {versions : Map ObjectKey Pod} (zero : (versions.total fun _ => podCost gate) = 0)
    (found : versions.lookup key = some pod) : podCost gate pod = 0 := by
  have least := Map.le_total (fun _ => podCost_nonneg gate) found
  exact le_antisymm (least.trans zero.le) (podCost_nonneg gate pod)

/-- An update of a NodeClaim leaves the node without any cost. -/
theorem updateNodeClaim_costs (orderly : Each (StateNode.Orderly gate) c.nodes)
    (done : c.updateNodeClaim nodeClaim = some c') :
    (c'.CostsExact gate → c.KeepsCosts gate (.updateNodeClaim nodeClaim)) ∧
      (c.KeepsCosts gate (.updateNodeClaim nodeClaim) → Each (StateNode.Orderly gate) c'.nodes) := by
  rw [Cluster.updateNodeClaim] at done
  obtain ⟨next, tracked, last⟩ := Option.bind_eq_some_iff.mp done
  cases last
  rw [Cluster.trackNodeClaim] at tracked
  split at tracked
  · rename_i unlaunched
    cases tracked
    exact ⟨fun _ launched => absurd unlaunched launched, fun _ => orderly⟩
  · obtain ⟨c₁, cleaned, replaced⟩ := Option.bind_eq_some_iff.mp tracked
    obtain ⟨orderly₁, kept⟩ := lasting_orderly.cleanupMovedNodeClaim orderly cleaned
    have nodes := nodes_track replaced
    rw [Option.elim_some] at nodes
    constructor
    · intro costs launched n found hasNode key pod listed
      have own := costs nodeClaim.providerID (Cluster.newStateFromNodeClaim nodeClaim n) (by
        rw [nodes, Map.lookup_insert_eq, if_pos rfl, found]
        rfl) hasNode
      have synced : (Cluster.newStateFromNodeClaim nodeClaim n).Synced := (orderly _ n found).1
      rw [synced.recomputedCost_eq, StateNode.disruptionCost, add_right_inj] at own
      exact total_podCost_eq_zero own.symm listed
    · intro keeps
      rw [nodes]
      refine orderly₁.insert ⟨?_, ?_⟩ _
      · cases found : c.nodes.lookup nodeClaim.providerID with
        | none => exact fun _ => rfl
        | some n => exact (orderly _ n found).1
      · intro hasNode key
        cases found : c.nodes.lookup nodeClaim.providerID with
        | none => rfl
        | some n =>
          rw [found] at hasNode
          have free := keeps ‹_› n found hasNode key
          cases listed : n.podVersions.lookup key with
          | none =>
            exact (congrArg (Option.bind · (recordedCost gate)) listed).symm
          | some pod =>
            exact (congrArg (Option.bind · (recordedCost gate)) listed).trans
              (recordedCost_eq_none.mpr (free pod listed)) |>.symm

theorem cleanupOldBindings_of_rebinds (rebinds : c.Rebinds pod)
    (tracked : c.nodes.lookup (c.providerIDOf pod.nodeName) = some n) :
    (c.cleanupOldBindings pod).nodes = c.nodes.insert (c.providerIDOf pod.nodeName) (n.cleanupForPod pod.key) := by
  obtain ⟨oldNodeName, bound, other, same⟩ := rebinds
  rw [← same] at tracked ⊢
  simp only [Cluster.providerIDOf] at tracked ⊢
  simp only [Cluster.cleanupOldBindings, bound, if_neg other, tracked]

theorem lookup_cleanupOldBindings (rebinds : ¬ c.Rebinds pod) :
    (c.cleanupOldBindings pod).nodes.lookup (c.providerIDOf pod.nodeName) =
      c.nodes.lookup (c.providerIDOf pod.nodeName) := by
  rw [Cluster.cleanupOldBindings]
  split
  · rfl
  · rename_i oldNodeName bound
    split
    · rfl
    · rename_i other
      dsimp only
      split
      · rfl
      · refine (Map.lookup_insert_eq _ _ _ _).trans (if_neg fun same => ?_)
        exact rebinds ⟨oldNodeName, bound, other, same.symm⟩

/-- A daemonset pod adds nothing, but takes nothing away that was recorded under its name. -/
theorem podCost_of_exact (synced : n.Synced) (priced : n.Priced gate) (owned : pod.ownedByDaemonSet = true)
    (found : n.podVersions.lookup pod.key = some earlier)
    (costs : (n.updateForPod gate pod volumes).disruptionCost = (n.updateForPod gate pod volumes).recomputedCost gate) :
    podCost gate earlier = 0 := by
  have unchanged : (n.updateForPod gate pod volumes).disruptionCost = n.disruptionCost := by
    simp only [StateNode.disruptionCost, StateNode.updateForPod, StateNode.updateCosts, owned, if_true]
  have own : podCost gate pod = 0 := if_pos owned
  rw [(synced.updateForPod pod volumes).recomputedCost_eq, unchanged, priced.disruptionCost_eq, add_right_inj,
    StateNode.updateForPod, Map.total_insert, found, Option.elim_some, own] at costs
  linarith

/-- The pod is updated on its node, and then the node it was bound to before forgets it. -/
theorem bind_costs (orderly : Each (StateNode.Orderly gate) c.nodes)
    (tracked : c.nodes.lookup (c.providerIDOf pod.nodeName) = some n) (volumes : Volumes) : let updated := { c with
      nodes := c.nodes.insert (c.providerIDOf pod.nodeName) (n.updateForPod gate pod volumes) }
    let free := pod.ownedByDaemonSet = true → ¬ c.Rebinds pod → n.node.isSome = true →
      ∀ earlier, n.podVersions.lookup pod.key = some earlier → podCost gate earlier = 0
    ((updated.bind pod).CostsExact gate → free) ∧ (free → Each (StateNode.Orderly gate) (updated.bind pod).nodes) := by
  intro updated free
  obtain ⟨synced, priced⟩ := orderly _ n tracked
  have own : updated.nodes.lookup (c.providerIDOf pod.nodeName) = some (n.updateForPod gate pod volumes) :=
    (Map.lookup_insert_eq _ _ _ _).trans (if_pos rfl)
  constructor
  · intro costs owned rebinds hasNode earlier found
    have kept := (lookup_cleanupOldBindings (c := updated) rebinds).trans own
    exact podCost_of_exact synced (priced hasNode) owned found (costs _ _ kept hasNode)
  · intro kept
    by_cases rebinds : c.Rebinds pod
    · have nodes := cleanupOldBindings_of_rebinds (c := updated) rebinds own
      intro id n' found
      have found' : (updated.cleanupOldBindings pod).nodes.lookup id = some n' := found
      rw [nodes, Map.lookup_insert_eq] at found'
      split at found'
      · cases found'
        exact ⟨(synced.updateForPod pod volumes).cleanupForPod pod.key,
          fun hasNode => (priced hasNode).cleanup_update pod volumes⟩
      · rename_i different
        have before : c.nodes.lookup id = some n' :=
          ((Map.lookup_insert_eq _ _ _ _).trans (if_neg different)).symm.trans found'
        exact orderly id n' before
    · have updatedOrderly : Each (StateNode.Orderly gate) updated.nodes := by
        refine orderly.insert ⟨synced.updateForPod pod volumes, fun hasNode => ?_⟩ _
        apply (priced hasNode).updateForPod volumes
        intro owned
        rw [priced hasNode pod.key]
        cases found : n.podVersions.lookup pod.key with
        | none => rfl
        | some earlier => exact recordedCost_eq_none.mpr (kept owned rebinds hasNode earlier found)
      exact lasting_orderly.cleanupOldBindings updatedOrderly pod

/-- An update of a pod is exact unless it leaves behind what the pod cost before. -/
theorem updateNodeUsageFromPod_costs (orderly : Each (StateNode.Orderly gate) c.nodes)
    (running : pod.terminal = false) :
    ((c.updateNodeUsageFromPod gate pod volumes).CostsExact gate → c.KeepsCosts gate (.updatePod pod volumes)) ∧
      (c.KeepsCosts gate (.updatePod pod volumes) →
        Each (StateNode.Orderly gate) (c.updateNodeUsageFromPod gate pod volumes).nodes) := by
  rw [Cluster.updateNodeUsageFromPod]
  split
  · rename_i unbound
    exact ⟨fun _ _ bound => absurd unbound bound, fun _ => orderly⟩
  · dsimp only
    split
    · rename_i n volumes tracked
      obtain ⟨whenExact, whenKept⟩ := bind_costs orderly tracked volumes
      refine ⟨fun costs _ _ _ owned rebinds n' tracked' hasNode earlier found => ?_, fun keeps => ?_⟩
      · cases tracked.symm.trans tracked'
        exact whenExact costs owned rebinds hasNode earlier found
      · exact whenKept fun owned rebinds hasNode => keeps running ‹_› rfl owned rebinds n tracked hasNode
    · rename_i missing
      refine ⟨fun _ _ _ read _ _ n tracked => ?_, fun _ => orderly⟩
      obtain ⟨volumes, same⟩ := Option.isSome_iff_exists.mp read
      exact absurd same (missing n volumes tracked)

theorem step_costs (orderly : Each (StateNode.Orderly gate) c.nodes) {event : Event}
    (done : c.step gate event = some c') : (c'.CostsExact gate → c.KeepsCosts gate event) ∧
      (c.KeepsCosts gate event → Each (StateNode.Orderly gate) c'.nodes) := by
  cases event with
  | updateNode node read =>
    exact ⟨fun _ => trivial, fun _ => lasting_orderly.updateNode orderly
      (fun node oldNode n => orderly_newStateFromNode c node oldNode read) done⟩
  | deleteNode name => exact ⟨fun _ => trivial, fun _ => lasting_orderly.cleanupNode orderly done⟩
  | updateNodeClaim nodeClaim => exact updateNodeClaim_costs orderly done
  | deleteNodeClaim name => exact ⟨fun _ => trivial, fun _ => (lasting_orderly.cleanupNodeClaim orderly done).1⟩
  | updatePod pod volumes =>
    cases done
    rw [Cluster.updatePod]
    split
    · rename_i terminal
      refine ⟨fun _ running => ?_, fun _ => lasting_orderly.completion orderly pod.key⟩
      rw [terminal] at running
      cases running
    · rename_i running
      exact updateNodeUsageFromPod_costs orderly (Bool.eq_false_iff.mpr running)
  | deletePod podKey =>
    cases done
    exact ⟨fun _ => trivial, fun _ => lasting_orderly.completion orderly podKey⟩
  | markForDeletion ids => exact ⟨fun _ => trivial, fun _ => lasting_orderly.foldlM_setMark orderly ids done⟩
  | unmarkForDeletion ids => exact ⟨fun _ => trivial, fun _ => lasting_orderly.foldlM_setMark orderly ids done⟩

end Steps

theorem orderly_run {events : List Event}
    (keeps : ∀ earlier event c c', earlier ++ [event] <+: events → Cluster.run gate earlier = some c →
      Each (StateNode.Orderly gate) c.nodes → c.step gate event = some c' → c.KeepsCosts gate event)
    (earlier : List Event) {c : Cluster} (within : earlier <+: events) (ran : Cluster.run gate earlier = some c) :
    Each (StateNode.Orderly gate) c.nodes := by
  induction earlier using List.reverseRecOn generalizing c with
  | nil =>
    cases ran
    exact nofun
  | append_singleton earlier event ih =>
    rw [Cluster.run_concat] at ran
    obtain ⟨before, ranBefore, stepped⟩ := Option.bind_eq_some_iff.mp ran
    have orderly := ih ((List.prefix_append _ _).trans within) ranBefore
    exact (step_costs orderly stepped).2 (keeps earlier event before c within ranBefore orderly stepped)

/-- After each event of a run the cost of every node is what its tracked pods amount to, if and only if no update
of a NodeClaim and no update of a daemonset pod in the run has met a pod with a cost. -/
theorem disruption_cost_recomputed_iff (events : List Event) :
    (∀ earlier c, earlier <+: events → Cluster.run gate earlier = some c →
      Each StateNode.Synced c.nodes ∧ c.CostsExact gate) ↔
    ∀ earlier event c c', earlier ++ [event] <+: events → Cluster.run gate earlier = some c →
      c.step gate event = some c' → c.KeepsCosts gate event := by
  constructor
  · intro costs
    have keeps (earlier : List Event) (event : Event) (c c' : Cluster) (within : earlier ++ [event] <+: events)
        (ran : Cluster.run gate earlier = some c) (orderly : Each (StateNode.Orderly gate) c.nodes)
        (stepped : c.step gate event = some c') : c.KeepsCosts gate event := by
      have after : Cluster.run gate (earlier ++ [event]) = some c' := by
        rw [Cluster.run_concat, ran]
        exact stepped
      exact (step_costs orderly stepped).1 (costs _ c' within after).2
    intro earlier event c c' within ran stepped
    have orderly := orderly_run gate keeps earlier ((List.prefix_append _ _).trans within) ran
    exact keeps earlier event c c' within ran orderly stepped
  · intro keeps earlier c within ran
    have orderly := orderly_run gate
      (fun earlier event c c' within ran _ stepped => keeps earlier event c c' within ran stepped) earlier within ran
    exact ⟨fun id n tracked => (orderly id n tracked).1, costsExact_of_orderly orderly⟩

/-- A pod runs on a node, and then the NodeClaim of the node is updated. -/
def claimAfterPod : List Event :=
  [.updateNode { name := "node", providerID := "id" } .noPods,
    .updatePod { key := ⟨"default", "pod"⟩, nodeName := "node" } (some ∅),
    .updateNodeClaim { name := "claim", providerID := "id" }]

/-- The pod is still tracked, but the node has lost its cost. -/
theorem disruption_cost_recomputed_claim : ∃ c, Cluster.run false claimAfterPod = some c ∧ ¬ c.CostsExact false := by
  have costs : (Cluster.run false claimAfterPod).any (fun c => (c.nodes.lookup "id").any fun n =>
      n.node.isSome && decide (n.disruptionCost = 1) && decide (n.recomputedCost false = 2)) = true := by
    decide +kernel
  obtain ⟨c, ran, found⟩ := (Option.any_eq_true _ _).mp costs
  obtain ⟨n, tracked, values⟩ := (Option.any_eq_true _ _).mp found
  simp only [Bool.and_eq_true, decide_eq_true_eq] at values
  refine ⟨c, ran, fun costsExact => ?_⟩
  have same := costsExact "id" n tracked values.1.1
  rw [values.1.2, values.2] at same
  exact absurd same (by decide)

end Karpenter.State
