import Karpenter.State.Cluster

/-! The resources kept for each NodePool are those of its nodes: what is stored is the sum of the capacities of the
tracked nodes that carry the label of the NodePool and are not to be deleted. Nodes count themselves as a resource,
so an entry is never dropped while a node still counts for it, and no step writes into a missing one. -/
namespace Karpenter.State

open Go (Map)
open Resources (ResourceList Quantity amount amountAt assign)
open Scheduling

variable (n : StateNode)

/-- What a node counts for a NodePool. -/
def StateNode.counts (nodePool name : String) : Quantity :=
  if label n.labels nodePoolLabelKey = nodePool ∧ n.isMarkedForDeletion = false then amount n.capacity name else 0

/-- What is stored of each NodePool is what its nodes count. -/
def Cluster.Accounts (c : Cluster) : Prop :=
  ∀ nodePool, nodePool ≠ "" → ∀ name,
    amountAt c.nodePoolResources nodePool name = c.nodes.total fun _ n => n.counts nodePool name

theorem amount_capacity_node : amount n.capacity Resources.node = 1 := by
  rw [StateNode.capacity, amount, assign, Map.lookup_mergeAll, Map.lookup_insert_eq, if_pos rfl]
  rfl

theorem capacity_nonempty : n.capacity.entries.isEmpty = false := by
  rw [Bool.eq_false_iff]
  intro empty
  have one := amount_capacity_node n
  rw [amount, Map.lookup_of_isEmpty empty] at one
  cases one

theorem amount_insert_node (name : String) :
    amount (n.capacity.insert Resources.node 1) name = amount n.capacity name := by
  rw [amount, Map.lookup_insert_eq]
  split
  · rename_i same
    rw [same, amount_capacity_node]
    rfl
  · rfl

def used (n : Option StateNode) (nodePool name : String) : Quantity :=
  if (usage n).1 = nodePool then amount (usage n).2 name else 0

theorem used_none (nodePool name : String) : used none nodePool name = 0 := by
  simp [used, usage]

theorem used_some (named : nodePool ≠ "") (n : StateNode) (name : String) :
    used (some n) nodePool name = n.counts nodePool name := by
  rw [used, usage, StateNode.counts]
  split
  · rename_i absent
    obtain ⟨noNode, noClaim⟩ := (Bool.and_eq_true _ _).mp absent
    have unlabelled : label n.labels nodePoolLabelKey = "" := by
      rw [StateNode.labels, Option.isNone_iff_eq_none.mp noNode, Option.isNone_iff_eq_none.mp noClaim]
      rfl
    simp [unlabelled, named.symm]
  · by_cases marked : n.isMarkedForDeletion = true
    · simp [marked]
    · simp [marked, capacity_nonempty, amount_insert_node]

section Pools

theorem amountAt_of_lookup {pools : Map String ResourceList} (found : pools.lookup pool = some resources)
    (name : String) : amountAt pools pool name = amount resources name := by
  rw [Resources.amountAt_eq, found, Option.elim_some]

variable (pools : Map String ResourceList)

theorem writeResources_spec {change : ResourceList → ResourceList → ResourceList}
    {effect : Quantity → Quantity → Quantity}
    (changes : ∀ dst src name, amount (change dst src) name = effect (amount dst name) (amount src name))
    (neutral : ∀ quantity, effect quantity 0 = quantity)
    (present : nodePool ≠ "" → resources.entries.isEmpty = false → (pools.lookup nodePool).isSome = true) :
    ∃ pools', writeResources change pools nodePool resources = some pools' ∧
      (∀ pool, (pools.lookup pool).isSome = true → (pools'.lookup pool).isSome = true) ∧
      ∀ pool, pool ≠ "" → ∀ name, amountAt pools' pool name =
        effect (amountAt pools pool name) (if nodePool = pool then amount resources name else 0) := by
  rw [writeResources]
  by_cases skipped : nodePool = "" ∨ resources.entries.isEmpty = true
  · rw [if_pos skipped]
    refine ⟨pools, rfl, fun _ found => found, fun pool named name => ?_⟩
    have zero : (if nodePool = pool then amount resources name else 0) = 0 := by
      rcases skipped with unnamed | empty
      · rw [if_neg (by rintro rfl; exact named unnamed)]
      · rw [amount, Map.lookup_of_isEmpty empty]
        exact ite_self 0
    rw [zero, neutral]
  · rw [if_neg skipped]
    obtain ⟨named, full⟩ := not_or.mp skipped
    obtain ⟨current, found⟩ := Option.isSome_iff_exists.mp (present named (Bool.eq_false_iff.mpr full))
    refine ⟨pools.insert nodePool (change current resources), by rw [found]; rfl, fun pool stored => ?_,
      fun pool _ name => ?_⟩
    · rw [Map.lookup_insert_eq]
      split
      · rfl
      · exact stored
    · rw [Resources.amountAt_insert]
      by_cases same : pool = nodePool
      · subst same
        rw [if_pos rfl, if_pos rfl, changes, amountAt_of_lookup found]
      · rw [if_neg same, if_neg (Ne.symm same), neutral]

theorem amountAt_collect (nodePool pool name : String) :
    amountAt (collect pools nodePool) pool name = amountAt pools pool name := by
  rw [collect]
  split
  · rename_i empty
    rw [Resources.amountAt_eq, Resources.amountAt_eq, Map.lookup_erase_eq]
    split
    · rename_i same
      subst same
      cases found : pools.lookup pool with
      | none => rfl
      | some resources =>
        rw [Option.elim_none, Option.elim_some, amount]
        cases stored : resources.lookup name with
        | none => rfl
        | some quantity =>
          rw [found, Option.getD_some, List.all_eq_true] at empty
          have zero := empty _ (Map.mem_entries_iff.mpr stored)
          exact (of_decide_eq_true zero).symm
    · rfl
  · rfl

theorem updateNodePoolResources_spec {oldNode : Option StateNode} (newNode : Option StateNode)
    (present : (usage oldNode).1 ≠ "" → (usage oldNode).2.entries.isEmpty = false → (pools.lookup (usage oldNode).1).isSome = true) :
    ∃ pools', updateNodePoolResources pools oldNode newNode = some pools' ∧
      ∀ pool, pool ≠ "" → ∀ name, amountAt pools' pool name =
        amountAt pools pool name - used oldNode pool name + used newNode pool name := by
  simp only [updateNodePoolResources]
  obtain ⟨opened, same, kept, ready, unchanged⟩ : ∃ opened,
      opened = (if (usage newNode).1 ≠ "" ∧ (pools.lookup (usage newNode).1).isNone
        then pools.insert (usage newNode).1 ∅ else pools) ∧
      (∀ pool, (pools.lookup pool).isSome = true → (opened.lookup pool).isSome = true) ∧
      ((usage newNode).1 ≠ "" → (opened.lookup (usage newNode).1).isSome = true) ∧
      ∀ pool name, amountAt opened pool name = amountAt pools pool name := by
    refine ⟨_, rfl, ?_⟩
    split
    · rename_i missing
      refine ⟨fun pool stored => ?_, fun _ => ?_, fun pool name => ?_⟩
      · rw [Map.lookup_insert_eq]
        split
        · rfl
        · exact stored
      · rw [Map.lookup_insert_eq, if_pos rfl]
        rfl
      · rw [Resources.amountAt_insert]
        split
        · rename_i same
          rw [Resources.amountAt_eq, same, Option.isNone_iff_eq_none.mp missing.2]
          rfl
        · rfl
    · rename_i stored
      refine ⟨fun _ stored => stored, fun named => ?_, fun _ _ => rfl⟩
      by_contra missing
      exact stored ⟨named, by simpa using missing⟩
  rw [← same]
  obtain ⟨reduced, first, stillReady, less⟩ := writeResources_spec opened Resources.amount_subQuantities
    sub_zero (fun named full => kept _ (present named full))
  obtain ⟨grown, second, _, more⟩ := writeResources_spec reduced Resources.amount_addQuantities
    add_zero (fun named _ => stillReady _ (ready named))
  rw [first, Option.bind_eq_bind, Option.bind_some, second]
  refine ⟨_, rfl, fun pool named name => ?_⟩
  rw [amountAt_collect, amountAt_collect, more pool named, less pool named, unchanged]
  rfl

end Pools

/-- A node that counts for a NodePool counts as one node. -/
theorem used_node {n : Option StateNode} (full : (usage n).2.entries.isEmpty = false) :
    used n (usage n).1 Resources.node = 1 := by
  rw [used, if_pos rfl]
  cases n with
  | none => cases full
  | some n =>
    simp only [usage] at full ⊢
    split
    · rename_i absent
      rw [if_pos absent] at full
      cases full
    · rename_i present
      rw [if_neg present] at full
      by_cases marked : n.isMarkedForDeletion = true
      · simp [marked] at full
      · simp [marked, capacity_nonempty, amount_insert_node, amount_capacity_node]

theorem counts_node_nonneg (nodePool : String) : 0 ≤ n.counts nodePool Resources.node := by
  rw [StateNode.counts, amount_capacity_node]
  split <;> decide

theorem Cluster.Accounts.present {c : Cluster} (accounts : c.Accounts) {id : String} {n : StateNode}
    (found : c.nodes.lookup id = some n) (named : (usage (some n)).1 ≠ "")
    (full : (usage (some n)).2.entries.isEmpty = false) :
    (c.nodePoolResources.lookup (usage (some n)).1).isSome = true := by
  have one : n.counts (usage (some n)).1 Resources.node = 1 := by
    rw [← used_some named, used_node full]
  generalize (usage (some n)).1 = nodePool at named one
  have least := Map.le_total (fun _ n => counts_node_nonneg n nodePool) found
  rw [one, ← accounts nodePool named] at least
  by_contra missing
  rw [Resources.amountAt_eq, Option.not_isSome_iff_eq_none.mp missing] at least
  exact absurd least (by decide)

theorem Cluster.Accounts.track {c : Cluster} (accounts : c.Accounts) {id : String} (newNode : Option StateNode)
    (own : c.nodes.lookup id = oldNode ∨ c.nodes.lookup id = none ∧ oldNode = some {}) :
    ∃ c', c.track id oldNode newNode = some c' ∧ c'.Accounts ∧
      (∀ other, c'.nodes.lookup other = if other = id then newNode else c.nodes.lookup other) ∧
      c'.nodeNameToProviderID = c.nodeNameToProviderID ∧
      c'.nodeClaimNameToProviderID = c.nodeClaimNameToProviderID := by
  have present : (usage oldNode).1 ≠ "" → (usage oldNode).2.entries.isEmpty = false →
      (c.nodePoolResources.lookup (usage oldNode).1).isSome = true := by
    rcases own with found | ⟨_, rfl⟩
    · cases oldNode with
      | none => exact fun named => absurd rfl named
      | some n => exact accounts.present found
    · exact fun named => absurd rfl named
  have old (nodePool : String) (named : nodePool ≠ "") (name : String) :
      used oldNode nodePool name = (c.nodes.lookup id).elim 0 fun n => n.counts nodePool name := by
    rcases own with found | ⟨missing, rfl⟩
    · rw [found]
      cases oldNode with
      | none => exact used_none nodePool name
      | some n => exact used_some named n name
    · rw [missing, used_some named, Option.elim_none, StateNode.counts, if_neg]
      exact fun labelled => named labelled.1.symm
  obtain ⟨pools', updated, amounts⟩ := updateNodePoolResources_spec c.nodePoolResources newNode present
  rw [Cluster.track, updated]
  refine ⟨_, rfl, fun nodePool named name => ?_, fun other => ?_, rfl, rfl⟩
  · rw [amounts nodePool named name, accounts nodePool named, old nodePool named]
    cases newNode with
    | none => rw [used_none, add_zero, Option.elim_none, Map.total_erase]
    | some n => rw [used_some named, Option.elim_some, Map.total_insert]
  · cases newNode with
    | none => exact Map.lookup_erase_eq _ _ _
    | some n => exact Map.lookup_insert_eq _ _ _ _

section Steps

variable {c : Cluster}

theorem lookup_of_getD {m : Map String String} (named : (m.lookup name).getD "" ≠ "") :
    m.lookup name = some ((m.lookup name).getD "") := by
  cases found : m.lookup name with
  | none =>
    rw [found] at named
    exact absurd rfl named
  | some id => rfl

/-- What is left of a node without its NodeClaim. -/
def StateNode.withoutNodeClaim : Option StateNode :=
  if n.node.isNone then none else some { n with nodeClaim := none }

/-- What is left of a node without its Node. -/
def StateNode.withoutNode : Option StateNode :=
  if n.nodeClaim.isNone then none else some { n with node := none }

theorem cleanupNodeClaim_tracked (accounts : c.Accounts) {name id : String} {n : StateNode}
    (own : (c.nodeClaimNameToProviderID.lookup name).getD "" = id) (named : id ≠ "")
    (tracked : c.nodes.lookup id = some n) : ∃ c', c.cleanupNodeClaim name = some c' ∧ c'.Accounts ∧
      (∀ other, c'.nodes.lookup other = if other = id then n.withoutNodeClaim else c.nodes.lookup other) ∧
      c'.nodeNameToProviderID = c.nodeNameToProviderID ∧
      ∀ other, c'.nodeClaimNameToProviderID.lookup other =
        if other = name then none else c.nodeClaimNameToProviderID.lookup other := by
  obtain ⟨c', replaced, accounts', lookups, nodeNames, claimNames⟩ := accounts.track n.withoutNodeClaim (.inl tracked)
  rw [StateNode.withoutNodeClaim] at replaced
  rw [Cluster.cleanupNodeClaim, Cluster.detachNodeClaim, own, if_neg named]
  simp only [tracked, Option.bind_eq_bind, Option.bind_some, replaced]
  exact ⟨_, rfl, accounts', lookups, nodeNames, claimNames ▸ Map.lookup_erase_eq _ name⟩

theorem cleanupNode_tracked (accounts : c.Accounts) {name id : String} {n : StateNode}
    (own : (c.nodeNameToProviderID.lookup name).getD "" = id) (named : id ≠ "") (tracked : c.nodes.lookup id = some n) :
    ∃ c', c.cleanupNode name = some c' ∧ c'.Accounts ∧
      (∀ other, c'.nodes.lookup other = if other = id then n.withoutNode else c.nodes.lookup other) ∧
      (∀ other, c'.nodeNameToProviderID.lookup other =
        if other = name then none else c.nodeNameToProviderID.lookup other) ∧
      c'.nodeClaimNameToProviderID = c.nodeClaimNameToProviderID := by
  obtain ⟨c', replaced, accounts', lookups, nodeNames, claimNames⟩ := accounts.track n.withoutNode (.inl tracked)
  rw [StateNode.withoutNode] at replaced
  simp only [Cluster.cleanupNode]
  rw [own, if_neg named]
  simp only [tracked, Option.bind_eq_bind, Option.bind_some, replaced]
  exact ⟨_, rfl, accounts', lookups, nodeNames ▸ Map.lookup_erase_eq _ name, claimNames⟩

theorem cleanupNodeClaim_unlaunched (own : (c.nodeClaimNameToProviderID.lookup name).getD "" = "") :
    c.cleanupNodeClaim name = some { c with nodeClaimNameToProviderID := c.nodeClaimNameToProviderID.erase name } := by
  rw [Cluster.cleanupNodeClaim, Cluster.detachNodeClaim, if_pos own]
  rfl

theorem cleanupNode_unknown (own : (c.nodeNameToProviderID.lookup name).getD "" = "") : c.cleanupNode name = some c := by
  simp only [Cluster.cleanupNode]
  rw [if_pos own]

theorem oldNode_own (c : Cluster) (id : String) : c.nodes.lookup id = some ((c.nodes.lookup id).getD {}) ∨
      c.nodes.lookup id = none ∧ some ((c.nodes.lookup id).getD {}) = some ({} : StateNode) := by
  cases c.nodes.lookup id with
  | none => exact .inr ⟨rfl, rfl⟩
  | some n => exact .inl rfl

end Steps

/-- Only what is tracked of pods has changed. -/
structure PodsOnly (c c' : Cluster) : Prop where
  nodeNames : c'.nodeNameToProviderID = c.nodeNameToProviderID
  claimNames : c'.nodeClaimNameToProviderID = c.nodeClaimNameToProviderID
  pools : c'.nodePoolResources = c.nodePoolResources
  parts : ∀ id, (c'.nodes.lookup id).map (fun n => (n.node, n.nodeClaim)) =
    (c.nodes.lookup id).map fun n => (n.node, n.nodeClaim)
  total : ∀ nodePool name, (c'.nodes.total fun _ n => n.counts nodePool name) =
    c.nodes.total fun _ n => n.counts nodePool name

section Pods

variable {c c' c'' : Cluster}

theorem PodsOnly.refl (c : Cluster) : PodsOnly c c :=
  ⟨rfl, rfl, rfl, fun _ => rfl, fun _ _ => rfl⟩

theorem PodsOnly.trans (first : PodsOnly c c') (second : PodsOnly c' c'') : PodsOnly c c'' where
  nodeNames := second.nodeNames.trans first.nodeNames
  claimNames := second.claimNames.trans first.claimNames
  pools := second.pools.trans first.pools
  parts := fun id => (second.parts id).trans (first.parts id)
  total := fun nodePool name => (second.total nodePool name).trans (first.total nodePool name)

theorem PodsOnly.insert {id : String} {n n' : StateNode} (tracked : c.nodes.lookup id = some n)
    (node : n'.node = n.node) (nodeClaim : n'.nodeClaim = n.nodeClaim)
    (counted : ∀ nodePool name, n'.counts nodePool name = n.counts nodePool name) (bindings : Map ObjectKey String) :
    PodsOnly c { c with nodes := c.nodes.insert id n', bindings } where
  nodeNames := rfl
  claimNames := rfl
  pools := rfl
  parts := by
    intro other
    rw [Map.lookup_insert_eq]
    split
    · rename_i same
      rw [same, tracked, Option.map_some, Option.map_some, node, nodeClaim]
    · rfl
  total := by
    intro nodePool name
    rw [Map.total_insert, tracked, Option.elim_some, counted, sub_add_cancel]

theorem PodsOnly.accounts (podsOnly : PodsOnly c c') (accounts : c.Accounts) : c'.Accounts := by
  intro nodePool named name
  rw [podsOnly.pools, podsOnly.total, accounts nodePool named]

theorem podsOnly_cleanupForPod {id : String} {n : StateNode} (tracked : c.nodes.lookup id = some n)
    (podKey : ObjectKey) (bindings : Map ObjectKey String) :
    PodsOnly c { c with nodes := c.nodes.insert id (n.cleanupForPod podKey), bindings } := by
  apply PodsOnly.insert tracked
  · rfl
  · rfl
  · exact fun _ _ => rfl

theorem podsOnly_updateForPod (gate : Bool) {id : String} {n : StateNode} (tracked : c.nodes.lookup id = some n)
    (pod : Pod) (volumes : Volumes) :
    PodsOnly c { c with nodes := c.nodes.insert id (n.updateForPod gate pod volumes) } := by
  apply PodsOnly.insert tracked
  · rfl
  · rfl
  · exact fun _ _ => rfl

theorem podsOnly_cleanupOldBindings (c : Cluster) (pod : Pod) : PodsOnly c (c.cleanupOldBindings pod) := by
  rw [Cluster.cleanupOldBindings]
  split
  · exact .refl c
  · split
    · exact .refl c
    · dsimp only
      split
      · exact .refl c
      · rename_i tracked
        exact podsOnly_cleanupForPod tracked _ _

theorem podsOnly_bind (c : Cluster) (pod : Pod) : PodsOnly c (c.bind pod) := by
  obtain ⟨nodeNames, claimNames, pools, parts, total⟩ := podsOnly_cleanupOldBindings c pod
  exact ⟨nodeNames, claimNames, pools, parts, total⟩

theorem podsOnly_populate (gate : Bool) (pods : List (Pod × Option Volumes)) (c : Cluster) (n : StateNode) :
    PodsOnly c (c.populateResourceRequests gate n pods).1 ∧
      (c.populateResourceRequests gate n pods).2.1.node = n.node ∧
      (c.populateResourceRequests gate n pods).2.1.nodeClaim = n.nodeClaim := by
  induction pods generalizing c n with
  | nil => exact ⟨.refl c, rfl, rfl⟩
  | cons entry rest ih =>
    obtain ⟨pod, volumes⟩ := entry
    simp only [Cluster.populateResourceRequests]
    split
    · exact ih c n
    · cases volumes with
      | none => exact ⟨.refl c, rfl, rfl⟩
      | some volumes =>
        obtain ⟨later, node, nodeClaim⟩ := ih (c.bind pod) (n.updateForPod gate pod volumes)
        exact ⟨(podsOnly_bind c pod).trans later, node, nodeClaim⟩

theorem podsOnly_completion (c : Cluster) (podKey : ObjectKey) :
    PodsOnly c (c.updateNodeUsageFromPodCompletion podKey) := by
  rw [Cluster.updateNodeUsageFromPodCompletion]
  split
  · exact .refl c
  · dsimp only
    split
    · exact ⟨rfl, rfl, rfl, fun _ => rfl, fun _ _ => rfl⟩
    · rename_i tracked
      exact podsOnly_cleanupForPod tracked _ _

theorem podsOnly_updatePod (gate : Bool) (c : Cluster) (pod : Pod) (volumes : Option Volumes) :
    PodsOnly c (c.updatePod gate pod volumes) := by
  rw [Cluster.updatePod]
  split
  · exact podsOnly_completion c pod.key
  · rw [Cluster.updateNodeUsageFromPod]
    split
    · exact .refl c
    · dsimp only
      split
      · rename_i tracked
        exact (podsOnly_updateForPod gate tracked pod _).trans (podsOnly_bind _ pod)
      · exact .refl c

theorem newStateFromNode_spec (gate : Bool) (c : Cluster) (node : Node) (oldNode : StateNode) (read : NodeRead) :
    PodsOnly c (c.newStateFromNode gate node oldNode read).1 ∧
      ∀ n, (c.newStateFromNode gate node oldNode read).2 = some n →
        n.node = some node ∧ n.nodeClaim = oldNode.nodeClaim := by
  rw [Cluster.newStateFromNode]
  cases read.pods with
  | none => exact ⟨.refl c, nofun⟩
  | some pods =>
    obtain ⟨podsOnly, node', nodeClaim'⟩ := podsOnly_populate gate pods c {
      node := some node, nodeClaim := oldNode.nodeClaim, markedForDeletion := oldNode.markedForDeletion }
    refine ⟨podsOnly, fun n built => ?_⟩
    dsimp only at built
    split at built
    · obtain ⟨drivers, _, rfl⟩ := Option.map_eq_some_iff.mp built
      exact ⟨node', nodeClaim'⟩
    · cases built

end Pods

end Karpenter.State
