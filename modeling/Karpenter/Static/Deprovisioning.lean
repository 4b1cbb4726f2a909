import Karpenter.Static.Provisioning
import Mathlib.Data.List.Sort
import Mathlib.Data.Prod.Lex

/-! The controller that scales a static NodePool down. NodeClaims that have not launched go first, then empty nodes, and
then the others by the cost of rescheduling their pods, with those that must not be disrupted last. The order of the
tracked nodes is that of a map, so every order is covered, and with it every result of an unstable sort. -/
namespace Karpenter.Static

open State

structure StaticPod extends Pod where
  startTime : Option Int := none

/-- A NodeClaim with what its lifetime depends on; `managed` is the outcome of the check of its class. -/
structure StaticNodeClaim extends NodeClaim where
  managed : Bool := true
  creationTimestamp : Int := 0
  expireAfter : Option Int := none

/-- A node of the cluster state, as far as the controller reads it. -/
structure TrackedNode where
  node : Option Node := none
  nodeClaim : Option StaticNodeClaim := none
  markedForDeletion : Bool := false

def TrackedNode.toStateNode (n : TrackedNode) : StateNode where
  node := n.node
  nodeClaim := n.nodeClaim.map (·.toNodeClaim)
  markedForDeletion := n.markedForDeletion

/-- A tracked node of the NodePool that may be deprovisioned. -/
structure ResolvedNode where
  node : Option Node
  nodeClaim : StaticNodeClaim

structure NonEmptyNode where
  node : ResolvedNode
  pods : List StaticPod
  hasDoNotDisrupt : Bool

/-- What a reconciliation reads. A failed listing of NodeClaims is logged and taken for an empty one; without pods of a
node their listing failed. -/
structure Cluster where
  now : Int
  parseDuration : String → Option Int
  podDeletionCostManagement : Bool := false
  nodeClaims : List StaticNodeClaim
  nodes : List TrackedNode
  podsOn : String → Option (List StaticPod)
  /-- The API server deletes the NodeClaim, or does not have it. -/
  deletes : String → Bool

def doNotDisruptAnnotationKey : String := "karpenter.sh/do-not-disrupt"

namespace Cluster

variable (c : Cluster)

def parseDoNotDisrupt (value : String) : Option Int := (c.parseDuration value).filter fun d => decide (0 < d)

def isDoNotDisruptActive (pod : StaticPod) : Bool :=
  match pod.annotations.lookup doNotDisruptAnnotationKey with
  | none => false
  | some value =>
    if value = "true" then true
    else match c.parseDoNotDisrupt value with
      | none => false
      | some duration => pod.startTime.elim true fun start => decide (c.now - start < duration)

def pods (n : ResolvedNode) : Option (List StaticPod) :=
  match n.node with
  | none => some []
  | some node => if node.name = "" then some [] else c.podsOn node.name

def reschedulingCost (pods : List StaticPod) : ℚ :=
  pods.foldl (fun cost pod => cost + evictionCost c.podDeletionCostManagement pod.toPod) 0

/-- The part of its lifetime that a NodeClaim has left; of a lifetime of zero nothing. -/
def lifetimeRemaining (nodeClaim : StaticNodeClaim) : ℚ :=
  match nodeClaim.expireAfter with
  | none => 1
  | some total => max 0 (min (((total - (c.now - nodeClaim.creationTimestamp) : Int) : ℚ) / total) 1)

def cost (n : NonEmptyNode) : ℚ := c.reschedulingCost n.pods * c.lifetimeRemaining n.node.nodeClaim

def unresolvedNodeClaims (nodePoolName : String) : List StaticNodeClaim :=
  (c.nodeClaims.filter fun nc => decide (label nc.labels nodePoolLabelKey = nodePoolName) && nc.managed).filter fun nc =>
    decide (nc.providerID = "") && !nc.deleting

def unresolvedDeprovisioningCandidates (nodePoolName : String) (count : Nat) : List StaticNodeClaim :=
  (c.unresolvedNodeClaims nodePoolName).take count

/-- The tracked nodes that are taken into account. -/
def nodesOf (nodePoolName : String) : List ResolvedNode :=
  c.nodes.filterMap fun n => n.nodeClaim.bind fun nodeClaim =>
    if label n.toStateNode.labels nodePoolLabelKey = nodePoolName ∧ n.toStateNode.isMarkedForDeletion = false then
      some ⟨n.node, nodeClaim⟩
    else none

/-- No pods, or only pods of daemonsets that may be disrupted. -/
def isEmpty (pods : List StaticPod) : Bool :=
  pods.isEmpty || pods.all (·.ownedByDaemonSet) && !pods.any c.isDoNotDisruptActive

def isEmptyNode (n : ResolvedNode) : Bool := (c.pods n).any c.isEmpty

def nonEmptyNode (n : ResolvedNode) : Option NonEmptyNode :=
  if c.isEmptyNode n then none
  else (c.pods n).map fun pods => ⟨n, pods, pods.any c.isDoNotDisruptActive⟩

def compareNodes (i j : NonEmptyNode) : Ordering :=
  if i.hasDoNotDisrupt ≠ j.hasDoNotDisrupt then if i.hasDoNotDisrupt then .gt else .lt
  else compare (c.cost i) (c.cost j)

def sortedNonEmptyNodes (nodes : List ResolvedNode) : List NonEmptyNode :=
  (nodes.filterMap c.nonEmptyNode).insertionSort fun i j => c.compareNodes i j ≠ .gt

def resolvedDeprovisioningCandidates (nodes : List ResolvedNode) (count : Nat) : List StaticNodeClaim :=
  let candidates := ((nodes.filter c.isEmptyNode).take count).map (·.nodeClaim)
  let remaining := count - candidates.length
  if remaining = 0 then candidates
  else candidates ++ ((c.sortedNonEmptyNodes nodes).take remaining).map (·.node.nodeClaim)

def getDeprovisioningCandidates (nodePoolName : String) (count : Nat) : List StaticNodeClaim :=
  let candidates := c.unresolvedDeprovisioningCandidates nodePoolName count
  let remaining := count - candidates.length
  if remaining = 0 then candidates
  else candidates ++ c.resolvedDeprovisioningCandidates (c.nodesOf nodePoolName) remaining

/-- The NodeClaims that are deleted, and the state in which each of them is marked. -/
def deprovision (np : NodePool) (n : NodePoolState) : List StaticNodeClaim × NodePoolState :=
  if !np.managed || np.replicas.isNone || np.deleting then ([], n)
  else
    let nodeClaimsToDeprovision : Int := (n.getNodeCount np.name).1 - np.replicas.getD 0
    if nodeClaimsToDeprovision ≤ 0 then ([], n)
    else
      let deleted := (c.getDeprovisioningCandidates np.name nodeClaimsToDeprovision.toNat).filter (c.deletes ·.name)
      (deleted, deleted.foldl (fun n candidate => n.markNodeClaimDeleting np.name candidate.name) n)

end Cluster

/-- How valuable a NodeClaim is, from the least to the most. -/
inductive Class where
  | unlaunched
  | empty
  | disruptable
  | doNotDisrupt
deriving DecidableEq

def Class.rank : Class → Nat
  | .unlaunched => 0
  | .empty => 1
  | .disruptable => 2
  | .doNotDisrupt => 3

/-- A NodeClaim that may be deleted, its class, and what losing it costs. -/
structure Entry where
  nodeClaim : StaticNodeClaim
  cls : Class
  cost : ℚ

/-- The first entry is not the more valuable one. Costs are compared where there are pods to reschedule. -/
def Entry.Below (a b : Entry) : Prop :=
  a.cls.rank < b.cls.rank ∨ a.cls = b.cls ∧ (Class.empty.rank < a.cls.rank → a.cost ≤ b.cost)

namespace Cluster

variable (c : Cluster)

def entryOf (n : ResolvedNode) : Entry :=
  let pods := (c.pods n).getD []
  { nodeClaim := n.nodeClaim
    cls := if c.isEmpty pods then .empty else if pods.any c.isDoNotDisruptActive then .doNotDisrupt else .disruptable
    cost := c.reschedulingCost pods * c.lifetimeRemaining n.nodeClaim }

def nonEmptyEntry (m : NonEmptyNode) : Entry :=
  ⟨m.node.nodeClaim, if m.hasDoNotDisrupt then .doNotDisrupt else .disruptable, c.cost m⟩

def Eligible (nodePoolName : String) (e : Entry) : Prop :=
  (∃ nc ∈ c.unresolvedNodeClaims nodePoolName, e = ⟨nc, .unlaunched, 0⟩) ∨ ∃ n ∈ c.nodesOf nodePoolName, e = c.entryOf n

/-- A NodeClaim is tracked with its node once it has launched, as it is listed. -/
structure Consistent : Prop where
  listed : (c.nodeClaims.map (·.name)).Nodup
  tracked : ∀ n ∈ c.nodes, ∀ nc, n.nodeClaim = some nc → nc ∈ c.nodeClaims ∧ nc.providerID ≠ ""
  once : (c.nodes.filterMap (·.nodeClaim.map (·.name))).Nodup

/-- Every NodeClaim that may go, in the order in which they go. -/
def queue (nodePoolName : String) : List Entry :=
  (c.unresolvedNodeClaims nodePoolName).map (⟨·, .unlaunched, 0⟩) ++
    (((c.nodesOf nodePoolName).filter c.isEmptyNode).map c.entryOf ++
      (c.sortedNonEmptyNodes (c.nodesOf nodePoolName)).map (c.entryOf ·.node))

/-- Taking from one list and, while there is room, from the next is taking from both in a row. -/
theorem take_stages {α : Type*} (first second : List α) (count : Nat) :
    (if count - (first.take count).length = 0 then first.take count
      else first.take count ++ second.take (count - (first.take count).length)) = (first ++ second).take count := by
  rw [List.take_append, List.length_take, show count - min count first.length = count - first.length by omega]
  split
  · rename_i full
    rw [full, List.take_zero, List.append_nil]
  · rfl

theorem resolvedDeprovisioningCandidates_eq (nodes : List ResolvedNode) (count : Nat) :
    c.resolvedDeprovisioningCandidates nodes count =
      ((nodes.filter c.isEmptyNode).map (·.nodeClaim) ++
        (c.sortedNonEmptyNodes nodes).map (·.node.nodeClaim)).take count := by
  simp only [resolvedDeprovisioningCandidates, List.map_take, take_stages]

/-- The three stages take a prefix of the queue together. -/
theorem getDeprovisioningCandidates_eq (nodePoolName : String) (count : Nat) :
    c.getDeprovisioningCandidates nodePoolName count = ((c.queue nodePoolName).take count).map (·.nodeClaim) := by
  simp only [getDeprovisioningCandidates, unresolvedDeprovisioningCandidates, resolvedDeprovisioningCandidates_eq,
    take_stages, queue, List.map_take, List.map_append, List.map_map, Function.comp_def, List.map_id', entryOf]

section Listed

variable {c} (listed : ∀ name, (c.podsOn name).isSome = true)
include listed

theorem exists_pods (n : ResolvedNode) : ∃ pods, c.pods n = some pods := by
  rw [pods]
  split
  · exact ⟨[], rfl⟩
  · split
    · exact ⟨[], rfl⟩
    · exact Option.isSome_iff_exists.mp (listed _)

theorem entryOf_empty (empty : c.isEmptyNode n = true) : (c.entryOf n).cls = .empty := by
  obtain ⟨pods, found⟩ := exists_pods listed n
  rw [isEmptyNode, found, Option.any_some] at empty
  simp [entryOf, found, empty]

theorem entryOf_nonEmpty (found : c.nonEmptyNode n = some m) : c.entryOf m.node = c.nonEmptyEntry m := by
  obtain ⟨pods, here⟩ := exists_pods listed n
  rw [nonEmptyNode, isEmptyNode, here, Option.any_some] at found
  split at found
  · cases found
  · rename_i occupied
    obtain rfl := Option.some.inj found
    simp [entryOf, nonEmptyEntry, here, occupied, cost]

/-- The nodes with pods are the ones that are not empty, in some order. -/
theorem perm_sortedNonEmptyNodes (nodes : List ResolvedNode) :
    ((c.sortedNonEmptyNodes nodes).map (·.node)).Perm (nodes.filter fun n => !c.isEmptyNode n) := by
  refine ((List.perm_insertionSort _ _).map _).trans (.of_eq ?_)
  induction nodes with
  | nil => rfl
  | cons n nodes ih =>
    obtain ⟨pods, found⟩ := exists_pods listed n
    rw [List.filterMap_cons, List.filter_cons, ← ih, nonEmptyNode, found]
    by_cases empty : c.isEmptyNode n = true <;> simp [empty]

theorem perm_stages (nodes : List ResolvedNode) :
    (nodes.filter c.isEmptyNode ++ (c.sortedNonEmptyNodes nodes).map (·.node)).Perm nodes :=
  ((perm_sortedNonEmptyNodes listed nodes).append_left _).trans (List.filter_append_perm _ nodes)

theorem mem_queue : e ∈ c.queue nodePoolName ↔ c.Eligible nodePoolName e := by
  have resolved : ((c.nodesOf nodePoolName).filter c.isEmptyNode).map c.entryOf ++
      (c.sortedNonEmptyNodes (c.nodesOf nodePoolName)).map (c.entryOf ·.node) =
    ((c.nodesOf nodePoolName).filter c.isEmptyNode ++
      (c.sortedNonEmptyNodes (c.nodesOf nodePoolName)).map (·.node)).map c.entryOf := by
    rw [List.map_append, List.map_map]
    rfl
  rw [queue, resolved, List.mem_append, ((perm_stages listed _).map c.entryOf).mem_iff, List.mem_map, List.mem_map,
    Eligible]
  simp only [eq_comm]

end Listed

theorem compareNodes_ne_gt :
    c.compareNodes i j ≠ .gt ↔ toLex (i.hasDoNotDisrupt, c.cost i) ≤ toLex (j.hasDoNotDisrupt, c.cost j) := by
  rw [Prod.Lex.toLex_le_toLex, compareNodes]
  cases i.hasDoNotDisrupt <;> cases j.hasDoNotDisrupt <;> simp [compare_le_iff_le]

theorem pairwise_sortedNonEmptyNodes (nodes : List ResolvedNode) : (c.sortedNonEmptyNodes nodes).Pairwise fun i j =>
      toLex (i.hasDoNotDisrupt, c.cost i) ≤ toLex (j.hasDoNotDisrupt, c.cost j) := by
  have total : Std.Total fun i j : NonEmptyNode => c.compareNodes i j ≠ .gt :=
    ⟨fun i j => by simpa only [compareNodes_ne_gt] using le_total _ _⟩
  have trans : IsTrans NonEmptyNode fun i j => c.compareNodes i j ≠ .gt :=
    ⟨fun i j k => by simpa only [compareNodes_ne_gt] using le_trans⟩
  refine (List.pairwise_insertionSort (fun i j => c.compareNodes i j ≠ .gt) _).imp ?_
  exact c.compareNodes_ne_gt.mp

theorem rank_nonEmptyEntry (m : NonEmptyNode) : Class.empty.rank < (c.nonEmptyEntry m).cls.rank := by
  rw [nonEmptyEntry]
  cases m.hasDoNotDisrupt <;> simp [Class.rank]

theorem below_nonEmptyEntry (le : toLex (i.hasDoNotDisrupt, c.cost i) ≤ toLex (j.hasDoNotDisrupt, c.cost j)) :
    (c.nonEmptyEntry i).Below (c.nonEmptyEntry j) := by
  rcases Prod.Lex.toLex_le_toLex.mp le with less | ⟨same, le⟩
  · obtain ⟨left, right⟩ := Bool.lt_iff.mp less
    left
    rw [nonEmptyEntry, nonEmptyEntry, show i.hasDoNotDisrupt = false from left, show j.hasDoNotDisrupt = true from right]
    simp [Class.rank]
  · right
    refine ⟨?_, fun _ => le⟩
    rw [nonEmptyEntry, nonEmptyEntry, show i.hasDoNotDisrupt = j.hasDoNotDisrupt from same]

/-- The queue goes from the least valuable NodeClaim to the most valuable. -/
theorem pairwise_queue (listed : ∀ name, (c.podsOn name).isSome = true) (nodePoolName : String) :
    (c.queue nodePoolName).Pairwise Entry.Below := by
  have unlaunched : ∀ e ∈ (c.unresolvedNodeClaims nodePoolName).map (⟨·, .unlaunched, 0⟩ : StaticNodeClaim → Entry),
      e.cls = .unlaunched := by
    intro e member
    obtain ⟨nc, -, rfl⟩ := List.mem_map.mp member
    rfl
  have empty : ∀ e ∈ ((c.nodesOf nodePoolName).filter c.isEmptyNode).map c.entryOf, e.cls = .empty := by
    intro e member
    obtain ⟨n, found, rfl⟩ := List.mem_map.mp member
    exact entryOf_empty listed (List.mem_filter.mp found).2
  have occupied : (c.sortedNonEmptyNodes (c.nodesOf nodePoolName)).map (c.entryOf ·.node) =
      (c.sortedNonEmptyNodes (c.nodesOf nodePoolName)).map c.nonEmptyEntry := by
    refine List.map_congr_left fun m member => ?_
    obtain ⟨n, -, found⟩ := List.mem_filterMap.mp ((List.mem_insertionSort _).mp member)
    exact entryOf_nonEmpty listed found
  rw [queue, occupied, List.pairwise_append, List.pairwise_append, List.pairwise_map (f := c.nonEmptyEntry)]
  refine ⟨?_, ⟨?_, ?_, ?_⟩, ?_⟩
  · refine List.pairwise_of_forall_mem_list fun a first b second => ?_
    exact .inr ⟨(unlaunched a first).trans (unlaunched b second).symm, by simp [unlaunched a first, Class.rank]⟩
  · refine List.pairwise_of_forall_mem_list fun a first b second => ?_
    exact .inr ⟨(empty a first).trans (empty b second).symm, by simp [empty a first]⟩
  · exact (c.pairwise_sortedNonEmptyNodes _).imp c.below_nonEmptyEntry
  · intro a first b second
    obtain ⟨m, -, rfl⟩ := List.mem_map.mp second
    exact .inl (empty a first ▸ c.rank_nonEmptyEntry m)
  · intro a first b second
    left
    rw [unlaunched a first]
    rcases List.mem_append.mp second with second | second
    · rw [empty b second]
      decide
    · obtain ⟨m, -, rfl⟩ := List.mem_map.mp second
      exact (Nat.zero_le _).trans_lt (c.rank_nonEmptyEntry m)

section Names

variable {c} (consistent : c.Consistent)
include consistent

theorem nodup_nodesOf (nodePoolName : String) : ((c.nodesOf nodePoolName).map (·.nodeClaim.name)).Nodup := by
  refine consistent.once.sublist ?_
  rw [nodesOf, List.map_filterMap]
  induction c.nodes with
  | nil => exact .slnil
  | cons n nodes ih =>
    rw [List.filterMap_cons, List.filterMap_cons]
    cases n.nodeClaim with
    | none => exact ih
    | some nc =>
      rw [Option.bind_some]
      by_cases kept : label n.toStateNode.labels nodePoolLabelKey = nodePoolName ∧
          n.toStateNode.isMarkedForDeletion = false
      · rw [if_pos kept]
        exact ih.cons_cons nc.name
      · rw [if_neg kept]
        exact ih.cons nc.name

theorem mem_nodesOf (member : n ∈ c.nodesOf nodePoolName) : n.nodeClaim ∈ c.nodeClaims ∧ n.nodeClaim.providerID ≠ "" := by
  obtain ⟨tracked, found, kept⟩ := List.mem_filterMap.mp member
  obtain ⟨nc, has, kept⟩ := Option.bind_eq_some_iff.mp kept
  split at kept
  · obtain rfl := Option.some.inj kept
    exact consistent.tracked tracked found nc has
  · cases kept

/-- A NodeClaim has not launched or is tracked, but not both. -/
theorem nodup_queue (listed : ∀ name, (c.podsOn name).isSome = true) (nodePoolName : String) :
    ((c.queue nodePoolName).map (·.nodeClaim.name)).Nodup := by
  have names : (c.queue nodePoolName).map (·.nodeClaim.name) =
      (c.unresolvedNodeClaims nodePoolName).map (·.name) ++ ((c.nodesOf nodePoolName).filter c.isEmptyNode ++
        (c.sortedNonEmptyNodes (c.nodesOf nodePoolName)).map (·.node)).map (·.nodeClaim.name) := by
    simp only [queue, List.map_append, List.map_map, Function.comp_def, entryOf]
  have stages := (perm_stages listed (c.nodesOf nodePoolName)).map (·.nodeClaim.name)
  rw [names, List.nodup_append, stages.nodup_iff]
  refine ⟨consistent.listed.sublist ((List.filter_sublist.trans List.filter_sublist).map _),
    nodup_nodesOf consistent nodePoolName, ?_⟩
  intro name unresolved other resolved same
  obtain ⟨nc, found, rfl⟩ := List.mem_map.mp unresolved
  obtain ⟨n, tracked, rfl⟩ := List.mem_map.mp (stages.mem_iff.mp resolved)
  obtain ⟨isListed, launched⟩ := mem_nodesOf consistent tracked
  obtain ⟨found, waiting⟩ := List.mem_filter.mp found
  have equal := List.inj_on_of_nodup_map consistent.listed (List.mem_filter.mp found).1 isListed same
  rw [Bool.and_eq_true, decide_eq_true_iff, equal] at waiting
  exact launched waiting.1

end Names

/-- What scaling down is for: it takes the least valuable NodeClaims and no more than there are too many. -/
structure TakesLeastValuable (np : NodePool) (n : NodePoolState) (deleted : List StaticNodeClaim) : Prop where
  distinct : (deleted.map (·.name)).Nodup
  atMost : (deleted.length : Int) ≤ max ((n.getNodeCount np.name).1 - np.replicas.getD 0) 0
  eligible : ∀ nc ∈ deleted, ∃ e, c.Eligible np.name e ∧ e.nodeClaim = nc
  betterFirst : ∀ gone e, c.Eligible np.name gone → c.Eligible np.name e → gone.nodeClaim ∈ deleted →
    e.cls.rank < gone.cls.rank → e.nodeClaim ∈ deleted
  cheapestFirst : ∀ gone kept, c.Eligible np.name gone → c.Eligible np.name kept → gone.nodeClaim ∈ deleted →
    kept.nodeClaim ∉ deleted → gone.cls = kept.cls → gone.cls = .disruptable ∨ gone.cls = .doNotDisrupt →
    gone.cost ≤ kept.cost

section Taking

variable {c} (consistent : c.Consistent) (listed : ∀ name, (c.podsOn name).isSome = true)
include consistent listed

theorem below_of_taken (goes : gone ∈ c.queue nodePoolName) (stays : kept ∈ c.queue nodePoolName)
    (taken : gone.nodeClaim ∈ ((c.queue nodePoolName).take count).map (·.nodeClaim))
    (left : kept.nodeClaim ∉ ((c.queue nodePoolName).take count).map (·.nodeClaim)) : gone.Below kept := by
  obtain ⟨entry, found, same⟩ := List.mem_map.mp taken
  have equal : entry = gone := List.inj_on_of_nodup_map (nodup_queue consistent listed nodePoolName)
    (List.mem_of_mem_take found) goes (congrArg (·.name) same)
  subst equal
  have dropped : kept ∈ (c.queue nodePoolName).drop count := by
    rw [← List.take_append_drop count (c.queue nodePoolName), List.mem_append] at stays
    exact stays.resolve_left fun early => left (List.mem_map_of_mem early)
  have ordered := c.pairwise_queue listed nodePoolName
  rw [← List.take_append_drop count (c.queue nodePoolName), List.pairwise_append] at ordered
  exact ordered.2.2 entry found kept dropped

theorem takesLeastValuable_take (np : NodePool) (n : NodePoolState) (count : Nat)
    (le : (count : Int) ≤ max ((n.getNodeCount np.name).1 - np.replicas.getD 0) 0) :
    c.TakesLeastValuable np n (((c.queue np.name).take count).map (·.nodeClaim)) where
  distinct := by
    rw [List.map_map]
    exact (nodup_queue consistent listed np.name).sublist ((List.take_sublist _ _).map _)
  atMost := by
    rw [List.length_map, List.length_take]
    exact le_trans (by omega) le
  eligible nc member := by
    obtain ⟨e, found, rfl⟩ := List.mem_map.mp member
    exact ⟨e, (mem_queue listed).mp (List.mem_of_mem_take found), rfl⟩
  betterFirst gone e goes stays taken better := by
    by_contra left
    rcases below_of_taken consistent listed ((mem_queue listed).mpr goes) ((mem_queue listed).mpr stays) taken left
      with less | ⟨same, -⟩
    · omega
    · rw [same] at better
      exact lt_irrefl _ better
  cheapestFirst gone kept goes stays taken left same last := by
    rcases below_of_taken consistent listed ((mem_queue listed).mpr goes) ((mem_queue listed).mpr stays) taken left
      with less | ⟨-, le⟩
    · rw [same] at less
      exact absurd less (lt_irrefl _)
    · refine le ?_
      rcases last with last | last <;> rw [last] <;> decide

end Taking

/-- For every NodePool and every state, with consistent listings and without failures. -/
theorem deprovision_takesLeastValuable (np : NodePool) (n : NodePoolState) (consistent : c.Consistent)
    (listed : ∀ name, (c.podsOn name).isSome = true) (deletes : ∀ name, c.deletes name = true) :
    c.TakesLeastValuable np n (c.deprovision np n).1 := by
  have nothing : c.TakesLeastValuable np n [] :=
    takesLeastValuable_take consistent listed np n 0 (le_max_right _ _)
  rw [deprovision]
  split
  · exact nothing
  · dsimp only
    split
    · exact nothing
    · rename_i positive
      rw [getDeprovisioningCandidates_eq, List.filter_eq_self.mpr fun nc _ => deletes nc.name]
      refine takesLeastValuable_take consistent listed np n _ ?_
      rw [Int.toNat_of_nonneg (by omega)]
      exact le_max_left _ _

/-- A NodeClaim that has not launched goes before an empty node. -/
theorem deprovision_takesLeastValuable_one : let labels := Go.Map.ofList [(nodePoolLabelKey, "static")]
    let waiting : StaticNodeClaim := { name := "waiting", labels := labels }
    let launched : StaticNodeClaim := { name := "launched", providerID := "id", labels := labels }
    let c : Cluster := ⟨0, fun _ => none, false, [launched, waiting], [⟨none, some launched, false⟩], fun _ => some [],
      fun _ => true⟩
    let np : NodePool := { name := "static", replicas := some 1, named := by decide }
    let n := (NodePoolState.markNodeClaimActive {} "static" "waiting").markNodeClaimActive "static" "launched"
    c.Consistent ∧ (c.deprovision np n).1.map (·.name) = ["waiting"] ∧
      c.TakesLeastValuable np n (c.deprovision np n).1 := by
  intro labels waiting launched c np n
  have consistent : c.Consistent := by
    refine ⟨by decide, ?_, by decide⟩
    intro n member nc has
    obtain rfl := List.mem_singleton.mp member
    obtain rfl := Option.some.inj has
    exact ⟨List.mem_cons_self, by decide⟩
  exact ⟨consistent, by decide +kernel,
    c.deprovision_takesLeastValuable np n consistent (fun _ => rfl) (fun _ => rfl)⟩

end Cluster

end Karpenter.Static
