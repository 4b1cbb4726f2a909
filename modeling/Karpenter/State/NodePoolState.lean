import Karpenter.State.StateNode

/-! The NodeClaims of the static NodePools by the phase they are in, and the counter of the nodes that are reserved
against the node limit and not launched yet. The counter and the sets live in maps of their own, and `cleanup` drops
both entries of a NodePool together. The lock makes every operation atomic, so the retried compare-and-swap of the
counter is one update. -/
namespace Karpenter.State

open Go (Map)

/-- The phase a NodeClaim is tracked in. -/
inductive Phase where
  | active
  | pendingDisruption
  | deleting
deriving DecidableEq

structure NodeClaimState where
  active : Finset String
  pendingDisruption : Finset String
  deleting : Finset String
deriving DecidableEq

namespace NodeClaimState

def new : NodeClaimState := ⟨∅, ∅, ∅⟩

variable (st : NodeClaimState)

/-- The NodeClaim is entered in one of the sets and taken out of the other two. -/
def move (phase : Phase) (ncName : String) : NodeClaimState where
  active := if phase = .active then insert ncName st.active else st.active.erase ncName
  pendingDisruption :=
    if phase = .pendingDisruption then insert ncName st.pendingDisruption else st.pendingDisruption.erase ncName
  deleting := if phase = .deleting then insert ncName st.deleting else st.deleting.erase ncName

def remove (ncName : String) : NodeClaimState :=
  ⟨st.active.erase ncName, st.pendingDisruption.erase ncName, st.deleting.erase ncName⟩

def count : Nat := st.active.card + st.deleting.card + st.pendingDisruption.card

/-- The NodeClaims of all three phases. -/
def tracked : Finset String := st.active ∪ st.deleting ∪ st.pendingDisruption

theorem card_tracked_le : st.tracked.card ≤ st.count :=
  (Finset.card_union_le _ _).trans (Nat.add_le_add_right (Finset.card_union_le _ _) _)

theorem mem_tracked_move (phase : Phase) (ncName name : String) :
    name ∈ (st.move phase ncName).tracked ↔ name = ncName ∨ name ∈ st.tracked := by
  cases phase <;> by_cases same : name = ncName <;> simp [move, tracked, same]

theorem mem_tracked_remove (ncName name : String) :
    name ∈ (st.remove ncName).tracked ↔ name ≠ ncName ∧ name ∈ st.tracked := by
  simp only [remove, tracked, Finset.mem_union, Finset.mem_erase]
  tauto

end NodeClaimState

structure NodePoolState where
  nodePoolNameToNodeClaimState : Map String NodeClaimState := ∅
  nodeClaimNameToNodePoolName : Map String String := ∅
  nodePoolNameToNodePoolLimit : Map String Int := ∅

namespace NodePoolState

variable (n : NodePoolState)

/-- The sets of a NodePool, empty ones where there is no entry. -/
def claims (np : String) : NodeClaimState :=
  (n.nodePoolNameToNodeClaimState.lookup np).getD .new

/-- The nodes reserved for a NodePool, none where there is no entry. -/
def reserved (np : String) : Int := (n.nodePoolNameToNodePoolLimit.lookup np).getD 0

def ensureNodePoolEntry (np : String) : NodePoolState :=
  { n with
    nodePoolNameToNodeClaimState := n.nodePoolNameToNodeClaimState.insert np (n.claims np)
    nodePoolNameToNodePoolLimit := n.nodePoolNameToNodePoolLimit.insert np (n.reserved np) }

def setNodeClaimMapping (npName ncName : String) : NodePoolState :=
  if npName = "" ∨ ncName = "" then n
  else
    let n := n.ensureNodePoolEntry npName
    { n with nodeClaimNameToNodePoolName := n.nodeClaimNameToNodePoolName.insert ncName npName }

def mark (phase : Phase) (n : NodePoolState) (npName ncName : String) : NodePoolState :=
  let n := n.ensureNodePoolEntry npName
  { n with
    nodePoolNameToNodeClaimState :=
      n.nodePoolNameToNodeClaimState.insert npName ((n.claims npName).move phase ncName) }

def markNodeClaimActive : NodePoolState → String → String → NodePoolState := mark .active
def markNodeClaimDeleting : NodePoolState → String → String → NodePoolState := mark .deleting

/-- The names of a NodePool whose last active and deleting NodeClaims are gone are dropped with its counter,
whatever is still pending disruption or reserved. -/
def cleanupNodePool (npName : String) (npState : NodeClaimState) : NodePoolState :=
  if npState.active = ∅ ∧ npState.deleting = ∅ then
    { n with
      nodePoolNameToNodeClaimState := n.nodePoolNameToNodeClaimState.erase npName
      nodePoolNameToNodePoolLimit := n.nodePoolNameToNodePoolLimit.erase npName }
  else { n with nodePoolNameToNodeClaimState := n.nodePoolNameToNodeClaimState.insert npName npState }

/-- The NodePool `cleanup` looks a NodeClaim up in, the empty name if it was never mapped. -/
def nodePoolOf (ncName : String) : String :=
  (n.nodeClaimNameToNodePoolName.lookup ncName).getD ""

def cleanup (ncName : String) : NodePoolState :=
  let npName := n.nodePoolOf ncName
  let n' := match n.nodePoolNameToNodeClaimState.lookup npName with
    | some npState => n.cleanupNodePool npName (npState.remove ncName)
    | none => n
  { n' with nodeClaimNameToNodePoolName := n'.nodeClaimNameToNodePoolName.erase ncName }

/-- Cleaning up after the NodeClaim drops the entries of the NodePool. -/
def Drops (np ncName : String) : Prop :=
  n.nodePoolOf ncName = np ∧ ∃ npState, n.nodePoolNameToNodeClaimState.lookup np = some npState ∧
    (npState.remove ncName).active = ∅ ∧ (npState.remove ncName).deleting = ∅

/-- What `ReserveNodeCount` takes to be left of the limit, in the arithmetic of `int64`. -/
def remainingLimit (np : String) (limit : Int) : Int :=
  Go.wrap (Go.wrap (limit - (n.claims np).count) - n.reserved np)

def grantedLimit (np : String) (limit wantedLimit : Int) : Int :=
  if wantedLimit > n.remainingLimit np limit then n.remainingLimit np limit else wantedLimit

def reserveNodeCount (np : String) (limit wantedLimit : Int) : NodePoolState × Int :=
  let n := n.ensureNodePoolEntry np
  if n.remainingLimit np limit < 0 then (n, 0)
  else
    let granted := n.grantedLimit np limit wantedLimit
    ({ n with
        nodePoolNameToNodePoolLimit :=
          n.nodePoolNameToNodePoolLimit.insert np (Go.wrap (n.reserved np + granted)) }, granted)

def releaseNodeCount (npName : String) (count : Int) : NodePoolState :=
  match n.nodePoolNameToNodePoolLimit.lookup npName with
  | none => n
  | some currentlyReserved =>
    { n with
      nodePoolNameToNodePoolLimit := n.nodePoolNameToNodePoolLimit.insert npName
        (if Go.wrap (currentlyReserved - count) < 0 then 0 else Go.wrap (currentlyReserved - count)) }

def updateNodeClaim (nodeClaim : NodeClaim) (markedForDeletion : Bool) : NodePoolState :=
  let npName := label nodeClaim.labels nodePoolLabelKey
  if npName = "" then n
  else
    let n := n.setNodeClaimMapping npName nodeClaim.name
    if markedForDeletion then n.markNodeClaimDeleting npName nodeClaim.name
    else n.markNodeClaimActive npName nodeClaim.name

/-- The sizes of the three sets: active, deleting, pending disruption. -/
def getNodeCount (npName : String) : Nat × Nat × Nat :=
  ((n.claims npName).active.card, (n.claims npName).deleting.card, (n.claims npName).pendingDisruption.card)

section

variable (n : NodePoolState) (np ncName : String)

@[simp]
theorem claims_ensureNodePoolEntry : (n.ensureNodePoolEntry np).claims np = n.claims np := by
  simp [claims, ensureNodePoolEntry]

@[simp]
theorem reserved_ensureNodePoolEntry : (n.ensureNodePoolEntry np).reserved np = n.reserved np := by
  simp [reserved, ensureNodePoolEntry]

theorem remainingLimit_congr {n n' : NodePoolState} (claims : n'.claims np = n.claims np)
    (reserved : n'.reserved np = n.reserved np) (limit : Int) :
    n'.remainingLimit np limit = n.remainingLimit np limit := by
  rw [remainingLimit, remainingLimit, claims, reserved]

@[simp]
theorem remainingLimit_ensureNodePoolEntry (limit : Int) :
    (n.ensureNodePoolEntry np).remainingLimit np limit = n.remainingLimit np limit :=
  remainingLimit_congr np (claims_ensureNodePoolEntry n np) (reserved_ensureNodePoolEntry n np) limit

@[simp]
theorem claims_mark (phase : Phase) : (mark phase n np ncName).claims np = (n.claims np).move phase ncName := by
  have found : (mark phase n np ncName).claims np = ((n.ensureNodePoolEntry np).claims np).move phase ncName := by
    simp [mark, claims]
  rw [found, claims_ensureNodePoolEntry]

@[simp]
theorem reserved_mark (phase : Phase) : (mark phase n np ncName).reserved np = n.reserved np :=
  reserved_ensureNodePoolEntry n np

@[simp]
theorem claims_setNodeClaimMapping : (n.setNodeClaimMapping np ncName).claims np = n.claims np := by
  rw [setNodeClaimMapping]
  split
  · rfl
  · exact claims_ensureNodePoolEntry n np

@[simp]
theorem reserved_setNodeClaimMapping : (n.setNodeClaimMapping np ncName).reserved np = n.reserved np := by
  rw [setNodeClaimMapping]
  split
  · rfl
  · exact reserved_ensureNodePoolEntry n np

/-- The phase `updateNodeClaim` moves a NodeClaim to. -/
def updatedPhase (markedForDeletion : Bool) : Phase := if markedForDeletion then .deleting else .active

variable {np} in
theorem updateNodeClaim_spec {nodeClaim : NodeClaim} (named : np ≠ "")
    (labelled : label nodeClaim.labels nodePoolLabelKey = np) (markedForDeletion : Bool) :
    (n.updateNodeClaim nodeClaim markedForDeletion).claims np =
        (n.claims np).move (updatedPhase markedForDeletion) nodeClaim.name ∧
      (n.updateNodeClaim nodeClaim markedForDeletion).reserved np = n.reserved np := by
  subst labelled
  rw [updateNodeClaim, if_neg named]
  cases markedForDeletion <;> simp [markNodeClaimActive, markNodeClaimDeleting, updatedPhase]

@[simp]
theorem claims_reserveNodeCount (limit wantedLimit : Int) :
    (n.reserveNodeCount np limit wantedLimit).1.claims np = n.claims np := by
  rw [reserveNodeCount]
  split
  · exact claims_ensureNodePoolEntry n np
  · exact claims_ensureNodePoolEntry n np

theorem granted_reserveNodeCount (limit wantedLimit : Int) : (n.reserveNodeCount np limit wantedLimit).2 =
      if n.remainingLimit np limit < 0 then 0 else n.grantedLimit np limit wantedLimit := by
  rw [reserveNodeCount]
  rw [remainingLimit_ensureNodePoolEntry]
  split
  · rfl
  · simp [grantedLimit]

theorem reserved_reserveNodeCount (limit wantedLimit : Int) : (n.reserveNodeCount np limit wantedLimit).1.reserved np =
      if n.remainingLimit np limit < 0 then n.reserved np
      else Go.wrap (n.reserved np + n.grantedLimit np limit wantedLimit) := by
  rw [reserveNodeCount]
  rw [remainingLimit_ensureNodePoolEntry]
  split
  · exact reserved_ensureNodePoolEntry n np
  · rw [grantedLimit, remainingLimit_ensureNodePoolEntry, reserved_ensureNodePoolEntry]
    simp [reserved, grantedLimit]

/-- Releasing no more than is reserved. -/
theorem reserved_releaseNodeCount (count : Nat) (enough : count ≤ n.reserved np) (small : n.reserved np ≤ Go.maxInt) :
    (n.releaseNodeCount np count).reserved np = n.reserved np - count := by
  have exact_ : Go.wrap (n.reserved np - count) = n.reserved np - count :=
    Go.wrap_of_range (by rw [Go.minInt]; omega) (by omega)
  rw [releaseNodeCount]
  split
  · rename_i none_
    have zero : n.reserved np = 0 := by rw [reserved, none_, Option.getD_none]
    omega
  · rename_i current found
    have same : n.reserved np = current := by rw [reserved, found, Option.getD_some]
    rw [← same, exact_, if_neg (by omega), reserved]
    simp

/-- Cleaning up drops the entries of the NodePool, takes the NodeClaim out of its sets, or leaves them alone. -/
theorem cleanup_cases : n.Drops np ncName ∧ (n.cleanup ncName).claims np = .new ∧ (n.cleanup ncName).reserved np = 0 ∨
      ((n.cleanup ncName).claims np = (n.claims np).remove ncName ∨ (n.cleanup ncName).claims np = n.claims np) ∧
        (n.cleanup ncName).reserved np = n.reserved np := by
  simp only [cleanup]
  cases found : n.nodePoolNameToNodeClaimState.lookup (n.nodePoolOf ncName) with
  | none => exact .inr ⟨.inr rfl, rfl⟩
  | some npState =>
    simp only [cleanupNodePool]
    by_cases own : n.nodePoolOf ncName = np
    · rw [own] at found ⊢
      split
      · rename_i empty
        exact .inl ⟨⟨own, npState, found, empty⟩, by simp [claims], by simp [reserved]⟩
      · exact .inr ⟨.inl (by simp [claims, found]), rfl⟩
    · have other : np ≠ n.nodePoolOf ncName := Ne.symm own
      refine .inr ⟨.inr ?_, ?_⟩ <;> split <;> simp [claims, reserved, other]

@[simp]
theorem claims_releaseNodeCount (count : Int) : (n.releaseNodeCount np count).claims np = n.claims np := by
  rw [releaseNodeCount]
  split <;> rfl

end

end NodePoolState
end Karpenter.State
