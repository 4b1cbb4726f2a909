import Karpenter.State.NodePoolState
import Mathlib.Data.Set.Finite.Basic

/-! The controller that keeps a static NodePool at its replica count. Whether to provision is decided with the
NodeClaims that are pending disruption counted as running; how many to provision is not. -/
namespace Karpenter.Static

open Go (Map)
open Resources (ResourceList)
open State

/-- A NodePool as the controller reads it. `managed` and `ready` are the outcomes of the checks of its class and of
its root status condition. -/
structure NodePool where
  name : String
  managed : Bool := true
  ready : Bool := true
  deleting : Bool := false
  replicas : Option Int := none
  limits : ResourceList := ∅
  named : name ≠ ""

variable (np : NodePool)

/-- The node limit, the largest `int64` if there is none. -/
def NodePool.nodeLimit : Int := (np.limits.lookup Resources.node).elim Go.maxInt Resources.value

/-- The NodeClaim of the NodePool's template under the name that the API server gave it. Of its labels only the name
of the NodePool plays a part here. -/
def NodePool.toNodeClaim (name : String) : NodeClaim where
  name := name
  labels := Map.ofList [(nodePoolLabelKey, np.name)]

/-- One worker of `CreateNodeClaims`: a NodeClaim that was created is recorded as active, and the reservation is
released either way. `created` is the name given by the API server, or nothing if the creation failed. -/
def createNodeClaim (np : NodePool) (n : NodePoolState) (created : Option String) : NodePoolState :=
  let n := match created with
    | some name => n.updateNodeClaim (np.toNodeClaim name) false
    | none => n
  if np.replicas.isSome then n.releaseNodeCount np.name 1 else n

/-- The workers run in parallel. The sets and the counter are separate maps and every operation is atomic, so the
workers are taken one after another. -/
def createNodeClaims (np : NodePool) (n : NodePoolState) (created : List (Option String)) : NodePoolState :=
  created.foldl (createNodeClaim np) n

inductive Result where
  | done
  | requeueAfter (seconds : Nat)
  | error
deriving DecidableEq

/-- The NodePool is one that the controller provisions for, seen with a synced cluster state. -/
def NodePool.provisions (synced : Bool) : Bool :=
  np.managed && np.ready && np.replicas.isSome && !np.deleting && synced

/-- The part of `reconcile` for a NodePool that is provisioned for. `created i` is the outcome of the `i`-th
creation. -/
def provision (np : NodePool) (created : Nat → Option String) (n : NodePoolState) : Result × NodePoolState :=
  let runningNodeClaims := (n.getNodeCount np.name).1
  let nodesPendingDisruptionCount := (n.getNodeCount np.name).2.2
  let desiredReplicas := np.replicas.getD 0
  if (runningNodeClaims : Int) + nodesPendingDisruptionCount ≥ desiredReplicas then (.requeueAfter 60, n)
  else
    let (n, countNodeClaimsToProvision) :=
      n.reserveNodeCount np.name np.nodeLimit (desiredReplicas - runningNodeClaims)
    if countNodeClaimsToProvision ≤ 0 then (.requeueAfter 30, n)
    else
      let outcomes := (List.range countNodeClaimsToProvision.toNat).map created
      (if outcomes.all (·.isSome) then .requeueAfter 60 else .error, createNodeClaims np n outcomes)

def reconcile (np : NodePool) (synced : Bool) (created : Nat → Option String) (n : NodePoolState) :
    Result × NodePoolState :=
  if !np.managed || !np.ready || np.replicas.isNone || np.deleting then (.done, n)
  else if !synced then (.requeueAfter 1, n)
  else provision np created n

/-- The NodeClaims that are active or pending disruption. -/
def live (st : NodeClaimState) : Nat := st.active.card + st.pendingDisruption.card

theorem live_move_le (st : NodeClaimState) (name : String) : live (st.move .active name) ≤ live st + 1 := by
  have entered := Finset.card_insert_le name st.active
  have left : (st.pendingDisruption.erase name).card ≤ st.pendingDisruption.card := Finset.card_erase_le
  simp only [live, NodeClaimState.move, if_true, reduceCtorEq, if_false]
  omega

theorem live_move_fresh (inactive : name ∉ st.active) (settled : name ∉ st.pendingDisruption) :
    live (st.move .active name) = live st + 1 := by
  simp only [live, NodeClaimState.move, if_true, reduceCtorEq, if_false, Finset.card_insert_of_notMem inactive,
    Finset.erase_eq_of_notMem settled]
  omega

variable (n : NodePoolState)

theorem claims_createNodeClaim (name : String) :
    (createNodeClaim np n (some name)).claims np.name = (n.claims np.name).move .active name := by
  have labelled : label (np.toNodeClaim name).labels nodePoolLabelKey = np.name := by
    simp [label, NodePool.toNodeClaim, Map.lookup_ofList]
  have updated := (n.updateNodeClaim_spec np.named labelled false).1
  rw [createNodeClaim]
  split
  · rw [NodePoolState.claims_releaseNodeCount]
    exact updated
  · exact updated

theorem claims_createNodeClaims (names : List String) : (createNodeClaims np n (names.map some)).claims np.name =
      names.foldl (fun st name => st.move .active name) (n.claims np.name) := by
  induction names generalizing n with
  | nil => rfl
  | cons name names ih =>
    show (createNodeClaims np (createNodeClaim np n (some name)) (names.map some)).claims np.name = _
    rw [ih, claims_createNodeClaim]
    rfl

theorem live_foldl_le (names : List String) (st : NodeClaimState) :
    live (names.foldl (fun st name => st.move .active name) st) ≤ live st + names.length := by
  induction names generalizing st with
  | nil => exact le_refl _
  | cons name names ih =>
    have rest := ih (st.move .active name)
    have first := live_move_le st name
    simp only [List.foldl_cons, List.length_cons]
    omega

theorem live_foldl_fresh {names : List String} (distinct : names.Nodup)
    (fresh : ∀ name ∈ names, name ∉ st.active ∧ name ∉ st.pendingDisruption) :
    live (names.foldl (fun st name => st.move .active name) st) = live st + names.length := by
  induction names generalizing st with
  | nil => rfl
  | cons name names ih =>
    obtain ⟨absent, distinct⟩ := List.nodup_cons.mp distinct
    have still : ∀ other ∈ names,
        other ∉ (st.move .active name).active ∧ other ∉ (st.move .active name).pendingDisruption := by
      intro other member
      have different : other ≠ name := fun same => absent (same ▸ member)
      have before := fresh other (List.mem_cons_of_mem _ member)
      simp [NodeClaimState.move, different, before]
    obtain ⟨inactive, settled⟩ := fresh name List.mem_cons_self
    rw [List.foldl_cons, ih distinct still, live_move_fresh inactive settled, List.length_cons]
    omega

/-- The number of NodeClaims that are created for a NodePool short of its replicas. -/
def provisionCount (np : NodePool) (n : NodePoolState) : Nat :=
  if (live (n.claims np.name) : Int) < np.replicas.getD 0 then
    (n.reserveNodeCount np.name np.nodeLimit (np.replicas.getD 0 - (n.claims np.name).active.card)).2.toNat
  else 0

theorem claims_provision (names : Nat → String) (n : NodePoolState) :
    (provision np (fun i => some (names i)) n).2.claims np.name =
      ((List.range (provisionCount np n)).map names).foldl (fun st name => st.move .active name) (n.claims np.name) := by
  have counted : ((n.getNodeCount np.name).1 : Int) + (n.getNodeCount np.name).2.2 = live (n.claims np.name) := by
    simp [NodePoolState.getNodeCount, live]
  rw [provision, provisionCount]
  dsimp only
  split
  · rename_i full
    rw [if_neg (by omega)]
    rfl
  · rename_i notFull
    have short : (live (n.claims np.name) : Int) < np.replicas.getD 0 := by omega
    rw [if_pos short]
    have same : (n.getNodeCount np.name).1 = (n.claims np.name).active.card := rfl
    rw [same]
    split
    · rename_i granted
      rw [Int.toNat_of_nonpos granted, NodePoolState.claims_reserveNodeCount]
      rfl
    · rw [show (fun i => some (names i)) = some ∘ names from rfl, ← List.map_map, claims_createNodeClaims,
        NodePoolState.claims_reserveNodeCount]

theorem reconcile_eq (synced : Bool) (created : Nat → Option String) (n : NodePoolState) :
    (reconcile np synced created n).2 = if np.provisions synced then (provision np created n).2 else n := by
  rw [reconcile, NodePool.provisions]
  cases np.managed <;> cases np.ready <;> cases np.replicas <;> cases np.deleting <;> cases synced <;> rfl

instance infiniteString : Infinite String :=
  Infinite.of_injective (fun length => String.ofList (List.replicate length 'a')) fun first second same => by
    have lengths := congrArg String.length same
    simpa using lengths

/-- The API server can always give names that are not in use. -/
theorem exists_fresh (used : Finset String) : ∃ names : Nat → String, names.Injective ∧ ∀ i, names i ∉ used := by
  have infinite : ((used : Set String)ᶜ).Infinite := used.finite_toSet.infinite_compl
  obtain ⟨names⟩ : Nonempty (Nat ↪ ((used : Set String)ᶜ : Set String)) := ⟨infinite.natEmbedding _⟩
  exact ⟨fun i => (names i).1, Subtype.val_injective.comp names.injective, fun i => (names i).2⟩

/-- The bound on what is live afterwards is one on the number of NodeClaims created: under fresh names each counts. -/
theorem live_provision_le_iff (bound : Int) :
    (∀ names : Nat → String, (live ((provision np (fun i => some (names i)) n).2.claims np.name) : Int) ≤ bound) ↔
      ((live (n.claims np.name) + provisionCount np n : Nat) : Int) ≤ bound := by
  constructor
  · intro bounded
    obtain ⟨names, injective, fresh⟩ :=
      exists_fresh ((n.claims np.name).active ∪ (n.claims np.name).pendingDisruption)
    have within := bounded names
    have unused : ∀ name ∈ (List.range (provisionCount np n)).map names,
        name ∉ (n.claims np.name).active ∧ name ∉ (n.claims np.name).pendingDisruption := by
      intro name member
      obtain ⟨i, -, rfl⟩ := List.mem_map.mp member
      simpa using fresh i
    rw [claims_provision, live_foldl_fresh (List.nodup_range.map injective) unused, List.length_map,
      List.length_range] at within
    exact within
  · intro within names
    have grown := live_foldl_le ((List.range (provisionCount np n)).map names) (n.claims np.name)
    rw [List.length_map, List.length_range] at grown
    rw [claims_provision]
    omega

/-- One reconcile keeps the NodePool at or under its replicas, or under what it had, exactly if nothing is pending
disruption when it provisions, or the node limit leaves no more room than the replicas do. -/
theorem reconcile_within_replicas_iff (np : NodePool) (synced : Bool) (n : NodePoolState) : (∀ names : Nat → String,
      (live ((reconcile np synced (fun i => some (names i)) n).2.claims np.name) : Int) ≤
        max (live (n.claims np.name) : Int) (np.replicas.getD 0)) ↔
      (np.provisions synced = true → (live (n.claims np.name) : Int) < np.replicas.getD 0 →
        (n.claims np.name).pendingDisruption = ∅ ∨
          n.remainingLimit np.name np.nodeLimit ≤ np.replicas.getD 0 - live (n.claims np.name)) := by
  by_cases provisions : np.provisions synced = true
  · simp only [reconcile_eq, provisions, if_true, true_implies]
    rw [live_provision_le_iff, provisionCount, ← Finset.card_eq_zero]
    split
    · rename_i short
      rw [NodePoolState.granted_reserveNodeCount, NodePoolState.grantedLimit]
      simp only [short, true_implies]
      rw [live] at *
      split
      · constructor <;> omega
      · split <;> constructor <;> omega
    · rename_i full
      simp [full]
  · simp [reconcile_eq, provisions]

/-- Two NodeClaims run, one is being replaced, and four replicas are wanted. -/
def replacing : NodePoolState where
  nodePoolNameToNodeClaimState := Map.ofList [("static", ⟨{"a", "b"}, {"c"}, ∅⟩)]

def fourReplicas : NodePool where
  name := "static"
  replicas := some 4
  named := by decide

/-- The replacement of the NodeClaim that is pending disruption is provisioned a second time: five in all. -/
theorem reconcile_within_replicas_replacing :
    live ((reconcile fourReplicas true (fun i => some (["d", "e"].getD i "")) replacing).2.claims "static") = 5 ∧
      max (live (replacing.claims "static") : Int) (fourReplicas.replicas.getD 0) = 4 := by
  decide +kernel

end Karpenter.Static
