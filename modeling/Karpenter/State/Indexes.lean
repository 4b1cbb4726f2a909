import Karpenter.SharedIndex
import Karpenter.State.PoolUsage

/-! The names under which the cluster state finds its nodes. Two Nodes, or two NodeClaims, may carry the same
provider ID; the node they are tracked as has one Node and one NodeClaim, and loses it when one of the names is
deleted or moves to another provider ID. A NodeClaim that has not been launched is known by name only. Where no
provider ID is shared, every run keeps the resources of the NodePools. -/
namespace Karpenter.State

open Go (Map)
open Resources (amountAt)

inductive Part where
  | node
  | nodeClaim
  deriving DecidableEq

def StateNode.hasPart (n : StateNode) : Part → Bool
  | .node => n.node.isSome
  | .nodeClaim => n.nodeClaim.isSome

namespace Cluster

variable (c : Cluster)

def holds (id : String) (part : Part) : Bool := (c.nodes.lookup id).any (·.hasPart part)

/-- The provider ID that a name leads to, unless it has none yet. -/
def led : Part → String → Option String
  | .node, name => c.nodeNameToProviderID.lookup name
  | .nodeClaim, name => (c.nodeClaimNameToProviderID.lookup name).filter (· ≠ "")

/-- The names and nodes of the cluster. -/
def names : SharedIndex Part String String where
  index := c.led
  holds id part := c.holds id part = true

theorem holds_iff (id : String) (part : Part) :
    c.holds id part = true ↔ ∃ n, c.nodes.lookup id = some n ∧ n.hasPart part = true := by
  rw [holds]
  cases c.nodes.lookup id with
  | none => simp
  | some n => simp

/-- Every tracked node has a Node or a NodeClaim. -/
def Inhabited : Prop := ∀ id n, c.nodes.lookup id = some n → n.node.isSome = true ∨ n.nodeClaim.isSome = true

/-- Every name leads to a node with what the name is of, but for the NodeClaims that are not launched yet, and
every node has something. -/
structure Consistent : Prop where
  nodes : ∀ name id, c.nodeNameToProviderID.lookup name = some id →
    ∃ n, c.nodes.lookup id = some n ∧ n.node.isSome = true
  nodeClaims : ∀ name id, c.nodeClaimNameToProviderID.lookup name = some id → id ≠ "" →
    ∃ n, c.nodes.lookup id = some n ∧ n.nodeClaim.isSome = true
  inhabited : ∀ id n, c.nodes.lookup id = some n → n.node.isSome = true ∨ n.nodeClaim.isSome = true

theorem consistent_iff : c.Consistent ↔ c.names.Consistent ∧ c.Inhabited := by
  have claimed (name id : String) : c.led .nodeClaim name = some id ↔
      c.nodeClaimNameToProviderID.lookup name = some id ∧ id ≠ "" := by
    simp [led, Option.filter_eq_some_iff]
  constructor
  · rintro ⟨nodes, nodeClaims, inhabited⟩
    refine ⟨?_, inhabited⟩
    rintro (_ | _) name id found
    · exact (c.holds_iff id .node).mpr (nodes name id found)
    · obtain ⟨found, launched⟩ := (claimed name id).mp found
      exact (c.holds_iff id .nodeClaim).mpr (nodeClaims name id found launched)
  · rintro ⟨consistent, inhabited⟩
    refine ⟨fun name id found => ?_, fun name id found launched => ?_, inhabited⟩
    · exact (c.holds_iff id .node).mp (consistent .node name id found)
    · exact (c.holds_iff id .nodeClaim).mp
        (consistent .nodeClaim name id ((claimed name id).mpr ⟨found, launched⟩))

section Effects

variable {c} {c' : Cluster} {id name : String} {part : Part}

/-- One part is taken off a node, and the name that led to it is dropped. -/
theorem names_detach (led : c.led part name = some id) (tracked : c.nodes.lookup id = some n)
    (lookups : ∀ other, c'.nodes.lookup other = if other = id then left else c.nodes.lookup other)
    (rest : ∀ k, left.any (·.hasPart k) = (n.hasPart k && decide (k ≠ part)))
    (index : ∀ k other, c'.led k other = if k = part ∧ other = name then none else c.led k other) :
    c'.names = c.names.detach part name := by
  apply SharedIndex.ext index
  intro other k
  show c'.holds other k = true ↔ c.holds other k = true ∧ ¬ (k = part ∧ c.led part name = some other)
  rw [holds, holds, lookups, led, Option.some.injEq]
  by_cases same : other = id
  · subst same
    rw [if_pos rfl, rest, tracked, Option.any_some]
    simp
  · rw [if_neg same]
    simp [Ne.symm same]

/-- A node gets one part; the other stays as it was. -/
theorem names_attach (lookups : ∀ other, c'.nodes.lookup other = if other = id then some n' else c.nodes.lookup other)
    (own : n'.hasPart part = true) (rest : ∀ k, k ≠ part → n'.hasPart k = c.holds id k)
    (index : ∀ k other, c'.led k other = if k = part ∧ other = name then some id else c.led k other) :
    c'.names = c.names.attach part name id := by
  apply SharedIndex.ext index
  intro other k
  show c'.holds other k = true ↔ other = id ∧ k = part ∨ c.holds other k = true
  rw [holds, lookups]
  by_cases same : other = id
  · subst same
    rw [if_pos rfl, Option.any_some]
    by_cases kind : k = part
    · subst kind
      simp [own]
    · rw [rest k kind]
      simp [kind]
  · rw [if_neg same]
    simp [same, holds]

theorem Inhabited.of_lookups (inhabited : c.Inhabited)
    (lookups : ∀ other, c'.nodes.lookup other = if other = id then left else c.nodes.lookup other)
    (some_part : ∀ n, left = some n → n.node.isSome = true ∨ n.nodeClaim.isSome = true) : c'.Inhabited := by
  intro other n found
  rw [lookups] at found
  split at found
  · exact some_part n found
  · exact inhabited other n found

theorem led_nodeClaim (name : String) : c.led .nodeClaim name =
    if (c.nodeClaimNameToProviderID.lookup name).getD "" = "" then none
    else some ((c.nodeClaimNameToProviderID.lookup name).getD "") := by
  rw [led]
  cases c.nodeClaimNameToProviderID.lookup name with
  | none => rfl
  | some id => by_cases launched : id = "" <;> simp [launched, Option.filter]

theorem led_of_claimNames {value : Option String} (claimNames : ∀ other,
      c'.nodeClaimNameToProviderID.lookup other = if other = name then value else c.nodeClaimNameToProviderID.lookup other)
    (nodeNames : c'.nodeNameToProviderID = c.nodeNameToProviderID) (k : Part) (other : String) :
    c'.led k other = if k = .nodeClaim ∧ other = name then value.filter (· ≠ "") else c.led k other := by
  cases k with
  | node => simp [led, nodeNames]
  | nodeClaim => by_cases same : other = name <;> simp [led, claimNames, same]

theorem led_of_nodeNames {value : Option String} (nodeNames : ∀ other,
      c'.nodeNameToProviderID.lookup other = if other = name then value else c.nodeNameToProviderID.lookup other)
    (claimNames : c'.nodeClaimNameToProviderID = c.nodeClaimNameToProviderID) (k : Part) (other : String) :
    c'.led k other = if k = .node ∧ other = name then value else c.led k other := by
  cases k with
  | nodeClaim => simp [led, claimNames]
  | node => by_cases same : other = name <;> simp [led, nodeNames, same]

theorem holds_podsOnly (podsOnly : PodsOnly c c') (id : String) (part : Part) : c'.holds id part = c.holds id part := by
  have same := podsOnly.parts id
  rw [holds, holds]
  cases before : c.nodes.lookup id with
  | none =>
    rw [before, Option.map_none, Option.map_eq_none_iff] at same
    rw [same]
  | some n =>
    rw [before] at same
    obtain ⟨n', after, parts⟩ := Option.map_eq_some_iff.mp same
    obtain ⟨node, nodeClaim⟩ := Prod.mk.inj parts
    rw [after]
    cases part <;> simp [StateNode.hasPart, node, nodeClaim]

theorem names_podsOnly (podsOnly : PodsOnly c c') : c'.names = c.names := by
  apply SharedIndex.ext
  · rintro (_ | _) name <;> simp only [Cluster.names, led, podsOnly.nodeNames, podsOnly.claimNames]
  · intro id part
    exact Bool.eq_iff_iff.mp (holds_podsOnly podsOnly id part)

theorem inhabited_podsOnly (podsOnly : PodsOnly c c') (inhabited : c.Inhabited) : c'.Inhabited := by
  intro id n tracked
  have same := podsOnly.parts id
  rw [tracked] at same
  obtain ⟨n', before, parts⟩ := Option.map_eq_some_iff.mp same.symm
  obtain ⟨node, nodeClaim⟩ := Prod.mk.inj parts
  rw [← node, ← nodeClaim]
  exact inhabited id n' before

theorem setMark_names (accounts : c.Accounts) (inhabited : c.Inhabited) (marked : Bool) (id : String) :
    ∃ c', c.setMark marked id = some c' ∧ c'.Accounts ∧ c'.Inhabited ∧ c'.names = c.names := by
  rw [setMark]
  cases tracked : c.nodes.lookup id with
  | none => exact ⟨c, rfl, accounts, inhabited, rfl⟩
  | some n =>
    obtain ⟨c', replaced, accounts', lookups, nodeNames, claimNames⟩ :=
      accounts.track (some { n with markedForDeletion := marked }) (.inl tracked)
    refine ⟨c', replaced, accounts', inhabited.of_lookups lookups ?_, SharedIndex.ext ?_ fun other part => ?_⟩
    · rintro _ ⟨⟩
      exact inhabited id n tracked
    · rintro (_ | _) name <;> simp only [names, led, nodeNames, claimNames]
    · show c'.holds other part = true ↔ c.holds other part = true
      rw [holds, holds, lookups]
      split
      · rename_i same
        rw [same, tracked]
        cases part <;> rfl
      · rfl

theorem foldlM_setMark_names (marked : Bool) (ids : List String) (accounts : c.Accounts) (inhabited : c.Inhabited) :
    ∃ c', ids.foldlM (setMark marked) c = some c' ∧ c'.Accounts ∧ c'.Inhabited ∧ c'.names = c.names := by
  induction ids generalizing c with
  | nil => exact ⟨c, rfl, accounts, inhabited, rfl⟩
  | cons id rest ih =>
    obtain ⟨c₁, stepped, accounts₁, inhabited₁, same₁⟩ := setMark_names accounts inhabited marked id
    obtain ⟨c₂, ran, accounts₂, inhabited₂, same₂⟩ := ih accounts₁ inhabited₁
    refine ⟨c₂, ?_, accounts₂, inhabited₂, same₂.trans same₁⟩
    rw [List.foldlM_cons, stepped]
    exact ran

/-- The NodeClaim is known under another provider ID, or was not launched when it was seen last. -/
def claimMoves (c : Cluster) (nodeClaim : NodeClaim) : Bool :=
  (c.nodeClaimNameToProviderID.lookup nodeClaim.name).any (· ≠ nodeClaim.providerID)

/-- The Node is known under another provider ID. -/
def nodeMoves (c : Cluster) (node : Node) : Bool :=
  (c.nodeNameToProviderID.lookup node.name).any (· ≠ node.providerID) &&
    decide ((c.nodeNameToProviderID.lookup node.name).getD "" ≠ "")

/-- The Node is read completely and was known under another provider ID. -/
def trackMoves (gate : Bool) (c : Cluster) (node : Node) (read : NodeRead) : Bool :=
  (c.newStateFromNode gate node ((c.nodes.lookup node.providerID).getD {}) read).2.isSome && c.nodeMoves node

section Consistent

variable (accounts : c.Accounts) (inhabited : c.Inhabited) (consistent : c.names.Consistent)
include accounts inhabited consistent

theorem cleanupNodeClaim_names (name : String) : ∃ c', c.cleanupNodeClaim name = some c' ∧ c'.Accounts ∧ c'.Inhabited ∧
      (∀ other, other ≠ (c.nodeClaimNameToProviderID.lookup name).getD "" →
        c'.nodes.lookup other = c.nodes.lookup other) ∧ c'.names = c.names.detach .nodeClaim name := by
  have ledTo := c.led_nodeClaim name
  by_cases launched : (c.nodeClaimNameToProviderID.lookup name).getD "" = ""
  · rw [cleanupNodeClaim_unlaunched launched]
    rw [if_pos launched] at ledTo
    refine ⟨_, rfl, accounts, inhabited, fun _ _ => rfl,
      SharedIndex.ext (@led_of_claimNames c _ name none (Map.lookup_erase_eq _ name) rfl) fun id k => ?_⟩
    show c.holds id k = true ↔ c.holds id k = true ∧ ¬ (k = .nodeClaim ∧ c.led .nodeClaim name = some id)
    simp [ledTo]
  · rw [if_neg launched] at ledTo
    obtain ⟨n, tracked, -⟩ := (c.holds_iff _ _).mp (consistent .nodeClaim name _ ledTo)
    obtain ⟨c', cleaned, accounts', lookups, nodeNames, claimNames⟩ :=
      cleanupNodeClaim_tracked accounts rfl launched tracked
    refine ⟨c', cleaned, accounts', inhabited.of_lookups lookups fun left kept => ?_,
      fun other different => (lookups other).trans (if_neg different),
      names_detach ledTo tracked lookups (fun k => ?_) (led_of_claimNames claimNames nodeNames)⟩
    · obtain ⟨present, ⟨⟩⟩ := Option.ite_none_left_eq_some.mp kept
      exact .inl (by simpa [Option.isSome_iff_ne_none] using present)
    · rw [StateNode.withoutNodeClaim]
      cases k <;> cases hasNode : n.node <;> simp [StateNode.hasPart, hasNode]

theorem cleanupNode_names (name : String) : ∃ c', c.cleanupNode name = some c' ∧ c'.Accounts ∧ c'.Inhabited ∧
      (∀ other, other ≠ (c.nodeNameToProviderID.lookup name).getD "" →
        c'.nodes.lookup other = c.nodes.lookup other) ∧
      c'.names = if (c.nodeNameToProviderID.lookup name).getD "" = "" then c.names else c.names.detach .node name := by
  by_cases known : (c.nodeNameToProviderID.lookup name).getD "" = ""
  · exact ⟨c, cleanupNode_unknown known, accounts, inhabited, fun _ _ => rfl, (if_pos known).symm⟩
  · have ledTo : c.led .node name = some _ := lookup_of_getD known
    obtain ⟨n, tracked, -⟩ := (c.holds_iff _ _).mp (consistent .node name _ ledTo)
    obtain ⟨c', cleaned, accounts', lookups, nodeNames, claimNames⟩ := cleanupNode_tracked accounts rfl known tracked
    rw [if_neg known]
    refine ⟨c', cleaned, accounts', inhabited.of_lookups lookups fun left kept => ?_,
      fun other different => (lookups other).trans (if_neg different),
      names_detach ledTo tracked lookups (fun k => ?_) (led_of_nodeNames nodeNames claimNames)⟩
    · obtain ⟨present, ⟨⟩⟩ := Option.ite_none_left_eq_some.mp kept
      exact .inr (by simpa [Option.isSome_iff_ne_none] using present)
    · rw [StateNode.withoutNode]
      cases k <;> cases hasClaim : n.nodeClaim <;> simp [StateNode.hasPart, hasClaim]

theorem cleanupMovedNodeClaim_names (nodeClaim : NodeClaim) :
    ∃ c', c.cleanupMovedNodeClaim nodeClaim = some c' ∧ c'.Accounts ∧ c'.Inhabited ∧
      c'.nodes.lookup nodeClaim.providerID = c.nodes.lookup nodeClaim.providerID ∧
      c'.names = if c.claimMoves nodeClaim = true then c.names.detach .nodeClaim nodeClaim.name else c.names := by
  have same : c.cleanupMovedNodeClaim nodeClaim =
    if c.claimMoves nodeClaim = true then c.cleanupNodeClaim nodeClaim.name else some c := rfl
  rw [same]
  by_cases moves : c.claimMoves nodeClaim = true
  · rw [if_pos moves, if_pos moves]
    obtain ⟨c', cleaned, accounts', inhabited', lookups, detached⟩ :=
      cleanupNodeClaim_names accounts inhabited consistent nodeClaim.name
    exact ⟨c', cleaned, accounts', inhabited', lookups _ (ne_getD_of_any moves), detached⟩
  · rw [if_neg moves, if_neg moves]
    exact ⟨c, rfl, accounts, inhabited, rfl, rfl⟩

theorem updateNodeClaim_names (nodeClaim : NodeClaim) :
    ∃ c', c.updateNodeClaim nodeClaim = some c' ∧ c'.Accounts ∧ c'.Inhabited ∧
      c'.names = if nodeClaim.providerID = "" then c.names.forget .nodeClaim nodeClaim.name
        else (if c.claimMoves nodeClaim = true then c.names.detach .nodeClaim nodeClaim.name else c.names).attach
          .nodeClaim nodeClaim.name nodeClaim.providerID := by
  rw [updateNodeClaim, trackNodeClaim]
  by_cases launched : nodeClaim.providerID = ""
  · rw [if_pos launched, if_pos launched]
    refine ⟨_, rfl, accounts, inhabited, SharedIndex.ext (fun k other => ?_) fun _ _ => Iff.rfl⟩
    refine (led_of_claimNames (fun other => by exact Map.lookup_insert_eq _ nodeClaim.name other _) (by rfl) k other).trans ?_
    simp [launched, Option.filter, SharedIndex.forget, names]
  · rw [if_neg launched, if_neg launched]
    obtain ⟨c₁, cleaned, accounts₁, inhabited₁, kept, detached⟩ :=
      cleanupMovedNodeClaim_names accounts inhabited consistent nodeClaim
    rw [cleaned, ← kept, ← detached]
    obtain ⟨c₂, replaced, accounts₂, lookups, nodeNames, claimNames⟩ := accounts₁.track
      (some (newStateFromNodeClaim nodeClaim ((c₁.nodes.lookup nodeClaim.providerID).getD {})))
      (oldNode_own c₁ nodeClaim.providerID)
    simp only [Option.bind_eq_bind, Option.bind_some, replaced]
    refine ⟨_, rfl, accounts₂, inhabited₁.of_lookups lookups ?_, names_attach lookups rfl (fun k other => ?_) ?_⟩
    · rintro n ⟨⟩
      exact .inr rfl
    · cases k with
      | nodeClaim => exact absurd rfl other
      | node =>
        rw [holds]
        cases c₁.nodes.lookup nodeClaim.providerID <;> rfl
    · intro k other
      have claimed (other : String) := Map.lookup_insert_eq c₁.nodeClaimNameToProviderID nodeClaim.name other nodeClaim.providerID
      refine (@led_of_claimNames c₁ _ _ _ (by rw [claimNames]; exact claimed) (by exact nodeNames) k other).trans ?_
      simp [launched, Option.filter]

theorem cleanupMovedNode_names (node : Node) : ∃ c', c.cleanupMovedNode node = some c' ∧ c'.Accounts ∧ c'.Inhabited ∧
      c'.nodes.lookup node.providerID = c.nodes.lookup node.providerID ∧
      c'.names = if c.nodeMoves node = true then c.names.detach .node node.name else c.names := by
  rw [cleanupMovedNode, nodeMoves]
  by_cases moved : (c.nodeNameToProviderID.lookup node.name).any (· ≠ node.providerID) = true
  · obtain ⟨c', cleaned, accounts', inhabited', lookups, detached⟩ :=
      cleanupNode_names accounts inhabited consistent node.name
    refine ⟨c', (if_pos moved).trans cleaned, accounts', inhabited', lookups _ (ne_getD_of_any moved), ?_⟩
    rw [detached, moved, Bool.true_and]
    by_cases known : (c.nodeNameToProviderID.lookup node.name).getD "" = ""
    · simp [known]
    · simp [known]
  · refine ⟨c, if_neg moved, accounts, inhabited, rfl, ?_⟩
    rw [Bool.eq_false_iff.mpr moved]
    rfl

theorem trackNode_names (gate : Bool) (node : Node) (read : NodeRead) :
    ∃ c', c.trackNode gate node read = some c' ∧ c'.Accounts ∧ c'.Inhabited ∧
      ((c.newStateFromNode gate node ((c.nodes.lookup node.providerID).getD {}) read).2 = none ∧ c'.names = c.names ∨
        c'.names = (if c.trackMoves gate node read = true then c.names.detach .node node.name else c.names).attach
          .node node.name node.providerID) := by
  rw [trackNode, trackMoves]
  obtain ⟨podsOnly, built⟩ := newStateFromNode_spec gate c node ((c.nodes.lookup node.providerID).getD {}) read
  revert podsOnly built
  generalize c.newStateFromNode gate node ((c.nodes.lookup node.providerID).getD {}) read = result
  obtain ⟨c₁, n⟩ := result
  intro podsOnly built
  have same : c₁.names = c.names := names_podsOnly podsOnly
  cases n with
  | none => exact ⟨c₁, rfl, podsOnly.accounts accounts, inhabited_podsOnly podsOnly inhabited, .inl ⟨rfl, same⟩⟩
  | some n =>
    obtain ⟨hasNode, sameClaim⟩ := built n rfl
    obtain ⟨c₂, cleaned, accounts₂, inhabited₂, kept, detached⟩ := cleanupMovedNode_names
      (podsOnly.accounts accounts) (inhabited_podsOnly podsOnly inhabited) (same ▸ consistent) node
    obtain ⟨c₃, replaced, accounts₃, lookups, nodeNames, claimNames⟩ :=
      accounts₂.track (some n) (oldNode_own c₂ node.providerID)
    have moves : c₁.nodeMoves node = c.nodeMoves node := by rw [nodeMoves, podsOnly.nodeNames, nodeMoves]
    rw [moves, same] at detached
    simp only [cleaned, Option.bind_eq_bind, Option.bind_some, replaced]
    refine ⟨_, rfl, accounts₃, inhabited₂.of_lookups lookups ?_, .inr ?_⟩
    · rintro _ ⟨⟩
      exact .inl (by rw [hasNode]; rfl)
    · rw [Option.isSome_some, Bool.true_and, ← detached]
      refine names_attach lookups (by rw [StateNode.hasPart, hasNode]; rfl) (fun k other => ?_) fun k other => ?_
      · cases k with
        | node => exact absurd rfl other
        | nodeClaim =>
          rw [holds, kept, ← holds, holds_podsOnly podsOnly, holds, StateNode.hasPart, sameClaim]
          cases c.nodes.lookup node.providerID <;> rfl
      · have named (other : String) := Map.lookup_insert_eq c₂.nodeNameToProviderID node.name other node.providerID
        exact @led_of_nodeNames c₂ _ _ _ (by rw [nodeNames]; exact named) (by exact claimNames) k other

end Consistent

end Effects

/-- The Node as it is tracked, with its name for a missing provider ID, unless it has to wait. -/
def trackedAs (node : Node) : Option Node :=
  let managed := label node.labels nodePoolLabelKey ≠ ""
  let initialized := label node.labels nodeInitializedLabelKey ≠ ""
  if node.providerID = "" ∧ managed then none
  else if managed ∧ label node.labels labelInstanceTypeStable = "" ∧ ¬ initialized then none
  else some { node with providerID := if node.providerID = "" then node.name else node.providerID }

theorem updateNode_eq (gate : Bool) (node : Node) (read : NodeRead) :
    c.updateNode gate node read = (trackedAs node).elim (some c) fun node => c.trackNode gate node read := by
  rw [updateNode, trackedAs]
  split
  · rfl
  · split <;> rfl

variable (gate : Bool)

/-- The name that an event takes off the node it led to. -/
def detached : Event → Option (Part × String)
  | .updateNode node read => (trackedAs node).bind fun node =>
      if c.trackMoves gate node read then some (.node, node.name) else none
  | .deleteNode name =>
    if (c.nodeNameToProviderID.lookup name).getD "" = "" then none else some (.node, name)
  | .updateNodeClaim nodeClaim =>
    if nodeClaim.providerID ≠ "" ∧ c.claimMoves nodeClaim = true then some (.nodeClaim, nodeClaim.name) else none
  | .deleteNodeClaim name => some (.nodeClaim, name)
  | _ => none

/-- No other Node, or NodeClaim, is known under the provider ID of the name that an event takes off. -/
def Separate (event : Event) : Prop :=
  ∀ part name, c.detached gate event = some (part, name) → c.names.Unshared part name

variable {c}

theorem separate_of_none (none : c.detached gate event = none) : c.Separate gate event := by
  intro part name some
  rw [none] at some
  cases some

theorem separate_iff (some : c.detached gate event = some (part, name)) :
    c.Separate gate event ↔ c.names.Unshared part name := by
  refine ⟨fun separate => separate part name some, fun unshared part' name' some' => ?_⟩
  rw [some] at some'
  cases some'
  exact unshared

theorem claim_moved (moves : c.claimMoves nodeClaim = true) :
    c.names.index .nodeClaim nodeClaim.name ≠ some nodeClaim.providerID := by
  intro same
  obtain ⟨found, -⟩ := Option.filter_eq_some_iff.mp same
  rw [claimMoves, found] at moves
  simp at moves

theorem node_moved (moves : c.nodeMoves node = true) : c.names.index .node node.name ≠ some node.providerID := by
  intro same
  have found : c.nodeNameToProviderID.lookup node.name = some node.providerID := same
  rw [nodeMoves, found] at moves
  simp at moves

theorem consistent_kept {c' : Cluster} (consistent : c.names.Consistent) (names : c'.names = c.names)
    (none : c.detached gate event = none) : c'.names.Consistent ↔ c.Separate gate event := by
  rw [names]
  exact ⟨fun _ => separate_of_none gate none, fun _ => consistent⟩

/-- Every event goes through while all names lead somewhere, and all names still do exactly when the name it
takes off was not shared. -/
theorem step_names (accounts : c.Accounts) (inhabited : c.Inhabited) (consistent : c.names.Consistent) (event : Event) :
    ∃ c', c.step gate event = some c' ∧ c'.Accounts ∧ c'.Inhabited ∧ (c'.names.Consistent ↔ c.Separate gate event) := by
  cases event with
  | updateNode node read =>
    rw [step, updateNode_eq]
    cases waits : trackedAs node with
    | none =>
      have none : c.detached gate (.updateNode node read) = none := by rw [detached, waits]; rfl
      exact ⟨c, rfl, accounts, inhabited, consistent_kept gate consistent rfl none⟩
    | some node' =>
      have taken : c.detached gate (.updateNode node read) =
          if c.trackMoves gate node' read then some (.node, node'.name) else none := by rw [detached, waits]; rfl
      obtain ⟨c', tracked, accounts', inhabited', names⟩ :=
        trackNode_names accounts inhabited consistent gate node' read
      refine ⟨c', tracked, accounts', inhabited', ?_⟩
      by_cases moves : c.trackMoves gate node' read = true
      · rw [if_pos moves] at taken
        obtain ⟨read', moved⟩ := (Bool.and_eq_true _ _).mp moves
        rcases names with ⟨unread, -⟩ | names
        · rw [unread] at read'
          cases read'
        · rw [names, if_pos moves, separate_iff gate taken, consistent.move_iff (node_moved moved)]
      · rw [if_neg moves] at taken
        refine ⟨fun _ => separate_of_none gate taken, fun _ => ?_⟩
        rcases names with ⟨-, names⟩ | names
        · rw [names]
          exact consistent
        · rw [names, if_neg moves]
          exact consistent.attach
  | deleteNode name =>
    obtain ⟨c', cleaned, accounts', inhabited', -, names⟩ := cleanupNode_names accounts inhabited consistent name
    refine ⟨c', cleaned, accounts', inhabited', ?_⟩
    by_cases known : (c.nodeNameToProviderID.lookup name).getD "" = ""
    · exact consistent_kept gate consistent (names.trans (if_pos known)) (if_pos known)
    · have taken : c.detached gate (.deleteNode name) = some (.node, name) := if_neg known
      rw [names, if_neg known, separate_iff gate taken, consistent.detach_iff]
  | updateNodeClaim nodeClaim =>
    obtain ⟨c', updated, accounts', inhabited', names⟩ :=
      updateNodeClaim_names accounts inhabited consistent nodeClaim
    refine ⟨c', updated, accounts', inhabited', ?_⟩
    by_cases launched : nodeClaim.providerID = ""
    · rw [names, if_pos launched]
      exact ⟨fun _ => separate_of_none gate (if_neg fun both => both.1 launched), fun _ => consistent.forget⟩
    · rw [names, if_neg launched]
      by_cases moves : c.claimMoves nodeClaim = true
      · have taken : c.detached gate (.updateNodeClaim nodeClaim) = some (.nodeClaim, nodeClaim.name) :=
          if_pos ⟨launched, moves⟩
        rw [if_pos moves, separate_iff gate taken, consistent.move_iff (claim_moved moves)]
      · rw [if_neg moves]
        exact ⟨fun _ => separate_of_none gate (if_neg fun both => moves both.2), fun _ => consistent.attach⟩
  | deleteNodeClaim name =>
    obtain ⟨c', cleaned, accounts', inhabited', -, names⟩ :=
      cleanupNodeClaim_names accounts inhabited consistent name
    refine ⟨c', cleaned, accounts', inhabited', ?_⟩
    rw [names, separate_iff gate rfl, consistent.detach_iff]
  | updatePod pod volumes =>
    have podsOnly : PodsOnly c (c.updatePod gate pod volumes) := podsOnly_updatePod gate c pod volumes
    exact ⟨_, rfl, podsOnly.accounts accounts, inhabited_podsOnly podsOnly inhabited,
      consistent_kept gate consistent (names_podsOnly podsOnly) rfl⟩
  | deletePod podKey =>
    have podsOnly : PodsOnly c (c.deletePod podKey) := podsOnly_completion c podKey
    exact ⟨_, rfl, podsOnly.accounts accounts, inhabited_podsOnly podsOnly inhabited,
      consistent_kept gate consistent (names_podsOnly podsOnly) rfl⟩
  | markForDeletion ids =>
    obtain ⟨c', marked, accounts', inhabited', names⟩ := foldlM_setMark_names true ids accounts inhabited
    exact ⟨c', marked, accounts', inhabited', consistent_kept gate consistent names rfl⟩
  | unmarkForDeletion ids =>
    obtain ⟨c', marked, accounts', inhabited', names⟩ := foldlM_setMark_names false ids accounts inhabited
    exact ⟨c', marked, accounts', inhabited', consistent_kept gate consistent names rfl⟩

/-- While all names lead somewhere, a run goes through, and what its last event does is known. -/
theorem run_names (before : ∃ c, run gate earlier = some c ∧ c.Accounts ∧ c.Consistent) (event : Event) :
    ∃ c c', run gate earlier = some c ∧ run gate (earlier ++ [event]) = some c' ∧ c'.Accounts ∧
      (c'.Consistent ↔ c.Separate gate event) := by
  obtain ⟨c, ran, accounts, consistent⟩ := before
  obtain ⟨names, inhabited⟩ := c.consistent_iff.mp consistent
  obtain ⟨c', stepped, accounts', inhabited', kept⟩ := step_names gate accounts inhabited names event
  refine ⟨c, c', ran, ?_, accounts', ?_⟩
  · rw [run_concat, ran, Option.bind_some, stepped]
  · rw [consistent_iff, kept]
    exact and_iff_left inhabited'

theorem accounts_of_consistent
    (consistent : ∀ earlier, earlier <+: events → ∃ c, run gate earlier = some c ∧ c.Consistent) :
    ∃ c, run gate events = some c ∧ c.Accounts ∧ c.Consistent := by
  induction events using List.reverseRecOn with
  | nil =>
    obtain ⟨c, ran, led⟩ := consistent [] List.prefix_rfl
    cases ran
    exact ⟨{}, rfl, fun _ _ _ => rfl, led⟩
  | append_singleton earlier event ih =>
    obtain ⟨c, c', -, ran, accounts, -⟩ :=
      run_names gate (ih fun before within => consistent before (within.trans (List.prefix_append earlier [event]))) event
    obtain ⟨found, ran', led⟩ := consistent _ List.prefix_rfl
    rw [ran] at ran'
    cases ran'
    exact ⟨c', ran, accounts, led⟩

theorem consistent_of_separate
    (separate : ∀ earlier event c, earlier ++ [event] <+: events → run gate earlier = some c → c.Separate gate event) :
    ∃ c, run gate events = some c ∧ c.Accounts ∧ c.Consistent := by
  induction events using List.reverseRecOn with
  | nil => exact ⟨{}, rfl, fun _ _ _ => rfl, nofun, nofun, nofun⟩
  | append_singleton earlier event ih =>
    obtain ⟨c, c', ran, ran', accounts, kept⟩ := run_names gate (ih fun before event' c within =>
      separate before event' c (within.trans (List.prefix_append earlier [event]))) event
    exact ⟨c', ran', accounts, kept.mpr (separate earlier event c List.prefix_rfl ran)⟩

end Cluster

/-- No event of a run meets a name without its node, and after every event every name leads to a node with what
it is of and every node has something, exactly when no event takes off a name that shares its provider ID with
another one. -/
theorem names_lead_iff (gate : Bool) (events : List Event) :
    (∀ earlier, earlier <+: events → ∃ c, Cluster.run gate earlier = some c ∧ c.Consistent) ↔
      ∀ earlier event c, earlier ++ [event] <+: events → Cluster.run gate earlier = some c → c.Separate gate event := by
  constructor
  · intro consistent earlier event c within ran
    obtain ⟨c₁, c₂, ran₁, ran₂, -, kept⟩ := Cluster.run_names gate (Cluster.accounts_of_consistent gate
      fun before beforeWithin => consistent before
        ((beforeWithin.trans (List.prefix_append earlier [event])).trans within)) event
    rw [ran] at ran₁
    cases ran₁
    obtain ⟨found, ran', led⟩ := consistent _ within
    rw [ran₂] at ran'
    cases ran'
    exact kept.mp led
  · intro separate earlier within
    obtain ⟨c, ran, -, led⟩ := Cluster.consistent_of_separate gate fun before event c beforeWithin =>
      separate before event c (beforeWithin.trans within)
    exact ⟨c, ran, led⟩

/-- A NodeClaim that is not launched yet. -/
def unlaunchedEvents : List Event := [.updateNodeClaim { name := "claim", providerID := "" }]

/-- Two Nodes with the provider ID of one machine, both deleted afterwards. -/
def sharedEvents : List Event :=
  [.updateNode { name := "first", providerID := "id" } .noPods,
    .updateNode { name := "second", providerID := "id" } .noPods, .deleteNode "first", .deleteNode "second"]

/-- The name of the NodeClaim leads to no node; deleting the second Node meets a node that is gone. -/
theorem names_lead_shared : (∃ c, Cluster.run false unlaunchedEvents = some c ∧
      c.nodeClaimNameToProviderID.lookup "claim" = some "" ∧ (c.nodes.lookup "").isNone = true) ∧
    (Cluster.run false sharedEvents).isNone = true := by
  constructor
  · have ran : (Cluster.run false unlaunchedEvents).map (fun c =>
        (c.nodeClaimNameToProviderID.lookup "claim", (c.nodes.lookup "").isNone)) = some (some "", true) := by
      decide +kernel
    obtain ⟨c, ran, facts⟩ := Option.map_eq_some_iff.mp ran
    exact ⟨c, ran, congrArg Prod.fst facts, congrArg Prod.snd facts⟩
  · decide +kernel

/-- A provider ID is used by at most one Node name and at most one NodeClaim name. -/
structure Cluster.ProviderIDsDistinct (c : Cluster) : Prop where
  nodes : ∀ first second id, id ≠ "" → c.nodeNameToProviderID.lookup first = some id →
    c.nodeNameToProviderID.lookup second = some id → first = second
  nodeClaims : ∀ first second id, id ≠ "" → c.nodeClaimNameToProviderID.lookup first = some id →
    c.nodeClaimNameToProviderID.lookup second = some id → first = second

theorem Cluster.detached_node {c : Cluster} {gate : Bool} (taken : c.detached gate event = some (.node, name)) :
    (c.nodeNameToProviderID.lookup name).getD "" ≠ "" := by
  cases event with
  | updateNode node read =>
    obtain ⟨node', -, moved⟩ := Option.bind_eq_some_iff.mp taken
    obtain ⟨moves, same⟩ := Option.ite_none_right_eq_some.mp moved
    cases same
    have known := ((Bool.and_eq_true _ _).mp ((Bool.and_eq_true _ _).mp moves).2).2
    exact of_decide_eq_true known
  | deleteNode other =>
    obtain ⟨known, same⟩ := Option.ite_none_left_eq_some.mp taken
    cases same
    exact known
  | updateNodeClaim nodeClaim => cases (Option.ite_none_right_eq_some.mp taken).2
  | deleteNodeClaim other => cases taken
  | _ => cases taken

/-- A provider ID that no two names have is not shared by the name an event takes off. -/
theorem Cluster.ProviderIDsDistinct.separate {c : Cluster} (distinct : c.ProviderIDsDistinct) (gate : Bool)
    (event : Event) : c.Separate gate event := by
  intro part name taken other id own shared
  cases part with
  | node =>
    have found : c.nodeNameToProviderID.lookup name = some id := own
    have named := detached_node taken
    rw [found, Option.getD_some] at named
    exact distinct.nodes other name id named shared own
  | nodeClaim =>
    obtain ⟨found, named⟩ := Option.filter_eq_some_iff.mp own
    exact distinct.nodeClaims other name id (of_decide_eq_true named) (Option.filter_eq_some_iff.mp shared).1 found

/-- After every run of events in which no two Nodes and no two NodeClaims share a provider ID, each NodePool is
stored with the capacities of its nodes, and no event has written into a missing entry. -/
theorem nodePool_usage_recomputed (gate : Bool) (events : List Event)
    (distinct : ∀ earlier c, earlier <+: events → Cluster.run gate earlier = some c → c.ProviderIDsDistinct) :
    ∃ c, Cluster.run gate events = some c ∧ ∀ nodePool, nodePool ≠ "" → ∀ name,
      amountAt c.nodePoolResources nodePool name = c.nodes.total fun _ n => n.counts nodePool name := by
  obtain ⟨c, ran, accounts, _⟩ := Cluster.consistent_of_separate gate fun earlier event c within ran =>
    (distinct earlier c ((List.prefix_append _ _).trans within) ran).separate gate event
  exact ⟨c, ran, accounts⟩

theorem distinct_of_length {c : Cluster} (nodes : c.nodeNameToProviderID.entries.length ≤ 1)
    (nodeClaims : c.nodeClaimNameToProviderID.entries.length ≤ 1) : c.ProviderIDsDistinct := by
  have unique {m : Map String String} (short : m.entries.length ≤ 1) (first second id : String) (_ : id ≠ "")
      (one : m.lookup first = some id) (two : m.lookup second = some id) : first = second := by
    have inFirst := Map.mem_entries_iff.mpr one
    have inSecond := Map.mem_entries_iff.mpr two
    revert short inFirst inSecond
    cases m.entries with
    | nil => nofun
    | cons entry rest =>
      intro short inFirst inSecond
      obtain rfl := List.eq_nil_of_length_eq_zero (Nat.le_zero.mp (Nat.le_of_succ_le_succ short))
      exact congrArg Sigma.fst ((List.mem_singleton.mp inFirst).trans (List.mem_singleton.mp inSecond).symm)
  exact ⟨unique nodes, unique nodeClaims⟩

/-- A NodeClaim that is launched, and the Node that registers for it. Its deletion is given up. -/
def launchEvents : List Event :=
  let labels := Map.ofList [(nodePoolLabelKey, "default"), (labelInstanceTypeStable, "small")]
  let capacity := Map.ofList [("cpu", 4)]
  [.updateNodeClaim { name := "claim", providerID := "id", labels, capacity },
    .updateNode { name := "node", providerID := "id", labels, capacity } .noPods,
    .markForDeletion ["id"], .unmarkForDeletion ["id"]]

theorem nodePool_usage_launch : ∃ c, Cluster.run false launchEvents = some c ∧
    amountAt c.nodePoolResources "default" "cpu" = 4 ∧ ∀ name, amountAt c.nodePoolResources "default" name = c.nodes.total fun _ n => n.counts "default" name := by
  have short : ∀ earlier ∈ launchEvents.inits, (Cluster.run false earlier).all (fun c =>
      decide (c.nodeNameToProviderID.entries.length ≤ 1) &&
        decide (c.nodeClaimNameToProviderID.entries.length ≤ 1)) = true := by
    decide +kernel
  obtain ⟨c, ran, accounts⟩ := nodePool_usage_recomputed false launchEvents fun earlier c within ran => by
    have fits := short earlier (List.mem_inits _ _ |>.mpr within)
    rw [ran, Option.all_some, Bool.and_eq_true, decide_eq_true_eq, decide_eq_true_eq] at fits
    exact distinct_of_length fits.1 fits.2
  have four : (Cluster.run false launchEvents).map (amountAt ·.nodePoolResources "default" "cpu") = some 4 := by
    decide +kernel
  rw [ran] at four
  exact ⟨c, ran, Option.some.inj four, accounts "default" (by decide)⟩

end Karpenter.State
