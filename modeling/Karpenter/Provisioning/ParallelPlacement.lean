import Karpenter.WorkerPool
import Karpenter.Provisioning.Scheduler
import Karpenter.Provisioning.ExistingNode

/-! The three searches of the scheduler, run by a pool of workers. Every candidate has one outcome, whoever
looks at it and when. A search over nodes that exist passes over a node that waits for its consolidation, unless
the pod is exempt; a search over templates also stops at a template that makes the pod wait for reserved
capacity. Each search comes to what the sequential one finds. -/
namespace Karpenter.Provisioning

open WorkerPool (IsFirst Settles settles_first)
open Scheduling

section Existing

variable (settings : Settings) (collaborators : ExistingNode → Collaborators) (pod : Pod) (podData : PodData)
  (volumes : Volumes)

def ExistingNode.accepts (n : ExistingNode) : Option (Requirements × Option DynamicResources.AllocationResult) :=
  (n.canAdd settings (collaborators n) pod podData volumes).toOption

variable (exempt : Bool)

/-- Pending pods and pods from deleting nodes are exempt. -/
def ExistingNode.tryAdd (n : ExistingNode) : Option (Requirements × Option DynamicResources.AllocationResult) :=
  if n.isUnderConsolidateAfter && !exempt then none else n.accepts settings collaborators pod podData volumes

def tryExisting (nodes : List ExistingNode) (i : Nat) :
    Option (Requirements × Option DynamicResources.AllocationResult) :=
  nodes[i]?.bind fun n => n.tryAdd settings collaborators pod podData volumes exempt

/-- The nodes once the pod is on the recorded one. -/
def commitExisting (nodes : List ExistingNode) :
    Option (Nat × Requirements × Option DynamicResources.AllocationResult) → Option (List ExistingNode)
  | none => none
  | some (i, requirements, _) => some (nodes.modify i fun n => n.add pod podData requirements volumes)

def placeExisting : List ExistingNode → Option (List ExistingNode)
  | [] => none
  | n :: rest =>
    match n.tryAdd settings collaborators pod podData volumes exempt with
    | none => (placeExisting rest).map (n :: ·)
    | some (requirements, _) => some (n.add pod podData requirements volumes :: rest)

variable {settings collaborators pod podData volumes exempt}

theorem commitExisting_eq
    (first : IsFirst nodes.length (tryExisting settings collaborators pod podData volumes exempt nodes) record) :
    commitExisting pod podData volumes nodes record =
      placeExisting settings collaborators pod podData volumes exempt nodes := by
  induction nodes generalizing record with
  | nil =>
    cases record with
    | none => rfl
    | some entry => exact absurd first.1 (Nat.not_lt_zero _)
  | cons n rest ih =>
    rw [placeExisting]
    rcases first.head_or_tail with ⟨found, head, rfl⟩ | ⟨head, later, tail, rfl⟩
    · rw [show n.tryAdd settings collaborators pod podData volumes exempt = some found from head]
      rfl
    · rw [show n.tryAdd settings collaborators pod podData volumes exempt = none from head]
      rw [← ih tail]
      cases later <;> rfl

end Existing

section Inflight

variable (settings : Settings) (rm : ReservationManager) (a : Attempt)

def NodeClaim.tryAdd (n : NodeClaim) : Option (Except CanAddError CanAddResult) :=
  n.canAdd settings rm (a.collaborators n) a.pod a.podData a.volumes false

def tryInflight (claims : List NodeClaim) (i : Nat) : Option CanAddResult :=
  claims[i]?.bind fun n =>
    match n.tryAdd settings rm a with
    | some (.ok result) => some result
    | _ => none

/-- The NodeClaims once the pod is on the recorded one. -/
def commitInflight (claims : List NodeClaim) :
    Option (Nat × CanAddResult) → Option (Option (List NodeClaim × ReservationManager))
  | none => some none
  | some (i, result) =>
    match claims[i]? with
    | none => some none
    | some n => (n.add settings rm a.pod a.podData a.volumes result).map fun (placed, rm) =>
      some (claims.set i placed, rm)

variable {settings rm a}

theorem commitInflight_eq (returns : ∀ n ∈ claims, (n.tryAdd settings rm a).isSome = true)
    (first : IsFirst claims.length (tryInflight settings rm a claims) record) :
    commitInflight settings rm a claims record = placeInflight settings rm a claims := by
  induction claims generalizing record with
  | nil =>
    cases record with
    | none => rfl
    | some entry => exact absurd first.1 (Nat.not_lt_zero _)
  | cons n rest ih =>
    obtain ⟨outcome, returned⟩ := Option.isSome_iff_exists.mp (returns n List.mem_cons_self)
    have here : n.canAdd settings rm (a.collaborators n) a.pod a.podData a.volumes false = some outcome := returned
    have head : tryInflight settings rm a (n :: rest) 0 = outcome.toOption := by
      simp only [tryInflight, List.getElem?_cons_zero, Option.bind_some, returned]
      cases outcome <;> rfl
    rw [placeInflight, here]
    rcases first.head_or_tail with ⟨found, hit, rfl⟩ | ⟨missed, later, tail, rfl⟩
    · cases outcome with
      | error err => cases head.symm.trans hit
      | ok result =>
        cases head.symm.trans hit
        rfl
    · cases outcome with
      | ok result => cases head.symm.trans missed
      | error err =>
        rw [← ih (fun other member => returns other (List.mem_cons_of_mem _ member)) tail]
        cases later with
        | none => rfl
        | some entry =>
          obtain ⟨i, result⟩ := entry
          simp only [commitInflight, Option.map_some, List.getElem?_cons_succ]
          cases rest[i]? with
          | none => rfl
          | some other =>
            dsimp only
            cases other.add settings rm a.pod a.podData a.volumes result <;> rfl

end Inflight

namespace Scheduler

variable (settings : Settings) (s : Scheduler) (a : Attempt)

/-- What trying the template returns, unless the limits of its NodePool rule it out. -/
def tryTemplate (i : Nat) (template : NodeClaimTemplate) (groups : List DaemonOverheadGroup) :
    Option (NodeClaim × Option (Except CanAddError CanAddResult)) :=
  (s.optionsWithinLimits template).map fun its =>
    (s.draft a i template groups its, s.tryDraft settings a (s.draft a i template groups its))

/-- A success is kept with its NodeClaim; an error about reserved capacity is kept without one. -/
def templateOutcome : Option (NodeClaim × Option (Except CanAddError CanAddResult)) →
    Option (Option (NodeClaim × CanAddResult))
  | some (n, some (.ok result)) => some (some (n, result))
  | some (_, some (.error err)) => if isReservedOfferingError err then some none else none
  | _ => none

def tryNew (templates : List (NodeClaimTemplate × List DaemonOverheadGroup)) (base i : Nat) :
    Option (Option (NodeClaim × CanAddResult)) :=
  templates[i]?.bind fun (template, groups) =>
    templateOutcome (s.tryTemplate settings a (base + i) template groups)

/-- The state once the pod is on the recorded NodeClaim; nothing changes when none was recorded. -/
def commitNew (record : Option (Nat × Option (NodeClaim × CanAddResult))) : Option (Option Scheduler) :=
  match record.bind (·.2) with
  | none => some none
  | some (n, result) =>
    (n.add settings s.reservationManager a.pod a.podData a.volumes result).map fun (placed, rm) =>
      some { s with
        newNodeClaims := s.newNodeClaims ++ [placed]
        remainingResources := s.remainingResources.insert placed.nodePoolName
          (subtractMax ((s.remainingResources.lookup placed.nodePoolName).getD ∅) placed.instanceTypeOptions)
        reservationManager := rm }

/-- Trying a template that the limits let through comes to an outcome. -/
def TemplatesReturn (templates : List (NodeClaimTemplate × List DaemonOverheadGroup)) (base : Nat) : Prop :=
  ∀ i entry, templates[i]? = some entry → ∀ n outcome,
    s.tryTemplate settings a (base + i) entry.1 entry.2 = some (n, outcome) → outcome.isSome = true

variable {settings s a}

theorem tryTemplates_cons
    (returns : ∀ n outcome, s.tryTemplate settings a base template groups = some (n, outcome) → outcome.isSome = true) :
    s.tryTemplates settings a base ((template, groups) :: rest) =
      (templateOutcome (s.tryTemplate settings a base template groups)).elim
        (s.tryTemplates settings a (base + 1) rest) some := by
  rw [tryTemplates]
  cases options : s.optionsWithinLimits template with
  | none =>
    rw [tryTemplate, options]
    rfl
  | some its =>
    rw [tryTemplate, options] at returns ⊢
    obtain ⟨outcome, returned⟩ := Option.isSome_iff_exists.mp (returns _ _ rfl)
    dsimp only [Option.map_some]
    rw [returned]
    cases outcome with
    | ok result => rfl
    | error err =>
      dsimp only [templateOutcome]
      split <;> rfl

theorem tryTemplates_eq (returns : s.TemplatesReturn settings a templates base)
    (first : IsFirst templates.length (s.tryNew settings a templates base) record) :
    s.tryTemplates settings a base templates = some (record.bind (·.2)) := by
  induction templates generalizing record base with
  | nil =>
    cases record with
    | none => rfl
    | some entry => exact absurd first.1 (Nat.not_lt_zero _)
  | cons entry rest ih =>
    obtain ⟨template, groups⟩ := entry
    have shift (i : Nat) : base + (i + 1) = base + 1 + i := by omega
    have restReturns : s.TemplatesReturn settings a rest (base + 1) := by
      intro i other there n outcome tried
      exact returns (i + 1) other there n outcome (shift i ▸ tried)
    have restSame : (fun i => s.tryNew settings a ((template, groups) :: rest) base (i + 1)) =
        s.tryNew settings a rest (base + 1) := by
      funext i
      rw [tryNew, tryNew, shift]
      rfl
    have headReturns : ∀ n outcome, s.tryTemplate settings a base template groups = some (n, outcome) →
        outcome.isSome = true := returns 0 (template, groups) rfl
    rw [tryTemplates_cons headReturns]
    rcases first.head_or_tail with ⟨found, hit, rfl⟩ | ⟨missed, later, tail, rfl⟩
    · rw [show templateOutcome (s.tryTemplate settings a base template groups) = some found from hit]
      rfl
    · rw [show templateOutcome (s.tryTemplate settings a base template groups) = none from missed,
        Option.elim_none, ih restReturns (restSame ▸ tail)]
      cases later <;> rfl

theorem commitNew_eq (returns : s.TemplatesReturn settings a s.nodeClaimTemplates 0)
    (first : IsFirst s.nodeClaimTemplates.length (s.tryNew settings a s.nodeClaimTemplates 0) record) :
    s.commitNew settings a record = s.addToNewNodeClaim settings a := by
  rw [addToNewNodeClaim, tryTemplates_eq returns first, commitNew]
  cases record.bind (·.2) <;> rfl

end Scheduler

/-- Parallel placement is first fit. A pod goes to the first node that is tried and takes it, or to the first
in-flight NodeClaim that takes it; over the templates the first success or reserved capacity error decides. What
is recorded is the result of that very candidate, and acting on it is what the sequential search does. -/
theorem parallel_placement_first_fit (settings : Settings) (s : Scheduler) (a : Attempt)
    (existingNodes : List ExistingNode) (collaborators : ExistingNode → Collaborators) (exempt : Bool) (workers : Nat) :
    Settles existingNodes.length
      (tryExisting settings collaborators a.pod a.podData a.volumes exempt existingNodes) (workers + 1)
      (fun record =>
        IsFirst existingNodes.length
          (tryExisting settings collaborators a.pod a.podData a.volumes exempt existingNodes) record ∧
        commitExisting a.pod a.podData a.volumes existingNodes record =
          placeExisting settings collaborators a.pod a.podData a.volumes exempt existingNodes) ∧
    Settles s.newNodeClaims.length (tryInflight settings s.reservationManager a s.newNodeClaims) (workers + 1)
      (fun record =>
        IsFirst s.newNodeClaims.length (tryInflight settings s.reservationManager a s.newNodeClaims) record ∧
        ((∀ n ∈ s.newNodeClaims, (n.tryAdd settings s.reservationManager a).isSome = true) →
          commitInflight settings s.reservationManager a s.newNodeClaims record =
            placeInflight settings s.reservationManager a s.newNodeClaims)) ∧
    Settles s.nodeClaimTemplates.length (s.tryNew settings a s.nodeClaimTemplates 0) (workers + 1)
      (fun record =>
        IsFirst s.nodeClaimTemplates.length (s.tryNew settings a s.nodeClaimTemplates 0) record ∧
        (s.TemplatesReturn settings a s.nodeClaimTemplates 0 →
          s.commitNew settings a record = s.addToNewNodeClaim settings a)) := by
  refine ⟨?_, ?_, ?_⟩
  · apply settles_first
    intro record first
    exact ⟨first, commitExisting_eq first⟩
  · apply settles_first
    intro record first
    exact ⟨first, fun returns => commitInflight_eq returns first⟩
  · apply settles_first
    intro record first
    exact ⟨first, fun returns => Scheduler.commitNew_eq returns first⟩

/-- A node that waits for its consolidation is passed over, although it would take the pod. -/
theorem parallel_placement_passes_over : let waiting := { plainNode with isUnderConsolidateAfter := true }
    let pod := teamPod "a" .opNotIn ["red"]
    (waiting.accepts plainSettings (fun _ => withoutTopologies) pod.1 pod.2 ∅).isSome = true ∧
    Settles [waiting].length (tryExisting plainSettings (fun _ => withoutTopologies) pod.1 pod.2 ∅ false [waiting]) 1
      (fun record => commitExisting pod.1 pod.2 ∅ [waiting] record = none) := by
  intro waiting pod
  constructor
  · decide +kernel
  · apply settles_first _ _ 0
    intro record first
    exact commitExisting_eq first

end Karpenter.Provisioning
