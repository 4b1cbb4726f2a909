import Karpenter.Disruption.Budget
import Karpenter.Disruption.Consolidation

/-! The methods that compute disruption commands within the budgets of the NodePools. Emptiness and multi-node
consolidation take candidates in order while there is budget for them and count it down; single-node consolidation
takes one candidate. A command is validated against a fresh listing of the candidates, with budgets computed anew.
Whether the cluster is marked as consolidated is left out. -/
namespace Karpenter.Disruption

open Go (Map)
open CloudProvider (Registry)
open Provisioning (Results)

/-- Nodes that may be disrupted, as they are listed at one time. They have names of their own. -/
structure Listing where
  candidates : List Candidate
  distinct : (candidates.map Candidate.name).Nodup

/-- No pod contributes a disruption cost. -/
def Candidate.isEmpty (c : Candidate) : Bool := decide (c.rescheduleDisruptionCost ≤ State.StateNode.perNodeBaseDisruptionCost)

/-- Takes the eligible candidates in order, as long as there is budget left for their NodePools. -/
def takeWithin (eligible : Candidate → Bool) : Map String Int → List Candidate → List Candidate
  | _, [] => []
  | budgets, c :: rest =>
    if !eligible c then takeWithin eligible budgets rest
    else if count budgets c.nodePool = 0 then takeWithin eligible budgets rest
    else c :: takeWithin eligible (decrement budgets c.nodePool) rest

inductive Failure where
  | validation
  | other
deriving DecidableEq

/-- What one round of validation reads. The listings fail with an error of the API server. -/
structure Round where
  candidates : Option Listing
  clock : BudgetClock
  nodes : List BudgetNode
  nodePools : Option (List BudgetedNodePool)
  /-- Pods are nominated for the node. -/
  nominated : String → Bool

def Round.budgets (round : Round) (reason : DisruptionReason) : Option (Map String Int) :=
  round.nodePools.map fun nodePools => buildDisruptionBudgetMapping round.clock round.nodes nodePools reason

/-- The proposed candidates as they are now. -/
def mapCandidates (proposed current : List Candidate) : List Candidate :=
  current.filter fun c => (proposed.map Candidate.name).contains c.name

/-- Candidates that have changed, are nominated or exceed the budget are left out. -/
def validateEmptyCandidates (round : Round) (candidates : List Candidate) : Except Failure (List Candidate) :=
  match round.candidates with
  | none => .error .other
  | some current =>
    let validatedCandidates := mapCandidates candidates current.candidates
    if validatedCandidates.isEmpty then .error .validation
    else
      match round.budgets .empty with
      | none => .error .other
      | some budgets =>
        let valid := takeWithin (fun c => !round.nominated c.providerID) budgets validatedCandidates
        if valid.isEmpty then .error .validation else .ok valid

/-- No candidate is nominated, and there is budget for all of them. -/
def allWithin (nominated : String → Bool) : Map String Int → List Candidate → Bool
  | _, [] => true
  | budgets, c :: rest =>
    if nominated c.providerID then false
    else if count budgets c.nodePool = 0 then false
    else allWithin nominated (decrement budgets c.nodePool) rest

/-- All candidates have to be there and to be within the budget. -/
def validateCandidates (round : Round) (candidates : List Candidate) : Except Failure (List Candidate) :=
  match round.candidates with
  | none => .error .other
  | some current =>
    let validatedCandidates := mapCandidates candidates current.candidates
    if validatedCandidates.length ≠ candidates.length then .error .validation
    else
      match round.budgets .underutilized with
      | none => .error .other
      | some budgets =>
        if allWithin round.nominated budgets validatedCandidates then .ok validatedCandidates else .error .validation

/-- The outcome of a scheduling simulation without the candidates. -/
inductive Simulation where
  | results (results : Results)
  | candidateDeleting
  | deadlineExceeded
  | failed

inductive ComputeError where
  | deadlineExceeded
  | other

/-- What a method consults while it computes commands. -/
structure Environment where
  registry : Registry
  spotToSpotEnabled : Bool := false
  isConsolidated : Bool := false
  sortCandidates : List Candidate → List Candidate
  sort_perm : ∀ candidates, (sortCandidates candidates).Perm candidates
  simulate : List Candidate → Simulation
  filterOutSameInstanceType : Replacement → List Candidate → Option Replacement
  approveCommand : Command → Bool
  canPassThreshold : Candidate → Bool
  /-- The time for the method is over when it comes to the candidate at the position. -/
  timedOut : Nat → Bool
  /-- The order in which single-node consolidation goes through the NodePools. -/
  sortedNodePools : List String
  validateCommand : Command → List Candidate → Option Failure
  first : Round
  second : Round

namespace Environment

variable (env : Environment)

/-- A candidate that is being deleted makes for no command. -/
def computed (candidates : List Candidate) : Except ComputeError Command :=
  match env.simulate candidates with
  | .results results => .ok (computeConsolidation env.registry env.spotToSpotEnabled candidates results)
  | .candidateDeleting => .ok {}
  | .deadlineExceeded => .error .deadlineExceeded
  | .failed => .error .other

/-- The command of a batch, if it makes sense and is approved. -/
def sensible (cmd : Command) (batch : List Candidate) : Option Command :=
  match cmd.decision with
  | .delete => some cmd
  | .replace =>
    match cmd.replacements with
    | [] => none
    | replacement :: rest =>
      (env.filterOutSameInstanceType replacement batch).bind fun cheaper =>
        if cheaper.nodeClaim.instanceTypeOptions.isEmpty then none
        else some { cmd with replacements := cheaper :: rest }
  | _ => none

/-- The binary search for the longest batch that can be consolidated. When the time is over, the command that was
saved last is returned. -/
def search (candidates : List Candidate) (min max : Nat) (lastSavedCommand : Command) : Except Failure Command :=
  if min ≤ max then
    let mid := (min + max) / 2
    let candidatesToConsolidate := candidates.take (mid + 1)
    match env.computed candidatesToConsolidate with
    | .error .deadlineExceeded => .ok lastSavedCommand
    | .error .other => .error .other
    | .ok cmd =>
      match (env.sensible cmd candidatesToConsolidate).filter env.approveCommand with
      | some cmd => search candidates (mid + 1) max cmd
      | none => if mid = 0 then .ok lastSavedCommand else search candidates min (mid - 1) lastSavedCommand
  else .ok lastSavedCommand
termination_by max + 1 - min

def firstNConsolidationOption (candidates : List Candidate) (max : Nat) : Except Failure Command :=
  if candidates.length < 2 then .ok {}
  else env.search candidates 1 (if candidates.length ≤ max then candidates.length - 1 else max) {}

/-- Candidates are validated, then the command, then the candidates again. -/
def isValid (cmd : Command) : Except Failure Unit :=
  match validateCandidates env.first cmd.candidates with
  | .error failure => .error failure
  | .ok validatedCandidates =>
    match env.validateCommand cmd validatedCandidates with
    | some failure => .error failure
    | none => (validateCandidates env.second validatedCandidates).map fun _ => ()

/-- A command that is not valid any more is dropped. -/
def validated (cmd : Command) : Except Failure (List Command) :=
  match env.isValid cmd with
  | .ok _ => .ok [cmd]
  | .error .validation => .ok []
  | .error .other => .error .other

def emptiness (budgets : Map String Int) (candidates : List Candidate) : Except Failure (List Command) :=
  if env.isConsolidated then .ok []
  else
    let empty := takeWithin Candidate.isEmpty budgets (env.sortCandidates candidates)
    if empty.isEmpty then .ok []
    else
      match validateEmptyCandidates env.first empty with
      | .ok valid => .ok [{ candidates := valid }]
      | .error .validation => .ok []
      | .error .other => .error .other

def multiNodeConsolidation (budgets : Map String Int) (candidates : List Candidate) : Except Failure (List Command) :=
  if env.isConsolidated then .ok []
  else
    let disruptableCandidates := takeWithin (fun _ => true) budgets (env.sortCandidates candidates)
    match env.firstNConsolidationOption disruptableCandidates (min disruptableCandidates.length 100) with
    | .error failure => .error failure
    | .ok cmd => if cmd.decision = .noOp then .ok [] else env.validated cmd

/-- Candidates of the NodePools in turn. -/
def shuffleCandidates (candidates : List Candidate) : List Candidate :=
  let nodePoolCandidates := fun nodePool => candidates.filter fun c => decide (c.nodePool = nodePool)
  let maxCandidatesPerNodePool := (candidates.map fun c => (nodePoolCandidates c.nodePool).length).foldl max 0
  (List.range maxCandidatesPerNodePool).flatMap fun i =>
    env.sortedNodePools.filterMap fun nodePool => (nodePoolCandidates nodePool)[i]?

def singleNodeLoop (budgets : Map String Int) : Nat → List Candidate → Except Failure (List Command)
  | _, [] => .ok []
  | i, c :: rest =>
    if env.timedOut i then .ok []
    else if count budgets c.nodePool = 0 then singleNodeLoop budgets (i + 1) rest
    else if !env.canPassThreshold c then singleNodeLoop budgets (i + 1) rest
    else
      match env.computed [c] with
      | .error _ => singleNodeLoop budgets (i + 1) rest
      | .ok cmd =>
        if cmd.decision = .noOp || !env.approveCommand cmd then singleNodeLoop budgets (i + 1) rest
        else env.validated cmd

def singleNodeConsolidation (budgets : Map String Int) (candidates : List Candidate) : Except Failure (List Command) :=
  if env.isConsolidated then .ok []
  else env.singleNodeLoop budgets 0 (env.shuffleCandidates (env.sortCandidates candidates))

end Environment

inductive Method where
  | emptiness
  | multiNodeConsolidation
  | singleNodeConsolidation

def Method.reason : Method → DisruptionReason
  | .emptiness => .empty
  | .multiNodeConsolidation | .singleNodeConsolidation => .underutilized

def Method.computeCommands (method : Method) (env : Environment) (budgets : Map String Int) (candidates : List Candidate) :
    Except Failure (List Command) :=
  match method with
  | .emptiness => env.emptiness budgets candidates
  | .multiNodeConsolidation => env.multiNodeConsolidation budgets candidates
  | .singleNodeConsolidation => env.singleNodeConsolidation budgets candidates

end Karpenter.Disruption
