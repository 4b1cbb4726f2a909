import Karpenter.Provisioning.Scheduler

/-! Disruption commands: the nodes to be removed and what is launched in their place. Metrics, events and
the costs kept for scoring are left out. -/
namespace Karpenter.Disruption

open Provisioning (NodeClaim)

/-- A node that may be disrupted. The price is 0 when it is unknown. -/
structure Candidate where
  name : String
  providerID : String
  nodePool : String
  capacityType : String
  price : ℚ
  rescheduleDisruptionCost : ℚ := 0

structure Replacement where
  nodeClaim : NodeClaim
  name : String := ""
  initialized : Bool := false

def replacementsFromNodeClaims (newNodeClaims : List NodeClaim) : List Replacement :=
  newNodeClaims.map fun n => { nodeClaim := n }

structure Command where
  candidates : List Candidate := []
  replacements : List Replacement := []
  terminateFirst : Bool := false
  reboot : Bool := false

inductive Decision where
  | noOp
  | replace
  | delete
  | terminateFirst
  | reboot
  deriving DecidableEq

def Command.decision (c : Command) : Decision :=
  if c.candidates.isEmpty then .noOp
  else if c.reboot then .reboot
  else if !c.replacements.isEmpty then .replace
  else if c.terminateFirst then .terminateFirst
  else .delete

def sumCandidatePrices (candidates : List Candidate) : ℚ := (candidates.map (·.price)).sum

end Karpenter.Disruption
