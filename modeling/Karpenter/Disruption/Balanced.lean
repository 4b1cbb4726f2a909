import Karpenter.Disruption.CandidateSearch

/-! Balanced consolidation. A move is approved if its share of the savings is large enough against its share of the
disruption, in every NodePool with the policy. A candidate that would not even pass as a deletion is left out before
anything is simulated. Savings and costs are exact numbers; metrics and events are left out. -/
namespace Karpenter.Disruption

open Go (Map)
open CloudProvider (Registry cheapestLaunchPrice)
open Provisioning (NodeClaim)

inductive ConsolidationPolicy where
  | whenEmpty
  | whenEmptyOrUnderutilized
  | balanced
  deriving DecidableEq

def ConsolidationPolicy.isBalanced (p : ConsolidationPolicy) : Bool := decide (p = .balanced)

def balancedK : Int := 2

structure NodePoolTotals where
  totalCost : ℚ := 0
  totalDisruptionCost : ℚ := 0

structure ScoreResult where
  savingsFraction : ℚ := 0
  disruptionFraction : ℚ := 0
  k : Int

namespace ScoreResult

/-- Savings by disruption; a move that disrupts nothing and saves something is the best one. -/
def score (r : ScoreResult) : WithTop ℚ :=
  if r.savingsFraction ≤ 0 then 0
  else if r.disruptionFraction = 0 then ⊤
  else ((r.savingsFraction / r.disruptionFraction : ℚ) : WithTop ℚ)

def threshold (r : ScoreResult) : ℚ := 1 / r.k

def approved (r : ScoreResult) : Bool := decide ((r.threshold : WithTop ℚ) ≤ r.score)

theorem approved_iff {r : ScoreResult} (positive : 0 < r.k) : r.approved = true ↔ 0 < r.savingsFraction ∧
    (r.disruptionFraction = 0 ∨ r.threshold ≤ r.savingsFraction / r.disruptionFraction) := by
  have above : 0 < r.threshold := one_div_pos.mpr (Int.cast_pos.mpr positive)
  rw [approved, decide_eq_true_eq, score]
  split
  · rename_i saves
    rw [← WithTop.coe_zero, WithTop.coe_le_coe]
    exact iff_of_false (not_le.mpr above) fun useful => absurd useful.1 (not_lt.mpr saves)
  · rename_i saves
    split
    · rename_i free
      exact iff_of_true le_top ⟨not_le.mp saves, .inl free⟩
    · rename_i costly
      rw [WithTop.coe_le_coe]
      exact ⟨fun passes => ⟨not_le.mp saves, .inr passes⟩, fun useful => useful.2.resolve_left costly⟩

end ScoreResult

/-- Without totals there is nothing to compare with. -/
def scoreMove (savings disruptionCost : ℚ) (totals : NodePoolTotals) (k : Int) : ScoreResult :=
  if totals.totalCost ≤ 0 ∨ totals.totalDisruptionCost ≤ 0 then { k }
  else
    { savingsFraction := savings / totals.totalCost
      disruptionFraction := disruptionCost / totals.totalDisruptionCost
      k }

/-- A move that saves more is approved if one that saves less is. -/
theorem approved_scoreMove_mono (positive : 0 < k) (le : savings ≤ more)
    (approved : (scoreMove savings disruptionCost totals k).approved = true) :
    (scoreMove more disruptionCost totals k).approved = true := by
  unfold scoreMove at approved ⊢
  split
  · rename_i noTotals
    rw [if_pos noTotals] at approved
    exact approved
  · rename_i someTotals
    rw [if_neg someTotals, ScoreResult.approved_iff positive] at approved
    obtain ⟨costs, disrupts⟩ := not_or.mp someTotals
    have fraction : savings / totals.totalCost ≤ more / totals.totalCost :=
      div_le_div_of_nonneg_right le (not_le.mp costs).le
    refine (ScoreResult.approved_iff positive).mpr ⟨approved.1.trans_le fraction, ?_⟩
    refine approved.2.imp_right fun passes => ?_
    -- a negative share of the disruption would make the score negative
    have share : 0 ≤ disruptionCost / totals.totalDisruptionCost := by
      by_contra negative
      have below := div_neg_of_pos_of_neg approved.1 (not_le.mp negative)
      have above : (0 : ℚ) < 1 / (k : ℚ) := one_div_pos.mpr (Int.cast_pos.mpr positive)
      exact absurd (above.trans_le passes) (not_lt.mpr below.le)
    exact passes.trans (div_le_div_of_nonneg_right fraction share)

/-- The disruption costs by NodePool. -/
def computePoolDisruptionCosts (candidates : List Candidate) : Option (Map String ℚ) :=
  if candidates.isEmpty then none
  else some (candidates.foldl (fun costs c =>
    costs.insert c.nodePool ((costs.lookup c.nodePool).getD 0 + c.rescheduleDisruptionCost)) ∅)

/-- A command with what it is scored by: the NodeClaims of the simulation, and the costs of its candidates where they
were computed before. -/
structure ScoredCommand extends Command where
  newNodeClaims : List NodeClaim := []
  poolDisruptionCosts : Option (Map String ℚ)
  computed : poolDisruptionCosts = none ∨ poolDisruptionCosts = computePoolDisruptionCosts candidates

/-- The price of the cheapest offering of the first instance type; nothing if there is none. -/
def destinationPrice (registry : Registry) (n : NodeClaim) : ℚ :=
  match n.instanceTypeOptions with
  | [] => 0
  | it :: _ => (cheapestLaunchPrice registry it n.requirements).getD 0

namespace ScoredCommand

def sourceCost (cmd : ScoredCommand) : ℚ := (cmd.candidates.map (·.price)).sum

def estimatedSavings (registry : Registry) (cmd : ScoredCommand) : ℚ :=
  if cmd.reboot then 0
  else if cmd.replacements.isEmpty then cmd.sourceCost
  else cmd.sourceCost - (cmd.newNodeClaims.map (destinationPrice registry)).sum

def poolDisruptionCost (cmd : ScoredCommand) (poolName : String) : ℚ :=
  match cmd.poolDisruptionCosts with
  | some costs => (costs.lookup poolName).getD 0
  | none => ((cmd.candidates.filter fun c => c.nodePool = poolName).map (·.rescheduleDisruptionCost)).sum

end ScoredCommand

section Evaluator

-- the policy is that of the NodePool of the candidate
variable (policyOf : Candidate → ConsolidationPolicy) (registry : Registry) (nodePoolTotals : Map String NodePoolTotals)

/-- The score of the command in a NodePool, unless it does not have the policy. -/
def scorePool (cmd : ScoredCommand) (pools : Nat) (poolName : String) (poolCandidates : List Candidate) :
    Option ScoreResult :=
  if poolCandidates.head?.any fun c => (policyOf c).isBalanced then
    let savings := cmd.estimatedSavings registry
    let poolSavings :=
      if 0 < cmd.sourceCost ∧ 1 < pools then savings * (sumCandidatePrices poolCandidates / cmd.sourceCost) else savings
    some (scoreMove poolSavings (cmd.poolDisruptionCost poolName) ((nodePoolTotals.lookup poolName).getD {}) balancedK)
  else none

def evaluateBalancedMove (cmd : ScoredCommand) : Bool × Map String ScoreResult :=
  if cmd.candidates.isEmpty then (false, ∅)
  else
    let byPool := groupByNodePool cmd.candidates
    let perPool := byPool.filterMapValues (scorePool policyOf registry nodePoolTotals cmd byPool.entries.length)
    (perPool.entries.all fun entry => entry.2.approved, perPool)

def approveCommand (cmd : ScoredCommand) : Bool × Map String ScoreResult :=
  evaluateBalancedMove policyOf registry nodePoolTotals cmd

/-- Whether the candidate would be approved as a deletion. -/
def canPassThreshold (c : Candidate) : Bool :=
  if !(policyOf c).isBalanced then true
  else
    match nodePoolTotals.lookup c.nodePool with
    | none => true
    | some totals =>
      if totals.totalCost ≤ 0 then true
      else (scoreMove c.price c.rescheduleDisruptionCost totals balancedK).approved

variable {registry nodePoolTotals} {cmd : ScoredCommand} {c : Candidate}

theorem poolDisruptionCost_single (single : cmd.candidates = [c]) :
    cmd.poolDisruptionCost c.nodePool = c.rescheduleDisruptionCost := by
  rw [ScoredCommand.poolDisruptionCost]
  split
  · rename_i costs known
    have computed := (cmd.computed.resolve_left (by rw [known]; exact Option.some_ne_none _)).symm.trans known
    rw [single, computePoolDisruptionCosts] at computed
    obtain rfl := Option.some.inj computed
    rw [List.foldl_cons, List.foldl_nil, Map.lookup_insert_eq, if_pos rfl]
    exact zero_add _
  · simp [single]

theorem nonneg_cheapestLaunchPrice (priced : ∀ o ∈ it.offerings, 0 ≤ o.price) (requirements : Scheduling.Requirements) :
    0 ≤ (cheapestLaunchPrice registry it requirements).getD 0 := by
  refine List.foldlRecOn (motive := fun price : Option ℚ => 0 ≤ price.getD 0) _ _ le_rfl fun price nonneg o launched => ?_
  have here := priced o (List.mem_of_mem_filter (List.mem_of_mem_filter launched))
  cases price with
  | none => exact here
  | some best =>
    show 0 ≤ if o.price < best then o.price else best
    split
    · exact here
    · exact nonneg

/-- No command for a single candidate saves more than its price. -/
theorem estimatedSavings_single_le (single : cmd.candidates = [c])
    (kind : cmd.decision = .delete ∨ cmd.decision = .replace)
    (priced : ∀ n ∈ cmd.newNodeClaims, ∀ it ∈ n.instanceTypeOptions, ∀ o ∈ it.offerings, 0 ≤ o.price) :
    cmd.estimatedSavings registry ≤ c.price := by
  have source : cmd.sourceCost = c.price := by simp [ScoredCommand.sourceCost, single]
  have running : cmd.reboot = false := by
    rw [Command.decision, single] at kind
    cases reboots : cmd.reboot with
    | false => rfl
    | true => simp [reboots] at kind
  rw [ScoredCommand.estimatedSavings, running, source]
  simp only [Bool.false_eq_true, if_false]
  split
  · exact le_rfl
  · refine sub_le_self _ (List.sum_nonneg fun price priceOf => ?_)
    obtain ⟨n, new, rfl⟩ := List.mem_map.mp priceOf
    rw [destinationPrice]
    split
    · exact le_rfl
    · rename_i it rest options
      refine nonneg_cheapestLaunchPrice (priced n new it ?_) _
      rw [options]
      exact List.mem_cons_self

/-- A candidate that is left out beforehand makes for no approved deletion or replacement. -/
theorem approveCommand_of_not_canPassThreshold (policyOf : Candidate → ConsolidationPolicy) (registry : Registry)
    (nodePoolTotals : Map String NodePoolTotals) (c : Candidate)
    (leftOut : canPassThreshold policyOf nodePoolTotals c = false) (cmd : ScoredCommand) (single : cmd.candidates = [c])
    (kind : cmd.decision = .delete ∨ cmd.decision = .replace)
    (priced : ∀ n ∈ cmd.newNodeClaims, ∀ it ∈ n.instanceTypeOptions, ∀ o ∈ it.offerings, 0 ≤ o.price) :
    (approveCommand policyOf registry nodePoolTotals cmd).1 = false := by
  rw [canPassThreshold] at leftOut
  cases balanced : (policyOf c).isBalanced with
  | false => simp [balanced] at leftOut
  | true =>
    rw [balanced, Bool.not_true, if_neg Bool.false_ne_true] at leftOut
    split at leftOut
    · cases leftOut
    · rename_i totals known
      split at leftOut
      · cases leftOut
      · have scored : scorePool policyOf registry nodePoolTotals cmd 1 c.nodePool [c] =
            some (scoreMove (cmd.estimatedSavings registry) c.rescheduleDisruptionCost totals balancedK) := by
          simp [scorePool, balanced, known, poolDisruptionCost_single single]
        have rejected : (scoreMove (cmd.estimatedSavings registry) c.rescheduleDisruptionCost totals balancedK).approved =
            false := by
          by_contra approved
          have deletion := approved_scoreMove_mono (by decide) (estimatedSavings_single_le single kind priced)
            (Bool.of_not_eq_false approved)
          rw [leftOut] at deletion
          cases deletion
        have listed : ((groupByNodePool [c]).filterMapValues
            (scorePool policyOf registry nodePoolTotals cmd 1)).lookup c.nodePool =
              some (scoreMove (cmd.estimatedSavings registry) c.rescheduleDisruptionCost totals balancedK) := by
          rw [Map.lookup_filterMapValues, groupByNodePool, List.foldl_cons, List.foldl_nil, Map.lookup_insert_eq,
            if_pos rfl]
          exact scored
        rw [approveCommand, evaluateBalancedMove, single]
        refine List.all_eq_false.mpr ⟨_, Map.mem_entries_iff.mpr listed, ?_⟩
        rw [rejected]
        exact Bool.false_ne_true

def costlyNode : Candidate := { emptyNode "a" with rescheduleDisruptionCost := 10 }

def deletion : ScoredCommand where
  candidates := [costlyNode]
  poolDisruptionCosts := none
  computed := .inl rfl

/-- A node that saves a hundredth of the cost for a tenth of the disruption is not deleted. -/
theorem approveCommand_of_not_canPassThreshold_deletion :
    (approveCommand (fun _ => .balanced) ⟨∅, "", []⟩ (Map.ofList [("default", ⟨100, 100⟩)]) deletion).1 = false :=
  approveCommand_of_not_canPassThreshold _ _ _ costlyNode (by decide +kernel) deletion rfl (.inl rfl)
    fun _ new => absurd new List.not_mem_nil

end Evaluator

end Karpenter.Disruption
