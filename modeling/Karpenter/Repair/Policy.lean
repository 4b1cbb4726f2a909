import Karpenter.Go.Map
import Mathlib

/-! How the repair policies that match the conditions of a node become one decision. A loop over the matches keeps
three of them: the one that governs the action, the one with the shortest termination grace period, and the one with
the highest score. Times are nanoseconds after the zero time and scores exact numbers; whether a regular expression
matches a reason is a parameter. -/
namespace Karpenter.Repair

open Go (Map)

inductive RepairAction where
  | rebootNode
  | replaceNode
  deriving DecidableEq

def repairActionRank : RepairAction → Nat
  | .replaceNode => 1
  | .rebootNode => 0

def RepairAction.isMoreDisruptiveThan (a other : RepairAction) : Bool := decide (repairActionRank other < repairActionRank a)

structure RepairPolicy where
  reasonRegex : String := ""
  tolerationDuration : Int
  terminationGracePeriod : Option Int := none
  priority : Int
  action : RepairAction

/-- A policy for reasons, with its compiled expression. -/
structure CompiledPolicy extends RepairPolicy where
  matchString : String → Bool

structure ConditionState where
  type : String
  status : String
  reason : String

structure NodeCondition extends ConditionState where
  lastTransition : Int

/-- A policy that matches a condition of the node, from when on it is eligible. -/
structure RepairPolicyMatch where
  policy : RepairPolicy
  condition : ConditionState
  rank : Int
  eligibleAt : Int

structure RepairPolicyMatcher where
  /-- The policies by type and status of the condition. -/
  groups : Map (String × String) (List CompiledPolicy)
  fallbackPolicy : RepairPolicy
  ranks : Map Int Int

namespace RepairPolicyMatcher

variable (p : RepairPolicyMatcher)

def newMatch (policy : RepairPolicy) (condition : ConditionState) (transitionTime : Int) : RepairPolicyMatch where
  policy := policy
  condition := condition
  rank := (p.ranks.lookup policy.priority).getD 0
  eligibleAt := transitionTime + policy.tolerationDuration

/-- The fallback applies where no policy for the type and status matches the reason. A condition does not predate its
node. -/
def matchCondition (created : Int) (c : NodeCondition) : List RepairPolicyMatch :=
  let transitionTime := if c.lastTransition < created then created else c.lastTransition
  match p.groups.lookup (c.type, c.status) with
  | none => []
  | some specificPolicies =>
    let matched := specificPolicies.filter (·.matchString c.reason)
    if matched.isEmpty then [p.newMatch p.fallbackPolicy c.toConditionState transitionTime]
    else matched.map fun policy => p.newMatch policy.toRepairPolicy c.toConditionState transitionTime

def match_ (created : Int) (conditions : List NodeCondition) : List RepairPolicyMatch :=
  conditions.flatMap (p.matchCondition created)

end RepairPolicyMatcher

/-- Half an hour. -/
def agingConstant : Int := 30 * 60 * 1000000000

def score (rank eligibleAt now : Int) : ℚ := rank + (now - eligibleAt) / agingConstant

structure RepairResult where
  action : Option RepairAction := none
  condition : String := ""
  conditionStatus : String := ""
  reason : String := ""
  reasonRegex : String := ""
  fallback : Bool := false
  selectedEligibleAt : Int := 0
  terminationGracePeriod : Option Int := none
  terminationGracePeriodCondition : String := ""
  selectedPriority : Int := 0
  terminationGracePeriodEligibleAt : Int := 0
  scoreRank : Int := 0
  scoreEligibleAt : Int := 0

namespace RepairResult

variable (r : RepairResult)

def scoreAt (now : Int) : ℚ :=
  match r.action with
  | none => 0
  | some _ => score r.scoreRank r.scoreEligibleAt now

def mergeScore (rank eligibleAt now : Int) (isFirstEligiblePolicy : Bool) : RepairResult :=
  if isFirstEligiblePolicy || decide (r.scoreAt now < score rank eligibleAt now) then
    { r with scoreRank := rank, scoreEligibleAt := eligibleAt }
  else r

def shorterTerminationGracePeriod (bound : Int) (condition : String) (eligibleAt : Int) : Bool :=
  match r.terminationGracePeriod with
  | none => true
  | some current =>
    if bound ≠ current then decide (bound < current)
    else if eligibleAt ≠ r.terminationGracePeriodEligibleAt then
      decide (eligibleAt < r.terminationGracePeriodEligibleAt)
    else decide (condition < r.terminationGracePeriodCondition)

def mergeTerminationGracePeriod (policy : RepairPolicy) (condition : String) (eligibleAt : Int) : RepairResult :=
  match policy.terminationGracePeriod with
  | none => r
  | some bound =>
    if r.shorterTerminationGracePeriod bound condition eligibleAt then
      { r with
        terminationGracePeriod := some bound
        terminationGracePeriodCondition := condition
        terminationGracePeriodEligibleAt := eligibleAt }
    else r

/-- Whether the policy is to govern the action. -/
def selects (policy : RepairPolicy) (condition : String) (eligibleAt : Int) : Bool :=
  match r.action with
  | none => true
  | some action =>
    if policy.action = action then
      if policy.priority ≠ r.selectedPriority then decide (r.selectedPriority < policy.priority)
      else if eligibleAt ≠ r.selectedEligibleAt then decide (eligibleAt < r.selectedEligibleAt)
      else decide (condition < r.condition)
    else policy.action.isMoreDisruptiveThan action

def mergePolicy (policy : RepairPolicy) (condition : ConditionState) (rank eligibleAt now : Int) : RepairResult :=
  if now < eligibleAt then r
  else
    let merged := (r.mergeScore rank eligibleAt now r.action.isNone).mergeTerminationGracePeriod policy condition.type
      eligibleAt
    if r.selects policy condition.type eligibleAt then
      { merged with
        action := some policy.action
        condition := condition.type
        conditionStatus := condition.status
        reason := condition.reason
        reasonRegex := policy.reasonRegex
        fallback := decide (policy.reasonRegex = "")
        selectedEligibleAt := eligibleAt
        selectedPriority := policy.priority }
    else merged

end RepairResult

/-- The match with its toleration measured from no earlier than a time. -/
def RepairPolicyMatch.after (notBefore : Int) (m : RepairPolicyMatch) : RepairPolicyMatch :=
  { m with eligibleAt :=
      if m.eligibleAt < notBefore + m.policy.tolerationDuration then notBefore + m.policy.tolerationDuration
      else m.eligibleAt }

def resolve (matches_ : List RepairPolicyMatch) (now notBefore : Int) : RepairResult :=
  matches_.foldl (fun r m => r.mergePolicy m.policy m.condition m.rank (m.after notBefore).eligibleAt now) {}

section Optima

namespace RepairPolicyMatch

variable (m : RepairPolicyMatch)

/-- By the disruptiveness of the action, then the priority, then the earliest eligibility, then the smallest type. -/
def precedence : ℕ ×ₗ ℤ ×ₗ ℤᵒᵈ ×ₗ Stringᵒᵈ :=
  toLex (repairActionRank m.policy.action, toLex (m.policy.priority,
    toLex (OrderDual.toDual m.eligibleAt, OrderDual.toDual m.condition.type)))

/-- By the shortest termination grace period, then the earliest eligibility, then the smallest type. -/
def shortness : ℤᵒᵈ ×ₗ ℤᵒᵈ ×ₗ Stringᵒᵈ :=
  toLex (OrderDual.toDual (m.policy.terminationGracePeriod.getD 0),
    toLex (OrderDual.toDual m.eligibleAt, OrderDual.toDual m.condition.type))

def scoreAt (now : Int) (m : RepairPolicyMatch) : ℚ := score m.rank m.eligibleAt now

def bounded : Bool := m.policy.terminationGracePeriod.isSome

end RepairPolicyMatch

open RepairPolicyMatch

/-- The matches that are eligible at a time. -/
def eligible (matches_ : List RepairPolicyMatch) (now notBefore : Int) : List RepairPolicyMatch :=
  (matches_.map (·.after notBefore)).filter fun m => m.eligibleAt ≤ now

/-- A decision from the match that governs it, the one that bounds the drain and the one with the highest score. -/
def RepairResult.ofOptima (governing bound scored : Option RepairPolicyMatch) : RepairResult where
  action := governing.map (·.policy.action)
  condition := governing.elim "" (·.condition.type)
  conditionStatus := governing.elim "" (·.condition.status)
  reason := governing.elim "" (·.condition.reason)
  reasonRegex := governing.elim "" (·.policy.reasonRegex)
  fallback := governing.elim false fun m => decide (m.policy.reasonRegex = "")
  selectedEligibleAt := governing.elim 0 (·.eligibleAt)
  terminationGracePeriod := bound.bind (·.policy.terminationGracePeriod)
  terminationGracePeriodCondition := bound.elim "" (·.condition.type)
  selectedPriority := governing.elim 0 (·.policy.priority)
  terminationGracePeriodEligibleAt := bound.elim 0 (·.eligibleAt)
  scoreRank := scored.elim 0 (·.rank)
  scoreEligibleAt := scored.elim 0 (·.eligibleAt)

open RepairResult (ofOptima)

theorem repairActionRank_injective : Function.Injective repairActionRank := by
  intro a b
  cases a <;> cases b <;> simp [repairActionRank]

/-- A comparison that goes on only where two values are equal. -/
theorem ite_ne_eq_true_iff {α : Type*} [DecidableEq α] {a b : α} {less : Prop} [Decidable less]
    (strict : less → a ≠ b) : (if a ≠ b then decide less else rest) = true ↔ less ∨ a = b ∧ rest = true := by
  by_cases same : a = b
  · rw [if_neg (not_not.mpr same)]
    exact ⟨fun later => .inr ⟨same, later⟩, fun either => (either.resolve_left fun below => strict below same).2⟩
  · rw [if_pos same, decide_eq_true_eq]
    exact ⟨.inl, fun either => either.resolve_right fun equal => same equal.1⟩

variable {governing bound scored : Option RepairPolicyMatch} {m : RepairPolicyMatch} {now : Int}

theorem selects_iff (c m : RepairPolicyMatch) : (ofOptima (some c) bound scored).selects m.policy
    m.condition.type m.eligibleAt = true ↔ c.precedence < m.precedence := by
  simp only [precedence, Prod.Lex.toLex_lt_toLex, OrderDual.toDual_lt_toDual, OrderDual.toDual_inj,
    repairActionRank_injective.eq_iff]
  rw [RepairResult.selects, show RepairResult.action _ = some c.policy.action from rfl]
  dsimp only
  split
  · rename_i same
    rw [ite_ne_eq_true_iff fun below => below.ne', ite_ne_eq_true_iff fun below => below.ne, decide_eq_true_eq, same,
      @eq_comm _ m.policy.priority, @eq_comm _ m.eligibleAt]
    simp [ofOptima]
  · rename_i differs
    rw [RepairAction.isMoreDisruptiveThan, decide_eq_true_eq]
    tauto

theorem shorter_iff {c m : RepairPolicyMatch} {limit : Int} (limited : c.bounded = true)
    (given : m.policy.terminationGracePeriod = some limit) :
    (ofOptima governing (some c) scored).shorterTerminationGracePeriod limit m.condition.type m.eligibleAt =
      true ↔ c.shortness < m.shortness := by
  obtain ⟨current, known⟩ := Option.isSome_iff_exists.mp limited
  rw [RepairResult.shorterTerminationGracePeriod, ofOptima, Option.bind_some, known]
  rw [ite_ne_eq_true_iff fun below => below.ne, ite_ne_eq_true_iff fun below => below.ne, decide_eq_true_eq,
    @eq_comm _ limit, @eq_comm _ m.eligibleAt]
  simp only [shortness, Prod.Lex.toLex_lt_toLex, OrderDual.toDual_lt_toDual, OrderDual.toDual_inj, known, given,
    Option.getD_some, Option.elim_some]

/-- The match that is kept out of a former one and a new one. -/
def keep {κ : Type*} [LinearOrder κ] (key : RepairPolicyMatch → κ) (former : Option RepairPolicyMatch)
    (m : RepairPolicyMatch) : Option RepairPolicyMatch :=
  match former with
  | none => some m
  | some c => if key c < key m then some m else some c

theorem mergeScore_ofOptima (together : governing.isSome = scored.isSome) :
    (ofOptima governing bound scored).mergeScore m.rank m.eligibleAt now governing.isNone =
      ofOptima governing bound (keep (scoreAt now) scored m) := by
  rw [RepairResult.mergeScore]
  cases governing with
  | none =>
    cases scored with
    | some c => cases together
    | none => rfl
  | some g =>
    cases scored with
    | none => cases together
    | some c =>
      rw [keep, Option.isNone_some, Bool.false_or, apply_ite (ofOptima (some g) bound)]
      exact if_congr decide_eq_true_iff rfl rfl

theorem mergeTerminationGracePeriod_ofOptima (limits : ∀ c ∈ bound, c.bounded = true) :
    (ofOptima governing bound scored).mergeTerminationGracePeriod m.policy m.condition.type m.eligibleAt =
      ofOptima governing (if m.bounded then keep shortness bound m else bound) scored := by
  rw [RepairResult.mergeTerminationGracePeriod, bounded]
  cases given : m.policy.terminationGracePeriod with
  | none => rfl
  | some limit =>
    have replaced : ofOptima governing (some m) scored =
        { ofOptima governing bound scored with
          terminationGracePeriod := some limit
          terminationGracePeriodCondition := m.condition.type
          terminationGracePeriodEligibleAt := m.eligibleAt } := by
      simp [ofOptima, given]
    rw [Option.isSome_some, if_pos rfl]
    dsimp only
    cases bound with
    | none =>
      rw [keep, replaced]
      exact if_pos rfl
    | some c =>
      rw [keep, apply_ite (ofOptima governing · scored), replaced]
      exact if_congr (shorter_iff (limits c rfl) given) rfl rfl

theorem mergePolicy_ofOptima (together : governing.isSome = scored.isSome) (limits : ∀ c ∈ bound, c.bounded = true)
    (due : m.eligibleAt ≤ now) :
    (ofOptima governing bound scored).mergePolicy m.policy m.condition m.rank m.eligibleAt now =
      ofOptima (keep precedence governing m) (if m.bounded then keep shortness bound m else bound)
        (keep (scoreAt now) scored m) := by
  have first : (ofOptima governing bound scored).action.isNone = governing.isNone := by
    cases governing <;> rfl
  rw [RepairResult.mergePolicy, if_neg (not_lt.mpr due), first, mergeScore_ofOptima together,
    mergeTerminationGracePeriod_ofOptima limits]
  cases governing with
  | none => exact if_pos rfl
  | some c =>
    rw [keep, apply_ite fun governing => ofOptima governing _ _]
    exact if_congr (selects_iff c m) rfl rfl

theorem exists_argmax {κ : Type*} [LinearOrder κ] (key : RepairPolicyMatch → κ) (some_ : l ≠ []) :
    ∃ m, l.argmax key = some m := Option.ne_none_iff_exists'.mp (mt List.argmax_eq_none.mp some_)

theorem argmax_concat_eq_keep {κ : Type*} [LinearOrder κ] (key : RepairPolicyMatch → κ) (l : List RepairPolicyMatch)
    (m : RepairPolicyMatch) : (l ++ [m]).argmax key = keep key (l.argmax key) m := by
  rw [List.argmax_concat]
  cases l.argmax key <;> rfl

theorem eligible_concat (before : List RepairPolicyMatch) (m : RepairPolicyMatch) (now notBefore : Int) :
    eligible (before ++ [m]) now notBefore = eligible before now notBefore ++
      if (m.after notBefore).eligibleAt ≤ now then [m.after notBefore] else [] := by
  simp only [eligible, List.map_append, List.filter_append, List.map_cons, List.map_nil, List.filter_cons,
    List.filter_nil, decide_eq_true_eq]

/-- The loop keeps the three optima of the eligible matches. -/
theorem resolve_eq_ofOptima (matches_ : List RepairPolicyMatch) (now notBefore : Int) :
    resolve matches_ now notBefore = ofOptima ((eligible matches_ now notBefore).argmax precedence)
      (((eligible matches_ now notBefore).filter bounded).argmax shortness)
      ((eligible matches_ now notBefore).argmax (scoreAt now)) := by
  induction matches_ using List.reverseRecOn with
  | nil => rfl
  | append_singleton before m ih =>
    rw [resolve, List.foldl_append, ← resolve, List.foldl_cons, List.foldl_nil, ih, eligible_concat]
    by_cases due : (m.after notBefore).eligibleAt ≤ now
    · have together : ((eligible before now notBefore).argmax precedence).isSome =
          ((eligible before now notBefore).argmax (scoreAt now)).isSome := by
        rw [Bool.eq_iff_iff, Option.isSome_iff_ne_none, Option.isSome_iff_ne_none, Ne, Ne, List.argmax_eq_none,
          List.argmax_eq_none]
      have limits : ∀ c ∈ ((eligible before now notBefore).filter bounded).argmax shortness, c.bounded = true :=
        fun c best => (List.mem_filter.mp (List.argmax_mem best)).2
      have merged := @mergePolicy_ofOptima _ _ _ (m.after notBefore) now together limits due
      rw [if_pos due, List.filter_append, argmax_concat_eq_keep, argmax_concat_eq_keep]
      refine merged.trans ?_
      congr 1
      cases isBound : (m.after notBefore).bounded with
      | false => simp [isBound]
      | true => rw [List.filter_singleton, isBound, cond_true, argmax_concat_eq_keep, if_pos rfl]
    · rw [if_neg due, List.append_nil, RepairResult.mergePolicy, if_pos (not_le.mp due)]

/-- What the decision for a node is to be: that of the match that comes first by its action, with the shortest
termination grace period and the highest score. -/
structure Decides (eligible : List RepairPolicyMatch) (r : RepairResult) : Prop where
  idle : eligible = [] → r = {}
  governed : eligible ≠ [] → ∃ m ∈ eligible, (∀ other ∈ eligible, other.precedence ≤ m.precedence) ∧
    r.action = some m.policy.action ∧ r.condition = m.condition.type ∧ r.conditionStatus = m.condition.status ∧
    r.reason = m.condition.reason ∧ r.selectedEligibleAt = m.eligibleAt
  unlimited : (∀ m ∈ eligible, m.policy.terminationGracePeriod = none) →
    r.terminationGracePeriod = none ∧ r.terminationGracePeriodCondition = ""
  limited : ∀ some_ ∈ eligible, some_.policy.terminationGracePeriod.isSome → ∃ m ∈ eligible, ∃ bound,
    m.policy.terminationGracePeriod = some bound ∧
    (∀ other ∈ eligible, other.policy.terminationGracePeriod.isSome → other.shortness ≤ m.shortness) ∧
    r.terminationGracePeriod = some bound ∧ r.terminationGracePeriodCondition = m.condition.type
  scored : eligible ≠ [] → ∀ t, IsGreatest {s | ∃ m ∈ eligible, m.scoreAt t = s} (r.scoreAt t)

/-- Scores grow at the same rate. -/
theorem scoreAt_le_scoreAt {m other : RepairPolicyMatch} (now t : Int) (le : other.scoreAt now ≤ m.scoreAt now) :
    other.scoreAt t ≤ m.scoreAt t := by
  simp only [scoreAt, score, sub_div] at le ⊢
  linarith

theorem decides_ofOptima (matches_ : List RepairPolicyMatch) (now : Int) :
    Decides matches_ (ofOptima (matches_.argmax precedence) ((matches_.filter bounded).argmax shortness)
      (matches_.argmax (scoreAt now))) where
  idle none_ := by
    subst none_
    rfl
  governed some_ := by
    obtain ⟨m, best⟩ := exists_argmax precedence some_
    refine ⟨m, List.argmax_mem best, fun other member => List.le_of_mem_argmax member best, ?_⟩
    simp [ofOptima, best]
  unlimited none_ := by
    have empty : matches_.filter bounded = [] := List.filter_eq_nil_iff.mpr fun m member => by simp [bounded, none_ m member]
    simp [ofOptima, empty]
  limited some_ member isBound := by
    have nonempty : matches_.filter bounded ≠ [] := List.ne_nil_of_mem (List.mem_filter.mpr ⟨member, isBound⟩)
    obtain ⟨m, best⟩ := exists_argmax shortness nonempty
    obtain ⟨listed, isBound⟩ := List.mem_filter.mp (List.argmax_mem best)
    obtain ⟨bound, known⟩ := Option.isSome_iff_exists.mp isBound
    refine ⟨m, listed, bound, known, fun other member isBound => ?_, ?_⟩
    · exact List.le_of_mem_argmax (List.mem_filter.mpr ⟨member, isBound⟩) best
    · simp [ofOptima, best, known]
  scored some_ t := by
    obtain ⟨g, governing⟩ := exists_argmax precedence some_
    obtain ⟨m, best⟩ := exists_argmax (scoreAt now) some_
    rw [governing, best]
    refine ⟨⟨m, List.argmax_mem best, rfl⟩, ?_⟩
    rintro s ⟨other, member, rfl⟩
    exact scoreAt_le_scoreAt now t (List.le_of_mem_argmax member best)

/-- Two decisions agree on the action, its source and its time, on the bound and its source, and on the score. -/
structure SameDecision (r r' : RepairResult) : Prop where
  action : r.action = r'.action
  condition : r.condition = r'.condition
  conditionStatus : r.conditionStatus = r'.conditionStatus
  reason : r.reason = r'.reason
  selectedEligibleAt : r.selectedEligibleAt = r'.selectedEligibleAt
  terminationGracePeriod : r.terminationGracePeriod = r'.terminationGracePeriod
  terminationGracePeriodCondition : r.terminationGracePeriodCondition = r'.terminationGracePeriodCondition
  scoreAt : ∀ t, r.scoreAt t = r'.scoreAt t

/-- The decision depends on the matches only, if they determine their conditions by type. -/
theorem Decides.sameDecision {matches_ reordered : List RepairPolicyMatch} {r r' : RepairResult}
    (decides : Decides matches_ r) (decides' : Decides reordered r') (same : ∀ m, m ∈ matches_ ↔ m ∈ reordered)
    (byType : ∀ m ∈ matches_, ∀ other ∈ matches_, m.condition.type = other.condition.type → m.condition = other.condition) :
    SameDecision r r' := by
  rcases matches_.eq_nil_or_concat' with rfl | ⟨before, last, concat⟩
  · have none_ : reordered = [] := List.eq_nil_iff_forall_not_mem.mpr fun m member =>
      absurd ((same m).mpr member) List.not_mem_nil
    rw [decides.idle rfl, decides'.idle none_]
    exact ⟨rfl, rfl, rfl, rfl, rfl, rfl, rfl, fun _ => rfl⟩
  · have some_ : matches_ ≠ [] := by simp [concat]
    have some' : reordered ≠ [] := List.ne_nil_of_mem ((same last).mp (by simp [concat]))
    obtain ⟨m, listed, best, action, condition, status, reason, time⟩ := decides.governed some_
    obtain ⟨m', listed', best', action', condition', status', reason', time'⟩ := decides'.governed some'
    have equal : m.precedence = m'.precedence :=
      le_antisymm (best' m ((same m).mp listed)) (best m' ((same m').mpr listed'))
    simp only [precedence, EmbeddingLike.apply_eq_iff_eq, Prod.mk.injEq, repairActionRank_injective.eq_iff] at equal
    obtain ⟨sameAction, -, sameTime, sameType⟩ := equal
    have sameCondition := byType m listed m' ((same m').mpr listed') sameType
    have limit : r.terminationGracePeriod = r'.terminationGracePeriod ∧
        r.terminationGracePeriodCondition = r'.terminationGracePeriodCondition := by
      by_cases limits : ∃ m ∈ matches_, m.policy.terminationGracePeriod.isSome
      · obtain ⟨some_, member, isBound⟩ := limits
        obtain ⟨b, inList, bound, known, least, given, source⟩ := decides.limited some_ member isBound
        obtain ⟨b', inList', bound', known', least', given', source'⟩ :=
          decides'.limited some_ ((same some_).mp member) isBound
        have equal : b.shortness = b'.shortness := le_antisymm
          (least' b ((same b).mp inList) (by rw [known]; rfl)) (least b' ((same b').mpr inList') (by rw [known']; rfl))
        simp only [shortness, EmbeddingLike.apply_eq_iff_eq, Prod.mk.injEq, known, known', Option.getD_some] at equal
        exact ⟨by rw [given, given', equal.1], by rw [source, source', equal.2.2]⟩
      · have none_ : ∀ m ∈ matches_, m.policy.terminationGracePeriod = none := fun m member => by
          by_contra given
          exact limits ⟨m, member, Option.isSome_iff_ne_none.mpr given⟩
        obtain ⟨unset, source⟩ := decides.unlimited none_
        obtain ⟨unset', source'⟩ := decides'.unlimited fun m member => none_ m ((same m).mpr member)
        exact ⟨by rw [unset, unset'], by rw [source, source']⟩
    refine ⟨by rw [action, action', sameAction], by rw [condition, condition', sameType],
      by rw [status, status', sameCondition], by rw [reason, reason', sameCondition], by rw [time, time', sameTime],
      limit.1, limit.2, fun t => ?_⟩
    have scores : {s | ∃ m ∈ matches_, m.scoreAt t = s} = {s | ∃ m ∈ reordered, m.scoreAt t = s} := by
      simp only [same]
    exact (decides.scored some_ t).unique (scores ▸ decides'.scored some' t)

end Optima

/-- The decision for a node does not depend on the order of its conditions, and is the one of the best matches. -/
theorem resolve_match_perm (p : RepairPolicyMatcher) (created : Int) (conditions reordered : List NodeCondition)
    (distinct : (conditions.map fun c => c.type).Nodup) (perm : conditions.Perm reordered) (now notBefore : Int) :
    Decides (eligible (p.match_ created conditions) now notBefore) (resolve (p.match_ created conditions) now notBefore) ∧
      SameDecision (resolve (p.match_ created conditions) now notBefore)
        (resolve (p.match_ created reordered) now notBefore) := by
  have decides (conditions : List NodeCondition) : Decides (eligible (p.match_ created conditions) now notBefore)
      (resolve (p.match_ created conditions) now notBefore) := by
    rw [resolve_eq_ofOptima]
    exact decides_ofOptima _ now
  have same : (eligible (p.match_ created conditions) now notBefore).Perm
      (eligible (p.match_ created reordered) now notBefore) := ((perm.flatMap_right _).map _).filter _
  refine ⟨decides conditions, (decides conditions).sameDecision (decides reordered) (fun m => same.mem_iff) ?_⟩
  -- a match carries the condition that it was made for
  have source (m : RepairPolicyMatch) (member : m ∈ eligible (p.match_ created conditions) now notBefore) :
      ∃ c ∈ conditions, m.condition = c.toConditionState := by
    obtain ⟨m, listed, rfl⟩ := List.mem_map.mp (List.mem_of_mem_filter member)
    obtain ⟨c, inNode, matched⟩ := List.mem_flatMap.mp listed
    refine ⟨c, inNode, ?_⟩
    rw [RepairPolicyMatcher.matchCondition] at matched
    dsimp only at matched
    split at matched
    · cases matched
    · split at matched
      · obtain rfl := List.mem_singleton.mp matched
        rfl
      · obtain ⟨policy, -, rfl⟩ := List.mem_map.mp matched
        rfl
  intro m member other member' sameType
  obtain ⟨c, inNode, known⟩ := source m member
  obtain ⟨c', inNode', known'⟩ := source other member'
  rw [known, known'] at sameType ⊢
  rw [List.inj_on_of_nodup_map distinct inNode inNode' sameType]

/-- Every condition that is not known to be harmless is replaced for, after ten minutes. -/
def replacingMatcher : RepairPolicyMatcher where
  groups := Map.ofList [(("Ready", "False"), []), (("DiskHealthy", "False"), [])]
  fallbackPolicy := { tolerationDuration := 600000000000, priority := 1, action := .replaceNode }
  ranks := Map.ofList [(1, 0)]

def notReady : NodeCondition := ⟨⟨"Ready", "False", "KubeletDown"⟩, 0⟩

def brokenDisk : NodeCondition := ⟨⟨"DiskHealthy", "False", "ReadOnly"⟩, 0⟩

/-- Of two conditions of the same age the one of the smaller type governs, in either order. -/
theorem resolve_match_perm_two :
    (resolve (replacingMatcher.match_ 0 [notReady, brokenDisk]) 900000000000 0).condition = "DiskHealthy" ∧
      SameDecision (resolve (replacingMatcher.match_ 0 [notReady, brokenDisk]) 900000000000 0)
        (resolve (replacingMatcher.match_ 0 [brokenDisk, notReady]) 900000000000 0) :=
  ⟨by decide +kernel, (resolve_match_perm replacingMatcher 0 [notReady, brokenDisk] [brokenDisk, notReady] (by decide)
    (.swap _ _ _) 900000000000 0).2⟩

end Karpenter.Repair
