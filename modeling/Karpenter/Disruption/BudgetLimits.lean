import Karpenter.Disruption.Methods

/-! Commands keep to the budgets, both to those they were computed with and to those they were validated with. At either
time a node is counted for the NodePool that it is listed with. -/
namespace Karpenter.Disruption

open Go (Map)

section Taking

variable {candidates : List Candidate}

theorem takeWithin_sublist (eligible : Candidate → Bool) (budgets : Map String Int) (candidates : List Candidate) :
    (takeWithin eligible budgets candidates).Sublist candidates := by
  induction candidates generalizing budgets with
  | nil => exact .slnil
  | cons c rest ih =>
    rw [takeWithin]
    split
    · exact (ih budgets).cons c
    · split
      · exact (ih budgets).cons c
      · exact (ih _).cons_cons c

/-- The candidates of a NodePool. -/
def candidatesIn (nodePool : String) (candidates : List Candidate) : Int :=
  candidates.countP fun c => decide (c.nodePool = nodePool)

theorem candidatesIn_cons (nodePool : String) (c : Candidate) (candidates : List Candidate) :
    candidatesIn nodePool (c :: candidates) = candidatesIn nodePool candidates + if c.nodePool = nodePool then 1 else 0 := by
  rw [candidatesIn, List.countP_cons, candidatesIn]
  by_cases same : c.nodePool = nodePool <;> simp [same]

/-- Counting down, no NodePool is taken more from than its budget. -/
theorem candidatesIn_takeWithin (nonneg : ∀ nodePool, 0 ≤ count budgets nodePool) (nodePool : String) :
    candidatesIn nodePool (takeWithin eligible budgets candidates) ≤ count budgets nodePool := by
  induction candidates generalizing budgets with
  | nil => exact nonneg nodePool
  | cons c rest ih =>
    rw [takeWithin]
    split
    · exact ih nonneg
    · split
      · exact ih nonneg
      · rename_i left
        have counted : ∀ name, count (decrement budgets c.nodePool) name =
            count budgets name - if c.nodePool = name then 1 else 0 := by
          intro name
          rw [decrement, count_insert]
          by_cases same : name = c.nodePool
          · subst same
            simp
          · simp [same, Ne.symm same]
        have still : ∀ name, 0 ≤ count (decrement budgets c.nodePool) name := by
          intro name
          rw [counted]
          have before := nonneg name
          split
          · rename_i same
            subst same
            omega
          · omega
        have later := ih still
        rw [counted] at later
        rw [candidatesIn_cons]
        omega

/-- The validator that wants all candidates accepts them if they would all be taken. -/
theorem takeWithin_of_allWithin (all : allWithin nominated budgets candidates = true) :
    takeWithin (fun c => !nominated c.providerID) budgets candidates = candidates := by
  induction candidates generalizing budgets with
  | nil => rfl
  | cons c rest ih =>
    rw [allWithin] at all
    split at all
    · cases all
    · rename_i free
      split at all
      · cases all
      · rename_i left
        rw [takeWithin, if_neg (by simpa using free), if_neg left, ih all]

end Taking

section Commands

variable {env : Environment} {cmd : Command} {candidates : List Candidate}

/-- A command is for all candidates that it was computed for, or there is none. -/
def ForAll (candidates : List Candidate) (cmd : Command) : Prop := cmd.candidates = candidates ∨ cmd.candidates = []

variable (registry : CloudProvider.Registry)

theorem forAll_replacement (spotToSpotEnabled : Bool) (candidates : List Candidate) (n : Provisioning.NodeClaim) :
    ForAll candidates (computeReplacement registry spotToSpotEnabled candidates n) := by
  have none_ : ForAll candidates {} := .inr rfl
  have replaced : ∀ n, ForAll candidates (replaceBy candidates n) := fun _ => .inl rfl
  rw [computeReplacement]
  split
  · rw [computeSpotToSpotConsolidation]
    dsimp only
    split
    · exact none_
    · split
      · exact none_
      · split
        · exact none_
        · split
          · exact replaced _
          · split
            · exact none_
            · exact replaced _
  · split
    · exact none_
    · split
      · exact none_
      · exact replaced _

theorem forAll_computeConsolidation (spotToSpotEnabled : Bool) (candidates : List Candidate)
    (results : Provisioning.Results) :
    ForAll candidates (computeConsolidation registry spotToSpotEnabled candidates results) := by
  rw [computeConsolidation]
  split
  · exact .inr rfl
  · split
    · exact .inl rfl
    · exact forAll_replacement _ _ _ _
    · exact .inr rfl

theorem forAll_computed (computed : env.computed candidates = .ok cmd) : ForAll candidates cmd := by
  rw [Environment.computed] at computed
  split at computed
  · obtain rfl := Except.ok.inj computed
    exact forAll_computeConsolidation _ _ _ _
  · obtain rfl := Except.ok.inj computed
    exact .inr rfl
  · cases computed
  · cases computed

theorem candidates_sensible (sensible : env.sensible cmd batch = some kept) : kept.candidates = cmd.candidates := by
  rw [Environment.sensible] at sensible
  split at sensible
  · obtain rfl := Option.some.inj sensible
    rfl
  · split at sensible
    · cases sensible
    · obtain ⟨cheaper, -, rest⟩ := Option.bind_eq_some_iff.mp sensible
      split at rest
      · cases rest
      · obtain rfl := Option.some.inj rest
        rfl
  · cases sensible

theorem candidates_search {min max : Nat} (batch : saved.candidates.Sublist candidates)
    (found : env.search candidates min max saved = .ok cmd) : cmd.candidates.Sublist candidates := by
  fun_induction env.search candidates min max saved with
  | case1 min max saved inRange mid computed =>
    obtain rfl := Except.ok.inj found
    exact batch
  | case2 => cases found
  | case3 min max saved inRange mid batch' next computed kept sensible ih =>
    refine ih ?_ found
    obtain ⟨isSensible, -⟩ := Option.filter_eq_some_iff.mp sensible
    rw [candidates_sensible isSensible]
    rcases forAll_computed computed with all | none_
    · rw [all]
      exact List.take_sublist _ _
    · rw [none_]
      exact List.nil_sublist _
  | case4 =>
    obtain rfl := Except.ok.inj found
    exact batch
  | case5 min max saved inRange mid batch' next computed sensible positive ih => exact ih batch found
  | case6 =>
    obtain rfl := Except.ok.inj found
    exact batch

theorem candidates_firstN {max : Nat} (found : env.firstNConsolidationOption candidates max = .ok cmd) :
    cmd.candidates.Sublist candidates := by
  rw [Environment.firstNConsolidationOption] at found
  split at found
  · obtain rfl := Except.ok.inj found
    exact List.nil_sublist _
  · exact candidates_search (List.nil_sublist _) found

end Commands

section Within

/-- The nodes of a NodePool, as they are listed, that a command disrupts. -/
def disrupted (cmd : Command) (listing : Listing) (nodePool : String) : Int :=
  candidatesIn nodePool (mapCandidates cmd.candidates listing.candidates)

/-- The command disrupts listed nodes, each once and of no NodePool more than allowed. -/
structure Within (cmd : Command) (listing : Listing) (allowed : String → Int) : Prop where
  distinct : (cmd.candidates.map Candidate.name).Nodup
  listed : ∀ c ∈ cmd.candidates, c.name ∈ listing.candidates.map Candidate.name
  bounded : ∀ nodePool, disrupted cmd listing nodePool ≤ allowed nodePool

variable {cmd : Command} {listing : Listing}

theorem mem_mapCandidates : c ∈ mapCandidates proposed current ↔ c ∈ current ∧ c.name ∈ proposed.map Candidate.name := by
  rw [mapCandidates, List.mem_filter, List.contains_iff_mem]

theorem Listing.nodup (listing : Listing) : listing.candidates.Nodup := listing.distinct.of_map

theorem Listing.eq_of_name (first : c ∈ listing.candidates) (second : c' ∈ listing.candidates)
    (same : c.name = c'.name) : c = c' :=
  List.inj_on_of_nodup_map listing.distinct first second same

theorem candidatesIn_le_of_subset (distinct : taken.Nodup) (subset : taken ⊆ more) (nodePool : String) :
    candidatesIn nodePool taken ≤ candidatesIn nodePool more := by
  have fewer := (distinct.subperm subset).countP_le fun c => decide (c.nodePool = nodePool)
  rw [candidatesIn, candidatesIn]
  omega

/-- A command is within what candidates of the listing were taken within, if it has no others. -/
theorem within_of_taken (distinct : (cmd.candidates.map Candidate.name).Nodup) (taken : List Candidate)
    (ofListing : taken ⊆ listing.candidates)
    (ofTaken : ∀ c ∈ cmd.candidates, c.name ∈ taken.map Candidate.name)
    (bounded : ∀ nodePool, candidatesIn nodePool taken ≤ allowed nodePool) : Within cmd listing allowed where
  distinct := distinct
  listed c member := List.map_subset _ ofListing (ofTaken c member)
  bounded nodePool := by
    refine le_trans (candidatesIn_le_of_subset (listing.nodup.filter _) (fun c member => ?_) nodePool) (bounded nodePool)
    obtain ⟨inListing, named⟩ := mem_mapCandidates.mp member
    obtain ⟨proposed, inCommand, sameName⟩ := List.mem_map.mp named
    obtain ⟨c', inTaken, sameName'⟩ := List.mem_map.mp (ofTaken proposed inCommand)
    rwa [← listing.eq_of_name (ofListing inTaken) inListing (sameName'.trans sameName)]

end Within

theorem forall_mem_of_ok_nil {P : Command → Prop} (returned : (.ok [] : Except ε (List Command)) = .ok commands) :
    ∀ cmd ∈ commands, P cmd :=
  Except.ok.inj returned ▸ fun _ member => absurd member List.not_mem_nil

section Validated

variable {round : Round} {candidates validated : List Candidate}

/-- What a round of validation has seen to. -/
def Checked (reason : DisruptionReason) (round : Round) (cmd : Command) : Prop :=
  ∃ listing nodePools, round.candidates = some listing ∧ round.nodePools = some nodePools ∧
    Within cmd listing (allowance round.clock round.nodes nodePools reason)

theorem Checked.distinct (checked : Checked reason round cmd) : (cmd.candidates.map Candidate.name).Nodup := by
  obtain ⟨listing, nodePools, -, -, within⟩ := checked
  exact within.distinct

theorem budgets_nonneg (clock : BudgetClock) (nodes : List BudgetNode) (nodePools : List BudgetedNodePool)
    (reason : DisruptionReason) (nodePool : String) :
    0 ≤ count (buildDisruptionBudgetMapping clock nodes nodePools reason) nodePool := by
  rw [count_buildDisruptionBudgetMapping]
  exact allowance_nonneg _ _ _ _ _

theorem candidatesIn_taken (eligible : Candidate → Bool) (clock : BudgetClock) (nodes : List BudgetNode)
    (nodePools : List BudgetedNodePool) (reason : DisruptionReason) (candidates : List Candidate) (nodePool : String) :
    candidatesIn nodePool
        (takeWithin eligible (buildDisruptionBudgetMapping clock nodes nodePools reason) candidates) ≤
      allowance clock nodes nodePools reason nodePool := by
  rw [← count_buildDisruptionBudgetMapping]
  exact candidatesIn_takeWithin (budgets_nonneg clock nodes nodePools reason) nodePool

theorem checked_empty (ok : validateEmptyCandidates round candidates = .ok valid) :
    Checked .empty round { candidates := valid } ∧ ∀ c ∈ valid, c.name ∈ candidates.map Candidate.name := by
  rw [validateEmptyCandidates] at ok
  split at ok
  · cases ok
  · rename_i listing isListed
    dsimp only at ok
    split at ok
    · cases ok
    · split at ok
      · cases ok
      · rename_i budgets built
        obtain ⟨nodePools, arePools, rfl⟩ := Option.map_eq_some_iff.mp built
        split at ok
        · cases ok
        · obtain rfl := Except.ok.inj ok
          have sublist := (takeWithin_sublist (fun c => !round.nominated c.providerID)
            (buildDisruptionBudgetMapping round.clock round.nodes nodePools .empty)
            (mapCandidates candidates listing.candidates))
          refine ⟨⟨listing, nodePools, isListed, arePools, within_of_taken ?_ _ ?_ (fun c => List.mem_map_of_mem) ?_⟩,
            fun c member => ?_⟩
          · exact listing.distinct.sublist ((sublist.trans List.filter_sublist).map Candidate.name)
          · exact fun c member => (mem_mapCandidates.mp (sublist.subset member)).1
          · exact candidatesIn_taken _ _ _ _ _ _
          · exact (mem_mapCandidates.mp (sublist.subset member)).2

/-- A validator that wants all candidates has found all of them in the listing. -/
theorem checked_all (ok : validateCandidates round candidates = .ok validated) :
    (∀ name, name ∈ validated.map Candidate.name ↔ name ∈ candidates.map Candidate.name) ∧
      (candidates.map Candidate.name).Nodup ∧ ∀ cmd : Command, (cmd.candidates.map Candidate.name).Nodup → (∀ name, name ∈ cmd.candidates.map Candidate.name ↔ name ∈ candidates.map Candidate.name) →
        Checked .underutilized round cmd := by
  rw [validateCandidates] at ok
  split at ok
  · cases ok
  · rename_i listing isListed
    dsimp only at ok
    split at ok
    · cases ok
    · rename_i sameLength
      rw [ne_eq, not_not] at sameLength
      split at ok
      · cases ok
      · rename_i budgets built
        obtain ⟨nodePools, arePools, rfl⟩ := Option.map_eq_some_iff.mp built
        split at ok
        · rename_i all
          obtain rfl := Except.ok.inj ok
          -- The names are distinct and as many as were proposed.
          have distinct : ((mapCandidates candidates listing.candidates).map Candidate.name).Nodup :=
            listing.distinct.sublist (List.filter_sublist.map Candidate.name)
          have names : ((mapCandidates candidates listing.candidates).map Candidate.name).Perm
              (candidates.map Candidate.name) := by
            refine (distinct.subperm fun name member => ?_).perm_of_length_le (by simp [sameLength])
            obtain ⟨c, mapped, rfl⟩ := List.mem_map.mp member
            exact (mem_mapCandidates.mp mapped).2
          refine ⟨fun name => names.mem_iff, names.nodup distinct,
            fun cmd once sameNames => ⟨listing, nodePools, isListed, arePools, ?_⟩⟩
          refine within_of_taken once (mapCandidates candidates listing.candidates)
            (fun c member => (mem_mapCandidates.mp member).1) ?_ fun nodePool => ?_
          · intro c member
            rw [names.mem_iff, ← sameNames]
            exact List.mem_map_of_mem member
          · rw [← takeWithin_of_allWithin all]
            exact candidatesIn_taken _ _ _ _ _ _ _
        · cases ok

variable {env : Environment} {cmd : Command}

theorem checked_validated (ok : env.validated cmd = .ok commands) :
    ∀ cmd' ∈ commands, cmd' = cmd ∧ Checked .underutilized env.first cmd ∧ Checked .underutilized env.second cmd := by
  rw [Environment.validated] at ok
  split at ok
  · rename_i valid
    obtain rfl := Except.ok.inj ok
    intro cmd' member
    obtain rfl := List.mem_singleton.mp member
    rw [Environment.isValid] at valid
    split at valid
    · cases valid
    · rename_i validated first
      split at valid
      · cases valid
      · obtain ⟨sameNames, distinct, checked⟩ := checked_all first
        cases second : validateCandidates env.second validated with
        | error failure =>
          rw [second] at valid
          cases valid
        | ok again =>
          refine ⟨rfl, checked cmd' distinct fun _ => Iff.rfl, ?_⟩
          exact (checked_all second).2.2 cmd' distinct fun name => (sameNames name).symm
  · exact forall_mem_of_ok_nil ok
  · cases ok

end Validated

section Methods

variable {env : Environment} {listing : Listing} {commands : List Command}

/-- The rounds of validation that a command of the method goes through. -/
def Method.rounds (method : Method) (env : Environment) : List Round :=
  match method with
  | .emptiness => [env.first]
  | .multiNodeConsolidation | .singleNodeConsolidation => [env.first, env.second]

variable (clock : BudgetClock) (nodes : List BudgetNode) (nodePools : List BudgetedNodePool)

theorem taken_subset (eligible : Candidate → Bool) (budgets : Map String Int) :
    takeWithin eligible budgets (env.sortCandidates listing.candidates) ⊆ listing.candidates := fun _ taken =>
  (env.sort_perm _).subset ((takeWithin_sublist eligible budgets _).subset taken)

theorem emptiness_within (computed : env.emptiness (buildDisruptionBudgetMapping clock nodes nodePools .empty)
    listing.candidates = .ok commands) :
    ∀ cmd ∈ commands, Within cmd listing (allowance clock nodes nodePools .empty) ∧ Checked .empty env.first cmd := by
  rw [Environment.emptiness] at computed
  split at computed
  · exact forall_mem_of_ok_nil computed
  · dsimp only at computed
    split at computed
    · exact forall_mem_of_ok_nil computed
    · split at computed
      · rename_i valid validated
        obtain rfl := Except.ok.inj computed
        intro cmd member
        obtain rfl := List.mem_singleton.mp member
        obtain ⟨checked, named⟩ := checked_empty validated
        exact ⟨within_of_taken checked.distinct _ (taken_subset _ _) named (candidatesIn_taken _ _ _ _ _ _), checked⟩
      · exact forall_mem_of_ok_nil computed
      · cases computed

theorem multiNode_within (computed : env.multiNodeConsolidation
    (buildDisruptionBudgetMapping clock nodes nodePools .underutilized) listing.candidates = .ok commands) :
    ∀ cmd ∈ commands, Within cmd listing (allowance clock nodes nodePools .underutilized) ∧
      Checked .underutilized env.first cmd ∧ Checked .underutilized env.second cmd := by
  rw [Environment.multiNodeConsolidation] at computed
  split at computed
  · exact forall_mem_of_ok_nil computed
  · dsimp only at computed
    split at computed
    · cases computed
    · rename_i cmd found
      split at computed
      · exact forall_mem_of_ok_nil computed
      · intro cmd' member
        obtain ⟨rfl, checked⟩ := checked_validated computed cmd' member
        refine ⟨within_of_taken checked.1.distinct _ (taken_subset _ _) (fun c inCommand => ?_) (candidatesIn_taken
          (fun _ => true) clock nodes nodePools .underutilized (env.sortCandidates listing.candidates)), checked⟩
        exact List.mem_map_of_mem ((candidates_firstN found).subset inCommand)

theorem mem_shuffleCandidates (member : c ∈ env.shuffleCandidates candidates) : c ∈ candidates := by
  obtain ⟨i, -, inRound⟩ := List.mem_flatMap.mp member
  obtain ⟨nodePool, -, at_⟩ := List.mem_filterMap.mp inRound
  exact List.mem_of_mem_filter (List.mem_of_getElem? at_)

theorem candidatesIn_singleton_le (nonneg : ∀ nodePool, 0 ≤ count budgets nodePool)
    (left : count budgets c.nodePool ≠ 0) (nodePool : String) : candidatesIn nodePool [c] ≤ count budgets nodePool := by
  have before := nonneg nodePool
  rw [candidatesIn_cons]
  split
  · rename_i same
    subst same
    simp only [candidatesIn, List.countP_nil]
    omega
  · simpa [candidatesIn] using before

theorem singleNodeLoop_within {candidates : List Candidate} (ofListing : candidates ⊆ listing.candidates) {i : Nat}
    (computed : env.singleNodeLoop (buildDisruptionBudgetMapping clock nodes nodePools .underutilized) i candidates =
      .ok commands) : ∀ cmd ∈ commands, Within cmd listing (allowance clock nodes nodePools .underutilized) ∧
      Checked .underutilized env.first cmd ∧ Checked .underutilized env.second cmd := by
  induction candidates generalizing i with
  | nil =>
    exact forall_mem_of_ok_nil computed
  | cons c rest ih =>
    obtain ⟨inListing, ofListing⟩ := List.cons_subset.mp ofListing
    rw [Environment.singleNodeLoop] at computed
    split at computed
    · exact forall_mem_of_ok_nil computed
    · split at computed
      · exact ih ofListing computed
      · rename_i left
        split at computed
        · exact ih ofListing computed
        · split at computed
          · exact ih ofListing computed
          · rename_i cmd found
            split at computed
            · exact ih ofListing computed
            · intro cmd' member
              obtain ⟨rfl, checked⟩ := checked_validated computed cmd' member
              refine ⟨within_of_taken checked.1.distinct [c] ?_ (fun c' inCommand => ?_) fun nodePool => ?_, checked⟩
              · exact List.cons_subset.mpr ⟨inListing, List.nil_subset _⟩
              · rcases forAll_computed found with all | none_
                · exact List.mem_map_of_mem (all ▸ inCommand)
                · rw [none_] at inCommand
                  exact absurd inCommand List.not_mem_nil
              · rw [← count_buildDisruptionBudgetMapping]
                exact candidatesIn_singleton_le (budgets_nonneg clock nodes nodePools .underutilized) left nodePool

end Methods

/-- Every command that a method returns is within the budgets it was computed with, and within those of every round of
its validation. -/
theorem commands_within_budgets (method : Method) (env : Environment) (clock : BudgetClock) (nodes : List BudgetNode)
    (nodePools : List BudgetedNodePool) (listing : Listing) (commands : List Command)
    (computed : method.computeCommands env (buildDisruptionBudgetMapping clock nodes nodePools method.reason)
      listing.candidates = .ok commands) (cmd : Command) (returned : cmd ∈ commands) :
    Within cmd listing (allowance clock nodes nodePools method.reason) ∧
      ∀ round ∈ method.rounds env, Checked method.reason round cmd := by
  cases method with
  | emptiness =>
    obtain ⟨within, checked⟩ := emptiness_within clock nodes nodePools computed cmd returned
    exact ⟨within, List.forall_mem_singleton.mpr checked⟩
  | multiNodeConsolidation =>
    obtain ⟨within, first, second⟩ := multiNode_within clock nodes nodePools computed cmd returned
    exact ⟨within, List.forall_mem_cons.mpr ⟨first, List.forall_mem_singleton.mpr second⟩⟩
  | singleNodeConsolidation =>
    rw [Method.computeCommands, Environment.singleNodeConsolidation] at computed
    split at computed
    · obtain rfl := Except.ok.inj computed
      exact absurd returned List.not_mem_nil
    · have ofListing : env.shuffleCandidates (env.sortCandidates listing.candidates) ⊆ listing.candidates :=
        fun c member => (env.sort_perm _).subset (mem_shuffleCandidates member)
      obtain ⟨within, first, second⟩ := singleNodeLoop_within clock nodes nodePools ofListing computed cmd returned
      exact ⟨within, List.forall_mem_cons.mpr ⟨first, List.forall_mem_singleton.mpr second⟩⟩

def emptyNode (name : String) : Candidate where
  name := name
  providerID := name
  nodePool := "default"
  capacityType := "on-demand"
  price := 1

def twoEmptyNodes : Listing where
  candidates := [emptyNode "a", emptyNode "b"]
  distinct := by decide

/-- One node of the NodePool at a time. -/
def oneAtATime : BudgetedNodePool where
  name := "default"
  budgets := [{ nodes := "1" }]

def plainClock : BudgetClock where
  now := 0
  parseStandard _ := none
  scaledValue _ _ := some 1

def twoReadyNodes : List BudgetNode := [{ nodePool := "default" }, { nodePool := "default" }]

def emptinessRound : Round where
  candidates := some twoEmptyNodes
  clock := plainClock
  nodes := twoReadyNodes
  nodePools := some [oneAtATime]
  nominated _ := false

def emptinessEnvironment : Environment where
  registry := ⟨∅, "", []⟩
  sortCandidates candidates := candidates
  sort_perm _ := .rfl
  simulate _ := .failed
  filterOutSameInstanceType _ _ := none
  approveCommand _ := false
  canPassThreshold _ := false
  timedOut _ := false
  sortedNodePools := []
  validateCommand _ _ := none
  first := emptinessRound
  second := emptinessRound

/-- Of two empty nodes, one is disrupted. -/
theorem commands_within_budgets_empty : ∃ cmd, cmd.candidates = [emptyNode "a"] ∧
    Method.emptiness.computeCommands emptinessEnvironment
      (buildDisruptionBudgetMapping plainClock twoReadyNodes [oneAtATime] .empty) twoEmptyNodes.candidates =
        .ok [cmd] ∧ Within cmd twoEmptyNodes (allowance plainClock twoReadyNodes [oneAtATime] .empty) := by
  have computed : Method.emptiness.computeCommands emptinessEnvironment
      (buildDisruptionBudgetMapping plainClock twoReadyNodes [oneAtATime] .empty) twoEmptyNodes.candidates =
        .ok [{ candidates := [emptyNode "a"] }] := by
    rfl
  exact ⟨_, rfl, computed, (commands_within_budgets .emptiness emptinessEnvironment plainClock twoReadyNodes [oneAtATime]
    twoEmptyNodes _ computed _ List.mem_cons_self).1⟩

end Karpenter.Disruption
