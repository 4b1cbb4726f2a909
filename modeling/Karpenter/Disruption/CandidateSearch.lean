import Karpenter.Disruption.BudgetLimits

/-! How consolidation goes through its candidates. Multi-node consolidation looks for the longest batch with a binary
search. Single-node consolidation takes the NodePools in turn, first those that it did not come to before. -/
namespace Karpenter.Disruption

open Go (Map RangeOrder)

section PrefixSearch

variable {env : Environment} {candidates : List Candidate}

/-- The command for the first candidates, if it makes sense and is approved. -/
def Environment.batchCommand (env : Environment) (candidates : List Candidate) (length : Nat) : Option Command :=
  match env.computed (candidates.take length) with
  | .ok cmd => (env.sensible cmd (candidates.take length)).filter env.approveCommand
  | .error _ => none

theorem candidates_batchCommand (valid : env.batchCommand candidates length = some cmd) :
    cmd.candidates = candidates.take length := by
  rw [Environment.batchCommand] at valid
  split at valid
  · rename_i computed_ computed
    obtain ⟨sensible, -⟩ := Option.filter_eq_some_iff.mp valid
    rw [candidates_sensible sensible]
    refine (forAll_computed computed).resolve_right fun none_ => ?_
    rw [Environment.sensible, Command.decision, none_] at sensible
    cases sensible
  · cases valid

/-- With every batch the shorter ones of at least two candidates can be consolidated. -/
def Environment.ClosedDownward (env : Environment) (candidates : List Candidate) : Prop :=
  ∀ shorter longer, 2 ≤ shorter → shorter ≤ longer → longer ≤ candidates.length →
    (env.batchCommand candidates longer).isSome → (env.batchCommand candidates shorter).isSome

/-- What the search knows between two batches: the command of the batch up to the lower bound, and that beyond the
upper bound there is none, if the batches are closed downward. -/
structure Searched (env : Environment) (candidates : List Candidate) (min max : Nat) (saved : Command) : Prop where
  positive : 1 ≤ min
  meets : min ≤ max + 1
  inRange : max < candidates.length
  found : min = 1 ∧ saved = {} ∨ 2 ≤ min ∧ env.batchCommand candidates min = some saved
  exceeded : env.ClosedDownward candidates →
    ∀ length, max + 1 < length → length ≤ candidates.length → env.batchCommand candidates length = none

namespace Searched

variable {min max : Nat} {saved : Command}

theorem accept (searched : Searched env candidates min max saved) (inRange : min ≤ max)
    (valid : env.batchCommand candidates ((min + max) / 2 + 1) = some cmd) :
    Searched env candidates ((min + max) / 2 + 1) max cmd where
  positive := by omega
  meets := by omega
  inRange := searched.inRange
  found := .inr ⟨by have := searched.positive; omega, valid⟩
  exceeded := searched.exceeded

theorem reject (searched : Searched env candidates min max saved) (inRange : min ≤ max)
    (invalid : env.batchCommand candidates ((min + max) / 2 + 1) = none) :
    Searched env candidates min ((min + max) / 2 - 1) saved where
  positive := searched.positive
  meets := by have := searched.positive; omega
  inRange := by have := searched.inRange; omega
  found := searched.found
  exceeded := by
    intro closed length longer within
    have := searched.positive
    -- a valid longer batch would make the rejected one valid
    by_contra useful
    have shorter := closed ((min + max) / 2 + 1) length (by omega) (by omega) within (Option.isSome_iff_ne_none.mpr useful)
    rw [invalid] at shorter
    cases shorter

end Searched

theorem searched_search (answers : ∀ length, ∃ cmd, env.computed (candidates.take length) = .ok cmd) {min max : Nat}
    (searched : Searched env candidates min max saved) :
    ∃ last cmd, env.search candidates min max saved = .ok cmd ∧ Searched env candidates (last + 1) last cmd := by
  have command {length : Nat} {cmd : Command} (computed : env.computed (candidates.take length) = .ok cmd) :
      env.batchCommand candidates length = (env.sensible cmd (candidates.take length)).filter env.approveCommand := by
    rw [Environment.batchCommand, computed]
  fun_induction env.search candidates min max saved with
  | case1 min max saved inRange mid batch computed =>
    obtain ⟨cmd, answered⟩ := answers (mid + 1)
    cases computed.symm.trans answered
  | case2 min max saved inRange mid batch computed =>
    obtain ⟨cmd, answered⟩ := answers (mid + 1)
    cases computed.symm.trans answered
  | case3 min max saved inRange mid batch next computed kept valid ih =>
    exact ih (searched.accept inRange ((command computed).trans valid))
  | case4 min max saved inRange mid batch next computed invalid zero =>
    have := searched.positive
    omega
  | case5 min max saved inRange mid batch next computed invalid positive ih =>
    exact ih (searched.reject inRange ((command computed).trans invalid))
  | case6 min max saved outOfRange =>
    obtain rfl : min = max + 1 := by
      have := searched.meets
      omega
    exact ⟨max, saved, rfl, searched⟩

/-- Without timeouts and errors the search returns nothing or the command of a batch of at least two candidates. It is
the longest one if the batches are closed downward. -/
theorem firstNConsolidationOption_longest (env : Environment) (candidates : List Candidate) (max : Nat)
    (bound : candidates.length ≤ max) (answers : ∀ length, ∃ cmd, env.computed (candidates.take length) = .ok cmd) :
    ∃ cmd, env.firstNConsolidationOption candidates max = .ok cmd ∧
      ((cmd = {} ∨ ∃ length, 2 ≤ length ∧ length ≤ candidates.length ∧
          env.batchCommand candidates length = some cmd ∧ cmd.candidates = candidates.take length) ∧
        (env.ClosedDownward candidates →
          (cmd = {} ∧ ∀ length, 2 ≤ length → length ≤ candidates.length →
              env.batchCommand candidates length = none) ∨
            ∃ length, 2 ≤ length ∧ length ≤ candidates.length ∧ env.batchCommand candidates length = some cmd ∧
              ∀ longer, length < longer → longer ≤ candidates.length → env.batchCommand candidates longer = none)) := by
  rw [Environment.firstNConsolidationOption]
  split
  · rename_i few
    exact ⟨{}, rfl, .inl rfl, fun _ => .inl ⟨rfl, fun length _ _ => by omega⟩⟩
  · rename_i several
    have start : Searched env candidates 1 (candidates.length - 1) {} :=
      ⟨le_rfl, by omega, by omega, .inl ⟨rfl, rfl⟩, fun _ length _ _ => by omega⟩
    obtain ⟨last, cmd, returned, searched⟩ := searched_search answers start
    refine ⟨cmd, returned, ?_⟩
    have within := searched.inRange
    rcases searched.found with ⟨none_, rfl⟩ | ⟨two, valid⟩
    · refine ⟨.inl rfl, fun closed => .inl ⟨rfl, fun length long => searched.exceeded closed length (by omega)⟩⟩
    · refine ⟨.inr ⟨last + 1, two, within, valid, candidates_batchCommand valid⟩, fun closed => .inr ?_⟩
      exact ⟨last + 1, two, within, valid, searched.exceeded closed⟩

/-- An environment in which every pod fits on the nodes that remain. -/
def roomyEnvironment : Environment :=
  { emptinessEnvironment with simulate := fun _ => .results ⟨[], []⟩, approveCommand := fun _ => true }

/-- Three empty nodes are consolidated at once. -/
theorem firstNConsolidationOption_longest_three : ∃ cmd,
    roomyEnvironment.firstNConsolidationOption [emptyNode "a", emptyNode "b", emptyNode "c"] 3 = .ok cmd ∧
      cmd.candidates = [emptyNode "a", emptyNode "b", emptyNode "c"] := by
  obtain ⟨cmd, returned, -, longest⟩ := firstNConsolidationOption_longest roomyEnvironment
    [emptyNode "a", emptyNode "b", emptyNode "c"] 3 le_rfl fun length => ⟨_, rfl⟩
  have useful : roomyEnvironment.batchCommand [emptyNode "a", emptyNode "b", emptyNode "c"] 2 ≠ none ∧
      roomyEnvironment.batchCommand [emptyNode "a", emptyNode "b", emptyNode "c"] 3 ≠ none := ⟨nofun, nofun⟩
  rcases longest fun shorter longer two le within valid => by
      obtain rfl | rfl : shorter = 2 ∨ shorter = 3 := by have := le.trans within; simp at this; omega
      · exact Option.isSome_iff_ne_none.mpr useful.1
      · exact Option.isSome_iff_ne_none.mpr useful.2 with ⟨-, none_⟩ | ⟨length, two, within, valid, last⟩
  · exact absurd (none_ 3 (by decide) le_rfl) useful.2
  · obtain rfl : length = 3 := by
      by_contra shorter
      exact useful.2 (last 3 (by simp at within; omega) le_rfl)
    exact ⟨cmd, returned, candidates_batchCommand valid⟩

end PrefixSearch

section Interleaving

/-- The orders in which the NodePools are listed. -/
structure NodePoolOrders where
  unseen : RangeOrder String
  keys : RangeOrder String
  values : RangeOrder String

/-- The candidates of a NodePool; none if it has no group. -/
def candidatesOf (nodePoolCandidates : Map String (List Candidate)) (nodePool : String) : List Candidate :=
  (nodePoolCandidates.lookup nodePool).getD []

/-- The NodePools that were not seen before the timeout, then the others. -/
def sortedNodePools (orders : NodePoolOrders) (previouslyUnseenNodePools : Finset String)
    (nodePoolCandidates : Map String (List Candidate)) : List String :=
  orders.unseen.visit previouslyUnseenNodePools ++
    (orders.keys.visit nodePoolCandidates.keys.toFinset).filter fun nodePool => nodePool ∉ previouslyUnseenNodePools

/-- The first of the longest groups. -/
def maxCandidatesPerNodePool (orders : NodePoolOrders) (nodePoolCandidates : Map String (List Candidate)) :
    List Candidate :=
  ((orders.values.visit nodePoolCandidates.keys.toFinset).map (candidatesOf nodePoolCandidates)).foldl
    (fun longest group => if longest.length < group.length then group else longest) []

/-- One candidate of every NodePool that has so many. -/
def round (nodePoolCandidates : Map String (List Candidate)) (nodePools : List String) (i : Nat) : List Candidate :=
  nodePools.filterMap fun nodePool => (candidatesOf nodePoolCandidates nodePool)[i]?

def shuffleCandidates (orders : NodePoolOrders) (previouslyUnseenNodePools : Finset String)
    (nodePoolCandidates : Map String (List Candidate)) : List Candidate :=
  (List.range (maxCandidatesPerNodePool orders nodePoolCandidates).length).flatMap
    (round nodePoolCandidates (sortedNodePools orders previouslyUnseenNodePools nodePoolCandidates))

variable {orders : NodePoolOrders} {previouslyUnseenNodePools : Finset String}
  {nodePoolCandidates : Map String (List Candidate)}

theorem length_le_foldl_longest (groups : List (List Candidate)) (longest group : List Candidate)
    (member : group = longest ∨ group ∈ groups) :
    group.length ≤ (groups.foldl (fun longest group => if longest.length < group.length then group else longest)
      longest).length := by
  induction groups generalizing longest group with
  | nil =>
    obtain rfl | impossible := member
    · exact le_rfl
    · cases impossible
  | cons first rest ih =>
    rw [List.foldl_cons]
    split
    · rename_i longer
      rcases member with rfl | member
      · exact longer.le.trans (ih first first (.inl rfl))
      · exact ih first group (List.mem_cons.mp member)
    · rename_i notLonger
      rcases member with rfl | member
      · exact ih group group (.inl rfl)
      · rcases List.mem_cons.mp member with rfl | member
        · exact (not_lt.mp notLonger).trans (ih longest longest (.inl rfl))
        · exact ih longest group (.inr member)

theorem candidatesOf_eq_nil (absent : nodePool ∉ nodePoolCandidates.keys) :
    candidatesOf nodePoolCandidates nodePool = [] := by
  rw [candidatesOf, AList.lookup_eq_none.mpr absent, Option.getD_none]

/-- There are as many rounds as candidates in any NodePool. -/
theorem length_le_maxCandidatesPerNodePool (nodePool : String) :
    (candidatesOf nodePoolCandidates nodePool).length ≤ (maxCandidatesPerNodePool orders nodePoolCandidates).length := by
  by_cases known : nodePool ∈ nodePoolCandidates.keys
  · refine length_le_foldl_longest _ _ _ (.inr (List.mem_map_of_mem ?_))
    rw [RangeOrder.mem_visit, List.mem_toFinset]
    exact known
  · rw [candidatesOf_eq_nil known]
    exact Nat.zero_le _

theorem mem_sortedNodePools (some_ : candidatesOf nodePoolCandidates nodePool ≠ []) :
    nodePool ∈ sortedNodePools orders previouslyUnseenNodePools nodePoolCandidates := by
  have known : nodePool ∈ nodePoolCandidates.keys := by
    by_contra absent
    exact some_ (candidatesOf_eq_nil absent)
  rw [sortedNodePools, List.mem_append, RangeOrder.mem_visit, List.mem_filter, RangeOrder.mem_visit, List.mem_toFinset,
    decide_eq_true_eq]
  tauto

theorem nodup_sortedNodePools : (sortedNodePools orders previouslyUnseenNodePools nodePoolCandidates).Nodup := by
  refine (orders.unseen.nodup_visit _).append ((orders.keys.nodup_visit _).filter _) fun nodePool unseen other => ?_
  exact of_decide_eq_true (List.mem_filter.mp other).2 ((orders.unseen.mem_visit _ _).mp unseen)

theorem flatMap_range_getElem? (group : List Candidate) (enough : group.length ≤ rounds) :
    ((List.range rounds).flatMap fun i => group[i]?.toList) = group := by
  induction group generalizing rounds with
  | nil => simp
  | cons first rest ih =>
    cases rounds with
    | zero => cases enough
    | succ rounds =>
      rw [List.range_succ_eq_map, List.flatMap_cons, List.flatMap_map]
      simpa using ih (Nat.le_of_succ_le_succ enough)

theorem perm_rounds (nodePools : List String)
    (enough : ∀ nodePool, (candidatesOf nodePoolCandidates nodePool).length ≤ rounds) :
    ((List.range rounds).flatMap (round nodePoolCandidates nodePools)).Perm
      (nodePools.flatMap (candidatesOf nodePoolCandidates)) := by
  induction nodePools with
  | nil => simp [round]
  | cons first rest ih =>
    have each (i : Nat) : round nodePoolCandidates (first :: rest) i =
        (candidatesOf nodePoolCandidates first)[i]?.toList ++ round nodePoolCandidates rest i := by
      rw [round, List.filterMap_cons]
      cases (candidatesOf nodePoolCandidates first)[i]? <;> rfl
    rw [funext each, List.flatMap_cons]
    refine (List.flatMap_append_perm _ _ _).symm.trans ?_
    rw [flatMap_range_getElem? _ (enough first)]
    exact ih.append_left _

/-- The groups in the order of the map hold the same candidates as those of the sorted NodePools: the lists differ by
NodePools without candidates. -/
theorem perm_sortedNodePools : ((sortedNodePools orders previouslyUnseenNodePools nodePoolCandidates).flatMap
      (candidatesOf nodePoolCandidates)).Perm (nodePoolCandidates.entries.flatMap (·.2)) := by
  have nonempty (nodePools : List String) : nodePools.flatMap (candidatesOf nodePoolCandidates) =
      (nodePools.filter fun nodePool => candidatesOf nodePoolCandidates nodePool ≠ []).flatMap
        (candidatesOf nodePoolCandidates) := by
    induction nodePools with
    | nil => rfl
    | cons first rest ih =>
      rw [List.flatMap_cons, List.filter_cons, ih]
      by_cases none_ : candidatesOf nodePoolCandidates first = [] <;> simp [none_]
  have entries : nodePoolCandidates.entries.flatMap (·.2) =
      nodePoolCandidates.keys.flatMap (candidatesOf nodePoolCandidates) := by
    rw [AList.keys, List.keys, List.flatMap_map]
    refine List.flatMap_congr fun entry stored => ?_
    rw [candidatesOf, Map.mem_entries_iff.mp stored, Option.getD_some]
  rw [entries, nonempty, nonempty nodePoolCandidates.keys]
  refine List.Perm.flatMap_right _ ((List.perm_ext_iff_of_nodup (nodup_sortedNodePools.filter _)
    (nodePoolCandidates.keys_nodup.filter _)).mpr fun nodePool => ?_)
  rw [List.mem_filter, List.mem_filter, decide_eq_true_eq]
  refine and_congr_left fun some_ => iff_of_true (mem_sortedNodePools some_) ?_
  by_contra absent
  exact some_ (candidatesOf_eq_nil absent)

/-- The candidates by NodePool, in their order. -/
def groupByNodePool (candidates : List Candidate) : Map String (List Candidate) :=
  candidates.foldl (fun groups c => groups.insert c.nodePool (candidatesOf groups c.nodePool ++ [c])) ∅

theorem candidatesOf_groupByNodePool (candidates : List Candidate) (nodePool : String) :
    candidatesOf (groupByNodePool candidates) nodePool = candidates.filter fun c => c.nodePool = nodePool := by
  induction candidates using List.reverseRecOn with
  | nil => rfl
  | append_singleton before c ih =>
    rw [groupByNodePool, List.foldl_append, ← groupByNodePool, List.foldl_cons, List.foldl_nil, candidatesOf,
      Map.lookup_insert_eq, List.filter_append]
    by_cases same : nodePool = c.nodePool
    · subst same
      rw [if_pos rfl, Option.getD_some, ih, List.filter_singleton, decide_eq_true rfl, cond_true]
    · rw [if_neg same, ← candidatesOf, ih, List.filter_singleton, decide_eq_false (Ne.symm same), cond_false,
        List.append_nil]

/-- Rounds after the last candidate add nothing. -/
theorem rounds_eq (enough : ∀ nodePool, (candidatesOf nodePoolCandidates nodePool).length ≤ few) (le : few ≤ many) :
    (List.range many).flatMap (round nodePoolCandidates nodePools) =
      (List.range few).flatMap (round nodePoolCandidates nodePools) := by
  obtain ⟨more, rfl⟩ := Nat.exists_eq_add_of_le le
  rw [List.range_add, List.flatMap_append, List.flatMap_map]
  refine List.append_right_eq_self.mpr (List.flatMap_eq_nil_iff.mpr fun k _ => List.filterMap_eq_nil_iff.mpr ?_)
  intro nodePool _
  exact List.getElem?_eq_none ((enough nodePool).trans (Nat.le_add_right _ _))

/-- The method goes through the candidates in this order, grouped by NodePool. -/
theorem Environment.shuffleCandidates_eq (env : Environment) (candidates : List Candidate)
    (listed : env.sortedNodePools = Disruption.sortedNodePools orders previouslyUnseenNodePools (groupByNodePool candidates)) :
    env.shuffleCandidates candidates =
      Disruption.shuffleCandidates orders previouslyUnseenNodePools (groupByNodePool candidates) := by
  have rounds (i : Nat) : round (groupByNodePool candidates) env.sortedNodePools i = env.sortedNodePools.filterMap
      fun nodePool => (candidates.filter fun c => decide (c.nodePool = nodePool))[i]? := by
    simp only [round, candidatesOf_groupByNodePool]
  have enough (nodePool : String) : (candidatesOf (groupByNodePool candidates) nodePool).length ≤
      (candidates.map fun c => (candidates.filter fun c' => decide (c'.nodePool = c.nodePool)).length).foldl max 0 := by
    rw [candidatesOf_groupByNodePool]
    cases group : candidates.filter fun c => decide (c.nodePool = nodePool) with
    | nil => exact Nat.zero_le _
    | cons c rest =>
      obtain ⟨member, same⟩ := List.mem_filter.mp (group ▸ List.mem_cons_self : c ∈ candidates.filter _)
      rw [← group, ← of_decide_eq_true same]
      exact ((Go.foldl_iff (P := (· ≤ _)) (Q := (· ≤ _)) (fun _ _ => max_le_iff) _ 0).mp le_rfl).2 _
        (List.mem_map_of_mem member)
  rw [Environment.shuffleCandidates, Disruption.shuffleCandidates, ← listed]
  rw [← funext rounds]
  exact (rounds_eq enough (le_max_left _ _)).symm.trans
    (rounds_eq length_le_maxCandidatesPerNodePool (le_max_right _ _))

theorem singleton_sublist_round (listed : nodePool ∈ nodePools)
    (at_ : (candidatesOf nodePoolCandidates nodePool)[i]? = some c) :
    [c].Sublist (round nodePoolCandidates nodePools i) :=
  List.singleton_sublist.mpr (List.mem_filterMap.mpr ⟨nodePool, listed, at_⟩)

theorem pair_sublist_round (before : [first, second].Sublist nodePools)
    (at_ : (candidatesOf nodePoolCandidates first)[i]? = some c)
    (at' : (candidatesOf nodePoolCandidates second)[i]? = some c') :
    [c, c'].Sublist (round nodePoolCandidates nodePools i) := by
  have kept := before.filterMap fun nodePool => (candidatesOf nodePoolCandidates nodePool)[i]?
  simp only [List.filterMap_cons, List.filterMap_nil, at_, at'] at kept
  exact kept

theorem pair_sublist_range (less : i < j) (inRange : j < rounds) : [i, j].Sublist (List.range rounds) := by
  have upTo : (List.range j ++ [j]).Sublist (List.range rounds) := by
    rw [← List.range_succ]
    exact List.range_sublist.mpr inRange
  exact ((List.singleton_sublist.mpr (List.mem_range.mpr less)).append (List.Sublist.refl [j])).trans upTo

/-- The candidates of the NodePools take turns: all of them occur, in their order within the NodePool, after those at
earlier positions of other NodePools, and after those at their own position of NodePools that were not seen before. -/
theorem shuffleCandidates_fair (orders : NodePoolOrders) (previouslyUnseenNodePools : Finset String)
    (nodePoolCandidates : Map String (List Candidate)) (distinct : (nodePoolCandidates.entries.flatMap (·.2)).Nodup) :
    (shuffleCandidates orders previouslyUnseenNodePools nodePoolCandidates).Nodup ∧
      (shuffleCandidates orders previouslyUnseenNodePools nodePoolCandidates).Perm
        (nodePoolCandidates.entries.flatMap (·.2)) ∧
      (∀ nodePool, (candidatesOf nodePoolCandidates nodePool).Sublist
        (shuffleCandidates orders previouslyUnseenNodePools nodePoolCandidates)) ∧
      (∀ nodePool other (k : Nat) (c c' : Candidate), (candidatesOf nodePoolCandidates nodePool)[k]? = some c →
        (candidatesOf nodePoolCandidates other)[k + 1]? = some c' →
        [c, c'].Sublist (shuffleCandidates orders previouslyUnseenNodePools nodePoolCandidates)) ∧
      ∀ unseen ∈ previouslyUnseenNodePools, ∀ seen ∉ previouslyUnseenNodePools, ∀ (k : Nat) (c c' : Candidate),
        (candidatesOf nodePoolCandidates unseen)[k]? = some c → (candidatesOf nodePoolCandidates seen)[k]? = some c' →
        [c, c'].Sublist (shuffleCandidates orders previouslyUnseenNodePools nodePoolCandidates) := by
  have enough := @length_le_maxCandidatesPerNodePool orders nodePoolCandidates
  have perm : (shuffleCandidates orders previouslyUnseenNodePools nodePoolCandidates).Perm
      (nodePoolCandidates.entries.flatMap (·.2)) := (perm_rounds _ enough).trans perm_sortedNodePools
  have listed {nodePool : String} {k : Nat} {c : Candidate}
      (at_ : (candidatesOf nodePoolCandidates nodePool)[k]? = some c) :
      nodePool ∈ sortedNodePools orders previouslyUnseenNodePools nodePoolCandidates := by
    refine mem_sortedNodePools fun none_ => ?_
    rw [none_] at at_
    cases at_
  have inRange {nodePool : String} {k : Nat} {c : Candidate}
      (at_ : (candidatesOf nodePoolCandidates nodePool)[k]? = some c) :
      k < (maxCandidatesPerNodePool orders nodePoolCandidates).length :=
    (List.getElem?_eq_some_iff.mp at_).1.trans_le (enough nodePool)
  refine ⟨perm.nodup_iff.mpr distinct, perm, ?_, ?_, ?_⟩
  · intro nodePool
    rw [← flatMap_range_getElem? (candidatesOf nodePoolCandidates nodePool) (enough nodePool)]
    refine List.Sublist.flatMap_right _ fun k _ => ?_
    cases at_ : (candidatesOf nodePoolCandidates nodePool)[k]? with
    | none => exact List.nil_sublist _
    | some c => exact singleton_sublist_round (listed at_) at_
  · intro nodePool other k c c' at_ at'
    have rounds := (pair_sublist_range (Nat.lt_succ_self k) (inRange at')).flatMap
      (round nodePoolCandidates (sortedNodePools orders previouslyUnseenNodePools nodePoolCandidates))
    rw [List.flatMap_cons, List.flatMap_singleton] at rounds
    exact ((singleton_sublist_round (listed at_) at_).append (singleton_sublist_round (listed at') at')).trans rounds
  · intro unseen inUnseen seen notUnseen k c c' at_ at'
    have before : [unseen, seen].Sublist
        (sortedNodePools orders previouslyUnseenNodePools nodePoolCandidates) := by
      refine (List.singleton_sublist.mpr ((orders.unseen.mem_visit _ _).mpr inUnseen)).append
        (List.singleton_sublist.mpr ?_)
      exact (List.mem_append.mp (listed at')).resolve_left fun visited =>
        notUnseen ((orders.unseen.mem_visit _ _).mp visited)
    have here := (List.singleton_sublist.mpr (List.mem_range.mpr (inRange at_))).flatMap
      (round nodePoolCandidates (sortedNodePools orders previouslyUnseenNodePools nodePoolCandidates))
    rw [List.flatMap_singleton] at here
    exact (pair_sublist_round before at_ at').trans here

/-- Two NodePools, of which the one with fewer nodes was not seen. -/
def twoNodePools : Map String (List Candidate) := Map.ofList [("a", [emptyNode "a1", emptyNode "a2"]), ("b", [emptyNode "b1"])]

theorem shuffleCandidates_fair_two : [emptyNode "b1", emptyNode "a1"].Sublist
      (shuffleCandidates ⟨.listed [], .listed [], .listed []⟩ {"b"} twoNodePools) :=
  (shuffleCandidates_fair ⟨.listed [], .listed [], .listed []⟩ {"b"} twoNodePools
    (List.Nodup.of_map Candidate.name (by decide +kernel))).2.2.2.2 "b"
    (by decide) "a" (by decide) 0 _ _ rfl rfl

end Interleaving

end Karpenter.Disruption
