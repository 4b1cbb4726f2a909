import Karpenter.Provisioning.ExistingNode
import Mathlib.Algebra.Order.Group.Unbundled.Basic
import Mathlib.Order.Bounds.Basic
import Mathlib.Tactic.Linarith

/-! What is set aside for daemons. A NodeClaim asks for the least overhead of its remaining groups, computed by a
fold that starts again whenever it has become empty. An existing node keeps room for the daemons that are still
to come, computed from two sums in which the daemons that run and those that are expected do not match up. -/
namespace Karpenter.Provisioning

open Go (Map)
open CloudProvider
open Resources (ResourceList Quantity Nonneg amount merge minQuantities minResources subtract)
open Scheduling

theorem lookup_minQuantities (dst src : ResourceList) (name : String) : (minQuantities dst src).lookup name =
    (dst.lookup name).bind fun q => (src.lookup name).map fun other => min other q := by
  rw [minQuantities, Map.lookup_filterMapValues]
  cases dst.lookup name with
  | none => rfl
  | some q =>
    cases src.lookup name with
    | none => rfl
    | some other => simp only [Option.bind_some, Option.map_some, min_def_lt]

theorem amount_minQuantities {dst src : ResourceList} (dstNonneg : Nonneg dst) (srcNonneg : Nonneg src) :
    amount (minQuantities dst src) name = min (amount dst name) (amount src name) := by
  have left := dstNonneg.amount name
  have right := srcNonneg.amount name
  unfold amount at *
  rw [lookup_minQuantities]
  revert left right
  cases dst.lookup name with
  | none => exact fun _ right => (min_eq_left right).symm
  | some q =>
    cases src.lookup name with
    | none => exact fun left _ => (min_eq_right left).symm
    | some other => exact fun _ _ => min_comm other q

/-- The fold over the overheads of the remaining groups. -/
def runningMinimum (overheads : List ResourceList) : ResourceList :=
  overheads.foldl (fun minimum overhead =>
    if minimum.entries.isEmpty then overhead else minResources [minimum, overhead]) ∅

theorem runningMinimum_concat (overheads : List ResourceList) (last : ResourceList) :
    runningMinimum (overheads ++ [last]) = if (runningMinimum overheads).entries.isEmpty then last
      else minQuantities (runningMinimum overheads) last := by
  rw [runningMinimum, List.foldl_append]
  rfl

theorem ne_nil_of_runningMinimum (filled : ¬ (runningMinimum overheads).entries.isEmpty = true) : overheads ≠ [] := by
  rintro rfl
  exact filled rfl

/-- Whatever the fold ends with, each of its entries, and each gap, is that of one of the overheads. -/
theorem exists_lookup_runningMinimum (given : overheads ≠ []) (name : String) :
    ∃ overhead ∈ overheads, overhead.lookup name = (runningMinimum overheads).lookup name := by
  induction overheads using List.reverseRecOn with
  | nil => exact absurd rfl given
  | append_singleton overheads last ih =>
    rw [runningMinimum_concat]
    split
    · exact ⟨last, by simp, rfl⟩
    · rename_i filled
      obtain ⟨before, member, same⟩ := ih (ne_nil_of_runningMinimum filled)
      have earlier : before ∈ overheads ++ [last] := List.mem_append_left _ member
      have latest : last ∈ overheads ++ [last] := by simp
      rw [lookup_minQuantities, ← same]
      cases found : before.lookup name with
      | none => exact ⟨before, earlier, found⟩
      | some q =>
        cases found' : last.lookup name with
        | none => exact ⟨last, latest, found'⟩
        | some other =>
          rcases min_choice other q with left | right
          · exact ⟨last, latest, by rw [found', Option.bind_some, Option.map_some, left]⟩
          · exact ⟨before, earlier, by rw [found, Option.bind_some, Option.map_some, right]⟩

theorem nonneg_runningMinimum (nonneg : ∀ overhead ∈ overheads, Nonneg overhead) :
    Nonneg (runningMinimum overheads) := by
  intro name q found
  cases overheads with
  | nil => cases found
  | cons first rest =>
    obtain ⟨overhead, member, same⟩ := exists_lookup_runningMinimum (List.cons_ne_nil first rest) name
    exact nonneg overhead member name q (same.trans found)

/-- The fold starts again after some of the overheads. -/
def Restarts (overheads : List ResourceList) : Prop :=
  ∃ before after, overheads = before ++ after ∧ before ≠ [] ∧ after ≠ [] ∧
    (runningMinimum before).entries.isEmpty = true

theorem runningMinimum_le (nonneg : ∀ overhead ∈ overheads, Nonneg overhead) (steady : ¬ Restarts overheads)
    (name : String) : ∀ overhead ∈ overheads, amount (runningMinimum overheads) name ≤ amount overhead name := by
  induction overheads using List.reverseRecOn with
  | nil => simp
  | append_singleton overheads last ih =>
    have nonnegBefore : ∀ overhead ∈ overheads, Nonneg overhead :=
      fun overhead member => nonneg overhead (List.mem_append_left _ member)
    have steadyBefore : ¬ Restarts overheads := by
      rintro ⟨before, after, rfl, started, -, empty⟩
      exact steady ⟨before, after ++ [last], by simp, started, by simp, empty⟩
    intro overhead member
    rw [runningMinimum_concat]
    split
    · rename_i empty
      have first : overheads = [] := by
        by_contra started
        exact steady ⟨overheads, [last], rfl, started, by simp, empty⟩
      subst first
      rw [List.nil_append, List.mem_singleton] at member
      rw [member]
    · rw [amount_minQuantities (nonneg_runningMinimum nonnegBefore) (nonneg last (by simp))]
      rcases List.mem_append.mp member with before | here
      · exact (min_le_left _ _).trans (ih nonnegBefore steadyBefore overhead before)
      · rw [List.mem_singleton.mp here]
        exact min_le_right _ _

/-- The fold is below every overhead unless it started again and then found something. -/
theorem runningMinimum_le_iff (nonneg : ∀ overhead ∈ overheads, Nonneg overhead) :
    (∀ name, ∀ overhead ∈ overheads, amount (runningMinimum overheads) name ≤ amount overhead name) ↔
      (Restarts overheads → ∀ name, amount (runningMinimum overheads) name = 0) := by
  constructor
  · rintro least ⟨before, after, rfl, started, -, empty⟩ name
    obtain ⟨overhead, member, same⟩ := exists_lookup_runningMinimum started name
    have nothing : amount overhead name = 0 := by
      rw [amount, same, Map.lookup_of_isEmpty empty, Option.getD_none]
    refine le_antisymm ?_ ((nonneg_runningMinimum nonneg).amount name)
    rw [← nothing]
    exact least name overhead (List.mem_append_left _ member)
  · intro harmless name overhead member
    by_cases restarts : Restarts overheads
    · rw [harmless restarts name]
      exact (nonneg overhead member).amount name
    · exact runningMinimum_le nonneg restarts name overhead member

namespace NodeClaim

/-- The overheads of the groups that still have an instance type among the options. -/
def remainingOverheads (n : NodeClaim) : List ResourceList :=
  (n.daemonOverheadGroups.filter fun group =>
    group.instanceTypes.any fun it => decide (it ∈ n.instanceTypeOptions)).map (·.daemonOverhead)

/-- What is added to the requests of the pods. -/
def daemonShare (n : NodeClaim) (name : String) : Quantity :=
  amount n.addDaemonRequests.requests name - amount n.requests name

/-- The share of the daemons is the least overhead of the remaining groups, so that it is within what the daemons of
any remaining instance type need. -/
structure AddsLeast (n : NodeClaim) : Prop where
  least : n.remainingOverheads ≠ [] →
    ∀ name, IsLeast {q | ∃ overhead ∈ n.remainingOverheads, amount overhead name = q} (n.daemonShare name)
  nothing : n.remainingOverheads = [] → ∀ name, n.daemonShare name = 0
  within : ∀ it ∈ n.instanceTypeOptions, ∀ group ∈ n.daemonOverheadGroups, it ∈ group.instanceTypes →
    ∀ name, amount n.addDaemonRequests.requests name ≤ amount n.requests name + amount group.daemonOverhead name

theorem minDaemonOverhead_eq (n : NodeClaim) : n.minDaemonOverhead = runningMinimum n.remainingOverheads := by
  rw [runningMinimum, remainingOverheads, List.foldl_map]
  rfl

theorem daemonShare_eq (n : NodeClaim) (name : String) :
    n.daemonShare name = amount (runningMinimum n.remainingOverheads) name := by
  rw [daemonShare, addDaemonRequests, ← minDaemonOverhead_eq]
  split
  · rename_i empty
    rw [sub_self, amount, Map.lookup_of_isEmpty empty, Option.getD_none]
  · simp [merge, Resources.amount_addQuantities]

/-- The least overhead is added exactly when the fold does not start again over the remaining groups, or ends with
nothing if it does. -/
theorem addsLeast_iff (n : NodeClaim) (nonneg : ∀ group ∈ n.daemonOverheadGroups, Nonneg group.daemonOverhead) :
    n.AddsLeast ↔ (Restarts n.remainingOverheads → ∀ name, amount (runningMinimum n.remainingOverheads) name = 0) := by
  have nonneg' : ∀ overhead ∈ n.remainingOverheads, Nonneg overhead := by
    intro overhead member
    obtain ⟨group, remains, rfl⟩ := List.mem_map.mp member
    exact nonneg group (List.mem_filter.mp remains).1
  rw [← runningMinimum_le_iff nonneg']
  constructor
  · intro adds name overhead member
    rw [← daemonShare_eq]
    exact (adds.least (List.ne_nil_of_mem member) name).2 ⟨overhead, member, rfl⟩
  · intro lower
    refine ⟨?_, ?_, ?_⟩
    · intro given name
      obtain ⟨overhead, member, same⟩ := exists_lookup_runningMinimum given name
      rw [daemonShare_eq]
      refine ⟨⟨overhead, member, by rw [amount, amount, same]⟩, ?_⟩
      rintro _ ⟨other, member', rfl⟩
      exact lower name other member'
    · intro none_ name
      rw [daemonShare_eq, none_]
      rfl
    · intro it option group member inGroup name
      have remains : group.daemonOverhead ∈ n.remainingOverheads := by
        refine List.mem_map.mpr ⟨group, List.mem_filter.mpr ⟨member, ?_⟩, rfl⟩
        exact List.any_eq_true.mpr ⟨it, inGroup, decide_eq_true option⟩
      have bound := lower name _ remains
      rw [← daemonShare_eq, daemonShare] at bound
      linarith

end NodeClaim

def plainType (name : String) : InstanceType where
  name := name
  requirements := Requirements.empty
  offerings := []
  capacity := ∅
  nonneg := fun _ _ found => by cases found

/-- Each instance type is in a group of its own. -/
def daemonNodeClaim (groups : List (String × ResourceList)) : NodeClaim where
  nodePoolName := "default"
  instanceTypeOptions := groups.map fun group => plainType group.1
  daemonOverheadGroups := groups.map fun group =>
    { instanceTypes := [plainType group.1], daemonOverhead := group.2 }
  hostname := "host"
  reservedOfferingMode := .fallback

theorem addsLeast_daemons_first : (daemonNodeClaim [("large", AList.insert "cpu" 2 ∅), ("small", ∅)]).AddsLeast := by
  refine (NodeClaim.addsLeast_iff _ ?_).mpr fun _ name => rfl
  intro group member
  simp only [daemonNodeClaim, List.map_cons, List.map_nil, List.mem_cons, List.not_mem_nil, or_false] at member
  rcases member with rfl | rfl
  · exact Resources.nonneg_two_cores
  · exact fun _ _ found => by cases found

/-- In the other order the two cores are asked for, although no daemon runs on the small type. -/
theorem daemons_of_large_requested : amount
      (daemonNodeClaim [("small", ∅), ("large", AList.insert "cpu" 2 ∅)]).addDaemonRequests.requests "cpu" = 2 ∧
    ¬ (daemonNodeClaim [("small", ∅), ("large", AList.insert "cpu" 2 ∅)]).AddsLeast := by
  have requested : amount
      (daemonNodeClaim [("small", ∅), ("large", AList.insert "cpu" 2 ∅)]).addDaemonRequests.requests "cpu" = 2 := by
    decide +kernel
  refine ⟨requested, fun adds => ?_⟩
  have within := adds.within (plainType "small") (by decide +kernel) { instanceTypes := [plainType "small"] }
    (by simp [daemonNodeClaim]) (by simp) "cpu"
  rw [requested] at within
  exact absurd within (by decide +kernel)

/-! Existing nodes -/

/-- A pod with the DaemonSet that owns it, if one does. -/
structure DaemonOrPod where
  daemonSet : Option String := none
  requests : ResourceList := ∅

def requestsForPods (pods : List DaemonOrPod) : ResourceList :=
  (merge (pods.map (·.requests))).insert "pods" pods.length

/-- The allocatable resources that the Node and the NodeClaim of a node report. -/
inductive Reported where
  | node (allocatable : ResourceList)
  | nodeClaim (allocatable : ResourceList)
  | both (initialized : Bool) (node nodeClaim : ResourceList)

/-- Before a node is initialized the NodeClaim stands in for what its Node reports as zero. -/
def Reported.allocatable : Reported → ResourceList
  | .node allocatable => allocatable
  | .nodeClaim allocatable => allocatable
  | .both true onNode _ => onNode
  | .both false onNode onNodeClaim =>
    onNode.mergeAll (fun reported q => if reported.getD 0 = 0 then q else reported.getD 0) onNodeClaim

def podRequests (running : List DaemonOrPod) : ResourceList :=
  (running.map fun pod => requestsForPods [pod]).foldl Resources.mergeInto ∅

def daemonSetRequests (running : List DaemonOrPod) : ResourceList :=
  merge ((running.filter (·.daemonSet.isSome)).map fun pod => requestsForPods [pod])

/-- The resources that remain for pods on a node with the daemons that are expected on it. -/
def remainingResources (reported : Reported) (running expected : List DaemonOrPod) : ResourceList :=
  (newExistingNode
    { name := "", available := subtract reported.allocatable (podRequests running)
      daemonSetRequests := daemonSetRequests running } [] (requestsForPods expected) none false).remainingResources

/-- What the pods request of one resource, all together. -/
def total (pods : List DaemonOrPod) (name : String) : Quantity :=
  (pods.map fun pod => amount (requestsForPods [pod]) name).sum

/-- A pod of the DaemonSet runs on the node. -/
def runs (running : List DaemonOrPod) (daemon : DaemonOrPod) : Bool :=
  running.any fun pod => pod.daemonSet.isSome && decide (pod.daemonSet = daemon.daemonSet)

/-- There is room left for the running pods and for the daemons that are expected and do not run. -/
def KeepsRoom (reported : Reported) (running expected : List DaemonOrPod) : Prop :=
  ∀ name, amount (remainingResources reported running expected) name ≤
    amount reported.allocatable name - total running name - total (expected.filter (!runs running ·)) name

theorem amount_foldl_add (lists : List ResourceList) (start : ResourceList) (name : String) :
    amount (lists.foldl Resources.addQuantities start) name = amount start name + (lists.map (amount · name)).sum := by
  induction lists generalizing start with
  | nil => simp
  | cons first rest ih =>
    rw [List.foldl_cons, ih, Resources.amount_addQuantities, List.map_cons, List.sum_cons, add_assoc]

theorem amount_requestsForPods (pods : List DaemonOrPod) (name : String) :
    amount (requestsForPods pods) name = total pods name := by
  by_cases same : name = "pods"
  · subst same
    simp [requestsForPods, total, amount]
  · have each (listed : List DaemonOrPod) : amount (requestsForPods listed) name =
        (listed.map fun pod => amount pod.requests name).sum := by
      rw [requestsForPods, amount, AList.lookup_insert_ne same]
      exact (amount_foldl_add _ ∅ name).trans (by simp [Function.comp_def])
    rw [each, total]
    simp only [each, List.map_cons, List.map_nil, List.sum_cons, List.sum_nil, add_zero]

theorem amount_merged (pods : List DaemonOrPod) (name : String) :
    amount ((pods.map fun pod => requestsForPods [pod]).foldl Resources.addQuantities ∅) name = total pods name := by
  rw [amount_foldl_add, total, List.map_map]
  exact zero_add _

theorem total_split (daemons : List DaemonOrPod) (holds : DaemonOrPod → Bool) (name : String) :
    total daemons name = total (daemons.filter holds) name + total (daemons.filter (!holds ·)) name := by
  simp only [total]
  rw [← List.sum_append, ← List.map_append]
  exact ((List.filter_append_perm holds daemons).map _).sum_eq.symm

theorem amount_clamped (due done : ResourceList) (name : String) :
    amount ((Resources.subtractFrom due done).filterMapValues fun _ q => some (if q < 0 then 0 else q)) name =
      max (amount due name - amount done name) 0 := by
  rw [max_def_lt, amount, Map.lookup_filterMapValues, Resources.subtractFrom, Map.lookup_mergeAll, amount, amount]
  cases done.lookup name with
  | none => cases due.lookup name <;> simp
  | some q => rfl

theorem lookup_remainingResources (name : String) : (remainingResources reported running expected).lookup name =
    (reported.allocatable.lookup name).map fun allocatable => allocatable - total running name -
      max (total expected name - total (running.filter (·.daemonSet.isSome)) name) 0 := by
  have onNode : amount (podRequests running) name = total running name := amount_merged running name
  have daemons : amount (daemonSetRequests running) name = total (running.filter (·.daemonSet.isSome)) name :=
    amount_merged _ name
  rw [remainingResources, newExistingNode, Resources.lookup_subtract, Resources.lookup_subtract, amount_clamped,
    amount_requestsForPods, daemons, onNode, Option.map_map]
  rfl

/-- Room is kept exactly when, in every resource of the node, the daemons that are missing ask for none of it or the
running daemons ask for no more than is expected of them, and nothing asks for a resource that the node lacks. -/
theorem keepsRoom_iff (reported : Reported) (running expected : List DaemonOrPod) :
    KeepsRoom reported running expected ↔ ∀ name,
      if (reported.allocatable.lookup name).isSome then
        total (expected.filter (!runs running ·)) name ≤ 0 ∨
          total (running.filter (·.daemonSet.isSome)) name ≤ total (expected.filter (runs running)) name
      else total running name + total (expected.filter (!runs running ·)) name ≤ 0 := by
  refine forall_congr' fun name => ?_
  have parts := total_split expected (runs running) name
  rw [amount, amount, lookup_remainingResources]
  cases reported.allocatable.lookup name with
  | none =>
    rw [Option.map_none, Option.getD_none, Option.isSome_none, if_neg Bool.false_ne_true]
    constructor <;> intro bound <;> linarith
  | some allocatable =>
    rw [Option.map_some, Option.getD_some, Option.getD_some, Option.isSome_some, if_pos rfl, sub_le_sub_iff_left,
      le_max_iff, Or.comm]
    refine or_congr_right ?_
    constructor <;> intro bound <;> linarith

/-- A daemon that is no longer expected runs on the node and hides the one that is still to come. -/
theorem room_taken_by_unexpected : amount (remainingResources (.node (AList.insert "cpu" 4 ∅))
        [{ daemonSet := some "old", requests := AList.insert "cpu" 1 ∅ }]
        [{ daemonSet := some "new", requests := AList.insert "cpu" 1 ∅ }]) "cpu" = 3 ∧
      ¬ KeepsRoom (.node (AList.insert "cpu" 4 ∅)) [{ daemonSet := some "old", requests := AList.insert "cpu" 1 ∅ }]
        [{ daemonSet := some "new", requests := AList.insert "cpu" 1 ∅ }] := by
  refine ⟨by decide +kernel, fun keeps => absurd (keeps "cpu") (by decide +kernel)⟩

end Karpenter.Provisioning
