import Karpenter.CloudProvider.InstanceType
import Mathlib.Algebra.Order.Group.MinMax

/-! The groups of offerings with the same overrides. They partition the available offerings, and the allocatable
resources of a group are those of each of its offerings; what huge pages take from the memory does not depend on the
order in which the resources are visited, although the memory is cut off at zero in every step. -/
namespace Karpenter.CloudProvider

open Go (Map)
open Resources

theorem keys_addToGroup (o : Offering) (distinct : (groups.map (·.1)).Nodup) : ((addToGroup o groups).map (·.1)).Nodup ∧
      ∀ key ∈ (addToGroup o groups).map (·.1), key = o.overrideKey ∨ key ∈ groups.map (·.1) := by
  induction groups with
  | nil => simp [addToGroup]
  | cons group rest ih =>
    obtain ⟨fresh, later⟩ := List.nodup_cons.mp distinct
    unfold addToGroup
    split
    · exact ⟨distinct, fun key member => .inr member⟩
    · rename_i other
      obtain ⟨distinct', from_⟩ := ih later
      refine ⟨List.nodup_cons.mpr ⟨fun again => ?_, distinct'⟩, fun key member => ?_⟩
      · exact (from_ _ again).elim other fresh
      · rcases List.mem_cons.mp member with rfl | inRest
        · exact .inr List.mem_cons_self
        · exact (from_ key inRest).imp_right (List.mem_cons_of_mem _)

theorem distinct_foldl_addToGroup (offerings : List Offering) (distinct : (groups.map (·.1)).Nodup) :
    ((offerings.foldl (fun groups o => addToGroup o groups) groups).map (·.1)).Nodup := by
  induction offerings generalizing groups with
  | nil => exact distinct
  | cons o rest ih => exact ih (keys_addToGroup o distinct).1

/-- The memory after a visit of the resources: it is reduced by all huge pages and cut off at zero. -/
theorem lookup_foldl_hugePages {entries : List (Sigma fun _ : String => Quantity)} (allocatable : ResourceList)
    (nonneg : ∀ entry ∈ entries, 0 ≤ entry.2) (name : String) :
    (entries.foldl (fun allocatable entry => if isHugePages entry.1 then
        let current := amount allocatable "memory" - entry.2
        allocatable.insert "memory" (if current < 0 then 0 else current)
      else allocatable) allocatable).lookup name =
    if name = "memory" ∧ entries.any (isHugePages ·.1) = true then
      some (max 0 (amount allocatable "memory" -
        (entries.map fun entry => if isHugePages entry.1 then entry.2 else 0).sum))
    else allocatable.lookup name := by
  induction entries generalizing allocatable with
  | nil => simp
  | cons entry rest ih =>
    obtain ⟨here, later⟩ := List.forall_mem_cons.mp nonneg
    rw [List.foldl_cons, ih _ later, List.any_cons, List.map_cons, List.sum_cons]
    cases pages : isHugePages entry.1 with
    | false => simp only [Bool.false_or, Bool.false_eq_true, if_false, zero_add]
    | true =>
      have rest_nonneg : 0 ≤ (rest.map fun entry => if isHugePages entry.1 then entry.2 else 0).sum := by
        refine List.sum_nonneg fun summand member => ?_
        obtain ⟨other, inRest, rfl⟩ := List.mem_map.mp member
        split
        · exact later other inRest
        · exact le_rfl
      have cut (current : Quantity) : (if current < 0 then 0 else current) = max 0 current := by grind
      simp only [if_true, Bool.true_or, and_true, cut]
      have stored (q : Quantity) : amount (allocatable.insert "memory" q) "memory" = q := by
        rw [amount, AList.lookup_insert, Option.getD_some]
      by_cases memory : name = "memory"
      · subst memory
        by_cases more : rest.any (isHugePages ·.1) = true
        · rw [if_pos ⟨rfl, more⟩, if_pos rfl, stored, ← sub_sub, ← max_sub_sub_right, zero_sub, ← max_assoc,
            max_eq_left (neg_nonpos.mpr rest_nonneg)]
        · have none_ : (rest.map fun entry => if isHugePages entry.1 then entry.2 else 0).sum = 0 := by
            refine List.sum_eq_zero fun summand member => ?_
            obtain ⟨other, inRest, rfl⟩ := List.mem_map.mp member
            exact if_neg fun pages => more (List.any_eq_true.mpr ⟨other, inRest, pages⟩)
          rw [if_neg fun both => more both.2, AList.lookup_insert, if_pos rfl, none_, add_zero]
      · simp [memory]

namespace InstanceType

variable (i : InstanceType) (o : Offering)

/-- The capacity with the override of the offering merged. -/
def capacityOf : ResourceList := assign i.capacity o.capacityOverride

/-- The overhead with the override of the offering merged. -/
def overheadOf : ResourceList :=
  o.overheadOverride.elim i.overhead.total fun override => assign i.overhead.total override.total

/-- What an offering on its own leaves allocatable of a resource. -/
def ownAllocatable (name : String) : Option Quantity :=
  let rest := (i.capacityOf o).lookup name |>.map (· - amount (i.overheadOf o) name)
  if name = "memory" ∧ (i.capacityOf o).entries.any (isHugePages ·.1) = true then
    some (max 0 (rest.getD 0 - (i.capacityOf o).total fun name pages => if isHugePages name then pages else 0))
  else rest

theorem nonneg_capacityOf (whole : Nonneg o.capacityOverride) : Nonneg (i.capacityOf o) := by
  intro name quantity found
  rw [capacityOf, assign, Map.lookup_mergeAll] at found
  split at found
  · exact i.nonneg name quantity found
  · rename_i stored
    cases found
    exact whole name _ stored

theorem lookup_allocatableFor (whole : Nonneg o.capacityOverride) (name : String) :
    (i.allocatableFor o).lookup name = i.ownAllocatable o name := by
  have capacity : (if o.capacityOverride.entries.isEmpty then i.capacity else assign i.capacity o.capacityOverride) =
      i.capacityOf o := by
    split
    · rename_i none_
      have empty : o.capacityOverride = ∅ := AList.ext (List.isEmpty_iff.mp none_)
      rw [capacityOf, empty]
      rfl
    · rfl
  unfold allocatableFor computeAllocatable ownAllocatable overheadOf
  rw [capacity, lookup_foldl_hugePages]
  · simp only [amount, lookup_subtract]
    by_cases memory : name = "memory"
    · subst memory
      cases o.overheadOverride <;> rfl
    · rw [if_neg fun both => memory both.1, if_neg fun both => memory both.1]
      cases o.overheadOverride <;> rfl
  · exact fun entry member => nonneg_capacityOf i o whole entry.1 entry.2 (Map.mem_entries_iff.mp member)

/-- The groups partition the available offerings, and each group has the allocatable resources of every offering of it
on its own, if quantities are whole numbers. -/
theorem offering_groups_faithful :
    (i.allocatableOfferingsList.flatMap (·.offerings)).Perm (i.offerings.filter (·.available)) ∧
      (i.allocatableOfferingsList.Pairwise fun group other => ∀ o ∈ group.offerings, o ∉ other.offerings) ∧
      ∀ group ∈ i.allocatableOfferingsList, ∀ o ∈ group.offerings, Nonneg o.capacityOverride →
        ∀ name, group.allocatable.lookup name = i.ownAllocatable o name := by
  refine ⟨i.perm_allocatableOfferings, ?_, ?_⟩
  · unfold allocatableOfferingsList
    split
    · have keyed := keyed_foldl_addToGroup (i.offerings.filter (·.available)) [(none, [])] (by simp)
      have distinct := @distinct_foldl_addToGroup [(none, [])] (i.offerings.filter (·.available)) (by simp)
      have apart : (i.groupOfferingsByOverride.map (·.offerings)).Pairwise fun group other => ∀ o ∈ group, o ∉ other := by
        rw [map_offerings_groupOfferingsByOverride, List.pairwise_map]
        refine (List.pairwise_map.mp distinct).imp_of_mem fun {group other} inGroups inGroups' differ o here there => ?_
        exact differ ((keyed group inGroups o here).symm.trans (keyed other inGroups' o there))
      exact List.pairwise_map.mp apart
    · exact List.pairwise_singleton _ _
  · intro group member o inGroup whole name
    rw [allocatable_of_mem member inGroup, lookup_allocatableFor i o whole]

end InstanceType

end Karpenter.CloudProvider
