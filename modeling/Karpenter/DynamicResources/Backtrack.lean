import Karpenter.DynamicResources.SearchTopology
import Karpenter.DynamicResources.SearchTree

/-! What a failed branch of the search leaves behind. Each structure is undone by hand: the constraints drop
their last device, the tentative counters and capacities are charged back, the requirements and pools come
from the snapshot. All of them return to what they were. The set of allocated devices does not when the
device on the way back is one that the path had allocated before. -/
namespace Karpenter.DynamicResources

open Go (Map)
open Resources
open Scheduling (Requirements)
open CloudProvider (Device)

/-- A constraint without devices pins no value. -/
def MatchAttributeConstraint.Tidy (m : MatchAttributeConstraint) : Prop :=
  m.allocatedDeviceIDs = [] → m.attributeValue = none ∧ m.usedBinding = false

section Constraints

variable {m extended : MatchAttributeConstraint} {requestName : RequestName} {device : Device} {id : DeviceID}

namespace MatchAttributeConstraint

theorem appliesTo_pinned (m : MatchAttributeConstraint) (value : Option CloudProvider.DeviceAttribute)
    (binding : Bool) (ids : List DeviceID) : appliesTo { m with
      attributeValue := value, usedBinding := binding, allocatedDeviceIDs := ids } requestName =
    m.appliesTo requestName := rfl

theorem add_cases (added : m.add requestName device id = some extended) :
    (m.appliesTo requestName = false ∧ extended = m) ∨
      (m.appliesTo requestName = true ∧ ∃ value binding, extended = { m with
        attributeValue := value, usedBinding := binding, allocatedDeviceIDs := m.allocatedDeviceIDs ++ [id] } ∧
        (m.allocatedDeviceIDs ≠ [] → value = m.attributeValue ∧ binding = m.usedBinding)) := by
  rw [add] at added
  split at added
  · rename_i applies
    refine .inr ⟨applies, ?_⟩
    split at added
    · rename_i attr _
      rw [addConcrete] at added
      split at added
      · cases added
      · split at added
        · rename_i empty
          rw [List.isEmpty_iff] at empty
          cases added
          exact ⟨some attr, m.usedBinding, by rw [empty]; rfl, fun nonempty => absurd empty nonempty⟩
        · split at added
          · cases added
            exact ⟨m.attributeValue, m.usedBinding, rfl, fun _ => ⟨rfl, rfl⟩⟩
          · cases added
    · rw [addBound] at added
      split at added
      · cases added
      · split at added
        · cases added
        · split at added
          · split at added
            · rename_i empty
              cases added
              exact ⟨m.attributeValue, true, by rw [empty]; rfl, fun nonempty => absurd empty nonempty⟩
            · rename_i first rest listed
              split at added
              · cases added
                exact ⟨m.attributeValue, m.usedBinding, by rw [listed], fun _ => ⟨rfl, rfl⟩⟩
              · cases added
          · cases added
  · rename_i applies
    cases added
    exact .inl ⟨Bool.eq_false_iff.mpr applies, rfl⟩

theorem Tidy.add (tidy : m.Tidy) (added : m.add requestName device id = some extended) : extended.Tidy := by
  rcases add_cases added with ⟨_, rfl⟩ | ⟨_, value, binding, rfl, _⟩
  · exact tidy
  · intro empty
    simp at empty

/-- Removing takes back what adding did. -/
theorem Tidy.remove_add (tidy : m.Tidy) (added : m.add requestName device id = some extended) :
    extended.remove requestName = m := by
  rcases add_cases added with ⟨applies, rfl⟩ | ⟨applies, value, binding, rfl, pinned⟩
  · rw [remove, applies]
    rfl
  · rw [remove, appliesTo_pinned, if_pos applies]
    rw [List.dropLast_concat]
    by_cases empty : m.allocatedDeviceIDs = []
    · obtain ⟨value, binding⟩ := tidy empty
      rw [if_pos (List.isEmpty_iff.mpr empty), ← value, ← binding]
    · obtain ⟨rfl, rfl⟩ := pinned empty
      rw [if_neg (by simpa using empty)]

end MatchAttributeConstraint

/-- Adding a device to the constraints of a claim changes none of them or can be taken back. -/
theorem addConstraints_spec (tidy : ∀ m ∈ constraints, m.Tidy) :
    ((addConstraints requestName device id constraints).1 = false →
      (addConstraints requestName device id constraints).2 = constraints) ∧
    ((addConstraints requestName device id constraints).1 = true →
      removeConstraints requestName (addConstraints requestName device id constraints).2 = constraints ∧
      ∀ m ∈ (addConstraints requestName device id constraints).2, m.Tidy) := by
  induction constraints with
  | nil => exact ⟨fun _ => rfl, fun _ => ⟨rfl, tidy⟩⟩
  | cons m rest ih =>
    obtain ⟨unchanged, takenBack⟩ := ih fun other member => tidy other (List.mem_cons_of_mem _ member)
    have own := tidy m List.mem_cons_self
    rw [addConstraints]
    split
    · exact ⟨fun _ => rfl, nofun⟩
    · rename_i extended added
      split
      · rename_i more outcome
        rw [outcome] at takenBack
        obtain ⟨back, kept⟩ := takenBack rfl
        refine ⟨nofun, fun _ => ⟨?_, ?_⟩⟩
        · rw [removeConstraints, List.map_cons, own.remove_add added]
          exact congrArg _ back
        · intro other member
          rcases List.mem_cons.mp member with rfl | inRest
          · exact own.add added
          · exact kept other inRest
      · rename_i less outcome
        rw [outcome] at unchanged
        refine ⟨fun _ => ?_, nofun⟩
        rw [own.remove_add added]
        exact congrArg _ (unchanged rfl)

end Constraints

/-- The same amounts, with every entry of the first map still entered in the second. -/
structure SameCounters (m n : PoolCounters) : Prop where
  amounts : ∀ pool set name, counterAmount n pool set name = counterAmount m pool set name
  entered : ∀ pool set name, getCounter n pool set name = none → getCounter m pool set name = none

theorem SameCounters.refl (m : PoolCounters) : SameCounters m m := ⟨fun _ _ _ => rfl, fun _ _ _ absent => absent⟩

theorem SameCounters.trans (first : SameCounters m n) (second : SameCounters n k) : SameCounters m k where
  amounts := fun pool set name => (second.amounts pool set name).trans (first.amounts pool set name)
  entered := fun pool set name absent => first.entered pool set name (second.entered pool set name absent)

theorem SameCounters.restore {d : DeviceWithID}
    (same : SameCounters (deductAllocatingCounters m d.device d.id.poolKey) n) :
    SameCounters m (restoreAllocatingCounters n d.device d.id.poolKey) := by
  constructor
  · intro pool set name
    rw [counterAmount, getCounter_restoreAllocatingCounters]
    cases found : getCounter n pool set name with
    | none =>
      obtain ⟨absent, -⟩ := getCounter_deductAllocatingCounters_eq_none (same.entered pool set name found)
      rw [counterAmount, absent]
      rfl
    | some counter =>
      have charged := same.amounts pool set name
      rw [counterAmount_deductAllocatingCounters, counterAmount, found, Option.getD_some] at charged
      rw [Option.map_some, Option.getD_some, charged, add_sub_cancel_right]
  · intro pool set name absent
    rw [getCounter_restoreAllocatingCounters, Option.map_eq_none_iff] at absent
    exact (getCounter_deductAllocatingCounters_eq_none (same.entered pool set name absent)).1

def SameCapacities (m n : DeviceCapacities) : Prop := ∀ id name, amountAt n id name = amountAt m id name

theorem SameCapacities.restore
    (same : SameCapacities (deductAllocatingCapacity (Search.openCapacity m dw) consumed dw.id) n) :
    SameCapacities m (restoreAllocatingCapacity n consumed dw.id) := by
  intro id name
  rw [amountAt_restoreAllocatingCapacity, same id name, amountAt_deductAllocatingCapacity,
    Search.amountAt_openCapacity, add_sub_cancel_right]

/-- What every failed branch gives back. -/
structure Undone (a b : Search) : Prop extends Restores a b where
  constraints : b.constraints = a.constraints
  counters : SameCounters a.allocatingCounters b.allocatingCounters
  templateCounters : SameCounters a.templateAllocatingCounters b.templateAllocatingCounters
  capacities : SameCapacities a.allocatingCapacity b.allocatingCapacity
  templateCapacities : SameCapacities a.templateAllocatingCapacity b.templateAllocatingCapacity

theorem Undone.refl (a : Search) : Undone a a :=
  ⟨.refl a, rfl, .refl _, .refl _, fun _ _ => rfl, fun _ _ => rfl⟩

theorem Undone.trans (first : Undone a b) (second : Undone b c) : Undone a c where
  toRestores := first.toRestores.trans second.toRestores
  constraints := second.constraints.trans first.constraints
  counters := first.counters.trans second.counters
  templateCounters := first.templateCounters.trans second.templateCounters
  capacities := fun id name => (second.capacities id name).trans (first.capacities id name)
  templateCapacities := fun id name => (second.templateCapacities id name).trans (first.templateCapacities id name)

/-- Every constraint without devices pins no value. -/
def Tidied (a : Search) : Prop := ∀ constraints ∈ a.constraints, ∀ m ∈ constraints, m.Tidy

section Undoing

variable {ctx : SearchContext}

theorem Tidied.at (tidied : Tidied a) (claimIdx : Nat) : ∀ m ∈ a.constraints.getD claimIdx [], m.Tidy := by
  intro m member
  rw [List.getD_eq_getElem?_getD] at member
  cases found : a.constraints[claimIdx]? with
  | none =>
    rw [found] at member
    cases member
  | some constraints =>
    rw [found] at member
    exact tidied constraints (List.mem_of_getElem? found) m member

theorem exists_cache (ctx : SearchContext) (pos : Position) (rd : RequestData) (dw : DeviceWithID) (a : Search) :
    ∃ cache, (matchesRequest ctx pos rd dw a).2 = { a with deviceMatchesRequest := cache } := by
  rw [matchesRequest]
  split
  · exact ⟨_, rfl⟩
  · split
    · exact ⟨_, rfl⟩
    · exact ⟨_, rfl⟩

theorem set_getD_self (lists : List (List α)) (i : Nat) : lists.set i (lists.getD i []) = lists := by
  by_cases inside : i < lists.length
  · simp [List.getD_eq_getElem?_getD, inside]
  · exact List.set_eq_of_length_le (Nat.le_of_not_lt inside)

theorem set_getD_set {lists : List (List α)} {i : Nat} {extended : List α} {f : List α → List α}
    (back : f extended = lists.getD i []) :
    (lists.set i extended).set i (f ((lists.set i extended).getD i [])) = lists := by
  by_cases inside : i < lists.length
  · have written : (lists.set i extended).getD i [] = extended := by
      simp [List.getD_eq_getElem?_getD, inside]
    rw [written, back, List.set_set, set_getD_self]
  · simp [List.set_eq_of_length_le (Nat.le_of_not_lt inside)]

theorem undone_cached (a : Search) (cache : Map MatchKey Bool) : Undone a { a with deviceMatchesRequest := cache } :=
  ⟨⟨rfl, rfl, rfl, rfl⟩, rfl, .refl _, .refl _, fun _ _ => rfl, fun _ _ => rfl⟩

/-- A device that is turned away changes nothing but the remembered selector results. -/
theorem exists_cache_of_rejects (tidied : Tidied a) (rejects : Rejects ctx pos rd dw a b) :
    ∃ cache, b = { a with deviceMatchesRequest := cache } := by
  obtain ⟨cache, same⟩ := exists_cache ctx pos rd dw a
  cases rejects with
  | unavailable => exact ⟨_, rfl⟩
  | counters => exact ⟨_, rfl⟩
  | selectors => exact ⟨cache, same⟩
  | constraints _ _ unsatisfied =>
    rw [same, Search.satisfies] at unsatisfied
    refine ⟨cache, ?_⟩
    rw [Search.constrained, same]
    rw [Search.setConstraints, (addConstraints_spec (tidied.at pos.claimIdx)).1 unsatisfied, set_getD_self]
  | topology _ _ satisfied =>
    rw [same, Search.satisfies] at satisfied
    refine ⟨cache, ?_⟩
    rw [Search.constrained, same]
    rw [Search.removeFromConstraints, Search.setConstraints, Search.setConstraints]
    rw [set_getD_set ((addConstraints_spec (tidied.at pos.claimIdx)).2 satisfied).1]

section Records

variable (records : Records ctx pos rd dw a consumed b)

include records

/-- What recording a device does, apart from the bookkeeping of the device itself. -/
theorem exists_of_records : ∃ cache requirements pools snapshots, b = Search.record pos rd dw consumed { a with
      deviceMatchesRequest := cache
      constraints := a.constraints.set pos.claimIdx
        (addConstraints rd.name dw.device dw.id (a.constraints.getD pos.claimIdx [])).2
      requirements, pools, snapshots } := by
  obtain ⟨cache, same⟩ := exists_cache ctx pos rd dw a
  obtain ⟨narrowed, found, rfl⟩ := records.recorded
  rw [Search.constrained, same, Search.narrow] at found
  split at found
  · cases found
    exact ⟨cache, a.requirements, a.pools, a.snapshots, rfl⟩
  · split at found
    · cases found
      exact ⟨cache, _, _, _, rfl⟩
    · cases found

theorem constraints_of_records : b.constraints = a.constraints.set pos.claimIdx
      (addConstraints rd.name dw.device dw.id (a.constraints.getD pos.claimIdx [])).2 := by
  obtain ⟨cache, requirements, pools, snapshots, rfl⟩ := exists_of_records records
  rw [Search.record]
  split <;> rfl

theorem satisfied_of_records :
    (addConstraints rd.name dw.device dw.id (a.constraints.getD pos.claimIdx [])).1 = true := by
  obtain ⟨cache, same⟩ := exists_cache ctx pos rd dw a
  have satisfied := records.satisfied
  rwa [same] at satisfied

theorem allocatedDevices_of_records : b.allocatedDevices = insert dw.id a.allocatedDevices := by
  obtain ⟨cache, requirements, pools, snapshots, rfl⟩ := exists_of_records records
  rw [Search.record]
  split <;> rfl

theorem charges_of_records : b.allocatingCounters = (if dw.id.template then a.allocatingCounters
      else deductAllocatingCounters a.allocatingCounters dw.device dw.id.poolKey) ∧
    b.templateAllocatingCounters = (if dw.id.template
      then deductAllocatingCounters a.templateAllocatingCounters dw.device dw.id.poolKey
      else a.templateAllocatingCounters) ∧ b.allocatingCapacity = (if dw.id.template then a.allocatingCapacity
      else deductAllocatingCapacity (Search.openCapacity a.allocatingCapacity dw) consumed dw.id) ∧
    b.templateAllocatingCapacity = (if dw.id.template
      then deductAllocatingCapacity (Search.openCapacity a.templateAllocatingCapacity dw) consumed dw.id
      else a.templateAllocatingCapacity) := by
  obtain ⟨cache, requirements, pools, snapshots, rfl⟩ := exists_of_records records
  rw [Search.record]
  split <;> exact ⟨rfl, rfl, rfl, rfl⟩

theorem restores_backtrack (same : Restores b c) : Restores a (c.backtrack pos rd dw consumed) := by
  obtain ⟨cache, cached⟩ := exists_cache ctx pos rd dw a
  obtain ⟨narrowed, found, rfl⟩ := records.recorded
  rw [Search.constrained, cached] at found
  obtain ⟨-, -, metadata, -, back⟩ := narrow_spec found
  obtain ⟨sameReqs, samePools, sameSnapshots, longer⟩ := record_spec narrowed pos rd dw consumed
  obtain ⟨undoneReqs, undonePools, undoneSnapshots, shorter⟩ := undo_spec c dw consumed
  obtain ⟨first, second, third⟩ := back (c.undo dw consumed)
    (undoneReqs.trans (same.requirements.trans sameReqs)) (undonePools.trans (same.pools.trans samePools))
    (undoneSnapshots.trans (same.snapshots.trans sameSnapshots))
  refine ⟨first, second, third, ?_⟩
  show ((c.undo dw consumed).widen dw).allocatedDevicesMetadata = _
  rw [Search.metadata_widen, shorter, same.metadata, longer, List.dropLast_concat, metadata]
  rfl

theorem pools_of_records : offered b.pools ⊆ offered a.pools := by
  obtain ⟨cache, cached⟩ := exists_cache ctx pos rd dw a
  obtain ⟨narrowed, found, rfl⟩ := records.recorded
  rw [Search.constrained, cached] at found
  obtain ⟨-, -, -, fewer, -⟩ := narrow_spec found
  rw [(record_spec narrowed pos rd dw consumed).2.1]
  exact fewer

end Records

theorem Tidied.records (tidied : Tidied a) (records : Records ctx pos rd dw a consumed b) : Tidied b := by
  rw [Tidied, constraints_of_records records]
  intro constraints member
  rcases List.mem_or_eq_of_mem_set member with before | rfl
  · exact tidied constraints before
  · exact ((addConstraints_spec (tidied.at pos.claimIdx)).2 (satisfied_of_records records)).2

theorem allocatedDevices_backtrack (c : Search) : (c.backtrack pos rd dw consumed).allocatedDevices =
    c.allocatedDevices.erase dw.id := by
  rw [Search.backtrack, Search.removeFromConstraints, Search.setConstraints, Search.widen, Search.undo]
  split <;> split <;> rfl

variable (pos rd dw consumed) in
theorem charges_backtrack (c : Search) :
    (c.backtrack pos rd dw consumed).allocatingCounters = (if dw.id.template then c.allocatingCounters
      else restoreAllocatingCounters c.allocatingCounters dw.device dw.id.poolKey) ∧
    (c.backtrack pos rd dw consumed).templateAllocatingCounters = (if dw.id.template
      then restoreAllocatingCounters c.templateAllocatingCounters dw.device dw.id.poolKey
      else c.templateAllocatingCounters) ∧
    (c.backtrack pos rd dw consumed).allocatingCapacity = (if dw.id.template then c.allocatingCapacity
      else restoreAllocatingCapacity c.allocatingCapacity consumed dw.id) ∧
    (c.backtrack pos rd dw consumed).templateAllocatingCapacity = (if dw.id.template
      then restoreAllocatingCapacity c.templateAllocatingCapacity consumed dw.id
      else c.templateAllocatingCapacity) := by
  rw [Search.backtrack, Search.removeFromConstraints, Search.setConstraints, Search.widen, Search.undo]
  split <;> split <;> exact ⟨rfl, rfl, rfl, rfl⟩

theorem constraints_backtrack (c : Search) : (c.backtrack pos rd dw consumed).constraints =
    c.constraints.set pos.claimIdx (removeConstraints rd.name (c.constraints.getD pos.claimIdx [])) := by
  rw [Search.backtrack, Search.removeFromConstraints, Search.setConstraints, Search.widen, Search.undo]
  split <;> split <;> rfl

/-- The way back from a device undoes what recording it did. -/
theorem undone_backtrack (tidied : Tidied a) (records : Records ctx pos rd dw a consumed b) (same : Undone b c) :
    Undone a (c.backtrack pos rd dw consumed) := by
  have sameConstraints : (c.backtrack pos rd dw consumed).constraints = a.constraints := by
    rw [constraints_backtrack, same.constraints, constraints_of_records records]
    exact set_getD_set
      ((addConstraints_spec (tidied.at pos.claimIdx)).2 (satisfied_of_records records)).1
  obtain ⟨chargedCounters, chargedTemplateCounters, chargedCapacity, chargedTemplateCapacity⟩ :=
    charges_of_records records
  obtain ⟨backCounters, backTemplateCounters, backCapacity, backTemplateCapacity⟩ :=
    charges_backtrack pos rd dw consumed c
  obtain ⟨sameState, -, sameCounters, sameTemplateCounters, sameCapacities, sameTemplateCapacities⟩ := same
  rw [chargedCounters] at sameCounters
  rw [chargedTemplateCounters] at sameTemplateCounters
  rw [chargedCapacity] at sameCapacities
  rw [chargedTemplateCapacity] at sameTemplateCapacities
  refine ⟨restores_backtrack records sameState, sameConstraints, ?_, ?_, ?_, ?_⟩
  all_goals cases kind : dw.id.template <;> simp only [kind, if_true, if_false, Bool.false_eq_true] at *
  · exact backCounters ▸ sameCounters.restore
  · exact backCounters ▸ sameCounters
  · exact backTemplateCounters ▸ sameTemplateCounters
  · exact backTemplateCounters ▸ sameTemplateCounters.restore
  · exact backCapacity ▸ sameCapacities.restore
  · exact backCapacity ▸ sameCapacities
  · exact backTemplateCapacity ▸ sameTemplateCapacities
  · exact backTemplateCapacity ▸ sameTemplateCapacities.restore

theorem undone_of_rejects (tidied : Tidied a) (rejects : Rejects ctx pos rd dw a b) : Undone a b := by
  obtain ⟨cache, rfl⟩ := exists_cache_of_rejects tidied rejects
  exact undone_cached a cache

theorem undone_polled (a : Search) : Undone a a.polled :=
  ⟨⟨rfl, rfl, rfl, rfl⟩, rfl, .refl _, .refl _, fun _ _ => rfl, fun _ _ => rfl⟩

theorem Tidied.undone (tidied : Tidied a) (same : Undone a b) : Tidied b := by
  rw [Tidied, same.constraints]
  exact tidied

/-- A failed call undoes all its changes but those to the set of allocated devices. What else is to hold at
every call only has to be kept when a call is made. -/
def undoneRule (ctx : SearchContext) (Inv : SearchCall → Search → Prop)
    (recorded : ∀ {depth pos rd dw a consumed b}, Inv (.tryDevice depth pos rd dw) a →
      Records ctx pos rd dw a consumed b → Inv (.dfs depth pos.nextSlot) b)
    (branch : ∀ {depth pos a child b}, Inv (.dfs (depth + 1) pos) a → Branches ctx depth pos a child b →
      Undone a b → Inv child b) : SearchRule ctx where
  Pre := fun call a => Tidied a ∧ Inv call a
  Failed := Undone
  refl := Undone.refl
  trans := Undone.trans
  polled := undone_polled
  rejected := fun pre rejects => undone_of_rejects pre.1 rejects
  backtracked := fun pre records _ same => undone_backtrack pre.1 records same
  recorded := fun pre records => ⟨pre.1.records records, recorded pre.2 records⟩
  branch := fun pre _ branches same => ⟨pre.1.undone same, branch pre.2 branches same⟩

theorem mem_of_requestAt (found : ctx.requestAt pos = some rd) :
    ∃ cd ∈ ctx.claimData, ∃ req ∈ cd.requests, rd ∈ req.alternatives := by
  obtain ⟨cd, claim, found⟩ := Option.bind_eq_some_iff.mp found
  obtain ⟨req, request, resolved⟩ := Option.bind_eq_some_iff.mp found
  exact ⟨cd, List.mem_of_getElem? claim, req, List.mem_of_getElem? request,
    ClaimRequest.mem_alternatives_of_resolve resolved⟩

end Undoing

/-- The state of a search before and after a call, as far as the search can tell them apart. -/
structure NoTrace (a b : Search) : Prop extends Restores a b where
  allocatedDevices : b.allocatedDevices = a.allocatedDevices
  constraints : b.constraints = a.constraints
  counters : ∀ pool set name,
    counterAmount b.allocatingCounters pool set name = counterAmount a.allocatingCounters pool set name
  templateCounters : ∀ pool set name, counterAmount b.templateAllocatingCounters pool set name =
    counterAmount a.templateAllocatingCounters pool set name
  capacities : ∀ id name, amountAt b.allocatingCapacity id name = amountAt a.allocatingCapacity id name
  templateCapacities : ∀ id name,
    amountAt b.templateAllocatingCapacity id name = amountAt a.templateAllocatingCapacity id name

theorem Undone.noTrace (undone : Undone a b) (same : b.allocatedDevices = a.allocatedDevices) : NoTrace a b :=
  ⟨undone.toRestores, same, undone.constraints, undone.counters.amounts, undone.templateCounters.amounts,
    undone.capacities, undone.templateCapacities⟩

namespace AllocateCall

variable (call : AllocateCall)

/-- A call made while an instance type is searched, with the state it is made in. -/
def Searches (it : InstanceTypeID) (depth : Nat) (a : Search) (made : SearchCall) (b : Search) : Prop :=
  Reaches (call.context it) (.dfs depth ⟨0, 0, none, 0⟩) (call.restoreState it a) made b

/-- No call that fails leaves a trace. -/
def LeavesNoTrace (it : InstanceTypeID) (depth : Nat) (a : Search) : Prop :=
  ∀ made b c, call.Searches it depth a made b → made.run (call.context it) b = (false, c) → NoTrace b c

/-- The search never comes back from a device that its path had already allocated before. -/
def KeepsRepeats (it : InstanceTypeID) (depth : Nat) (a : Search) : Prop :=
  ∀ left pos rd dw b consumed c, call.Searches it depth a (.tryDevice left pos rd dw) b →
    Records (call.context it) pos rd dw b consumed c → dw.id ∈ b.allocatedDevices →
      (dfs (call.context it) left pos.nextSlot c).1 = true

theorem tidied_restoreState (it : InstanceTypeID) (a : Search) : Tidied (call.restoreState it a) := by
  intro constraints member m inClaim
  obtain ⟨cd, _, rfl⟩ := List.mem_map.mp member
  obtain ⟨original, _, rfl⟩ := List.mem_map.mp inClaim
  exact fun _ => ⟨rfl, rfl⟩

/-- While repeated devices are kept, the set of allocated devices is undone as well. -/
def noTraceRule (it : InstanceTypeID) (depth : Nat) (a : Search) (keeps : call.KeepsRepeats it depth a) :
    SearchRule (call.context it) where
  Pre := fun made b => call.Searches it depth a made b ∧ Tidied b
  Failed := fun b c => Undone b c ∧ c.allocatedDevices = b.allocatedDevices
  refl := fun b => ⟨.refl b, rfl⟩
  trans := fun first second => ⟨first.1.trans second.1, second.2.trans first.2⟩
  polled := fun b => ⟨undone_polled b, rfl⟩
  rejected := by
    intro left pos rd dw b c pre rejects
    obtain ⟨cache, rfl⟩ := exists_cache_of_rejects pre.2 rejects
    exact ⟨undone_cached b cache, rfl⟩
  backtracked := by
    intro left pos rd dw b consumed c d pre records failed same
    refine ⟨undone_backtrack pre.2 records same.1, ?_⟩
    have fresh : dw.id ∉ b.allocatedDevices := by
      intro repeated
      have kept := keeps left pos rd dw b consumed c pre.1 records repeated
      rw [failed] at kept
      cases kept
    rw [allocatedDevices_backtrack, same.2, allocatedDevices_of_records records, Finset.erase_insert fresh]
  recorded := fun pre records => ⟨pre.1.tail (.recurse records), pre.2.records records⟩
  branch := fun pre running branches same =>
    ⟨pre.1.tail (.branch running branches), pre.2.undone same.1⟩

/-- A failed branch leaves no trace exactly if the search never comes back from a repeated device. -/
theorem leavesNoTrace_iff (call : AllocateCall) (it : InstanceTypeID) (depth : Nat) (a : Search) :
    call.LeavesNoTrace it depth a ↔ call.KeepsRepeats it depth a := by
  constructor
  · intro clean left pos rd dw b consumed c reached records repeated
    by_contra unsuccessful
    have failed : SearchCall.run (call.context it) (.tryDevice left pos rd dw) b =
        (false, (dfs (call.context it) left pos.nextSlot c).2.backtrack pos rd dw consumed) := by
      rw [SearchCall.run, tryDevice_of_records records, if_neg unsuccessful]
    have same := (clean _ b _ reached failed).allocatedDevices
    rw [allocatedDevices_backtrack] at same
    rw [← same] at repeated
    exact Finset.notMem_erase _ _ repeated
  · intro keeps made b c reached failed
    have start : call.Searches it depth a (.dfs depth ⟨0, 0, none, 0⟩) (call.restoreState it a) ∧
        Tidied (call.restoreState it a) := ⟨.refl, call.tidied_restoreState it a⟩
    have pre := (call.noTraceRule it depth a keeps).pre_of_reaches start reached
    have restored : Undone b c ∧ c.allocatedDevices = b.allocatedDevices :=
      (call.noTraceRule it depth a keeps).failed pre failed
    exact restored.1.noTrace restored.2

end AllocateCall

/-! A claim that asks for one shared device twice and for another device that does not exist. -/

def sharedSlices : List ResourceSlice := [
  { driver := "gpu", pool := "card", allNodes := true
    devices := [{ name := "shared", allowMultipleAllocations := true }] }]

def sharedEnvironment : Environment where
  wellKnownLabels := ∅
  getDeviceClass := fun name => .ok { name }
  compile := fun _ => none
  deviceMatches := fun _ _ => .ok false
  deadline := none
  arrange := fun pools => pools
  arrange_perm := fun pools => List.Perm.refl pools

def sharedClaim : ResourceClaim where
  namespaceName := "default"
  name := "shared"
  requests := [
    { name := "twice", exactly := some { deviceClassName := "gpu", count := 2 } },
    { name := "missing", exactly := some { deviceClassName := "gpu", selectors := [⟨some "false"⟩] } }]

def sharedRequest (name : String) (numDevices : Nat) (selectors : List DeviceSelector) : RequestData where
  name := ⟨name, ""⟩
  numDevices
  allocationMode := .exactCount
  selectors

def sharedCall : AllocateCall where
  allocator := newAllocator ∅ sharedSlices {} ∅ ∅
  env := sharedEnvironment
  nodeClaim := { id := "node", instanceTypes := ["small"] }
  initialPools := gatherPools ∅ sharedSlices Requirements.empty "" true
  requirements := Requirements.empty
  claimData := [{
    id := ⟨"default", "shared"⟩
    requests := [.exactly (sharedRequest "twice" 2 []), .exactly (sharedRequest "missing" 1 [⟨some "false"⟩])]
    constraints := [] }]

def sharedDevice : DeviceWithID where
  device := { name := "shared", allowMultipleAllocations := true }
  id := { driver := "gpu", pool := "card", device := "shared" }

/-- Coming back from the second use of the shared device forgets the first one, which is still allocated. -/
theorem shared_device_forgotten : Allocator.prepare (newAllocator ∅ sharedSlices {} ∅ ∅) sharedEnvironment
      { id := "node", instanceTypes := ["small"] } [sharedClaim] = .ok (.search sharedCall) ∧
    ¬ sharedCall.LeavesNoTrace "small" (searchDepth (sharedCall.context "small")) sharedCall.initialSearch := by
  refine ⟨rfl, fun clean => ?_⟩
  have first : Makes (sharedCall.context "small") (.dfs 9 ⟨0, 0, none, 0⟩)
      (sharedCall.restoreState "small" sharedCall.initialSearch)
      (.tryDevice 8 ⟨0, 0, none, 0⟩ (sharedRequest "twice" 2 []) sharedDevice) _ :=
    .branch rfl (.pool ⟨rfl, by decide, by decide⟩ rfl (by decide) .here rfl .here rfl)
  have recorded := (Reaches.refl.tail first).tail (.recurse ⟨⟨rfl, rfl⟩, rfl, rfl, _, rfl, rfl⟩)
  have second := recorded.tail
    (.branch rfl (.pool ⟨(rfl : _ = some (sharedRequest "twice" 2 [])), by decide, by decide⟩ rfl (by decide)
      .here rfl .here rfl))
  have forgotten := (clean _ _ _ second rfl).allocatedDevices
  exact absurd forgotten (by decide)

end Karpenter.DynamicResources
