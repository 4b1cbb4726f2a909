import Karpenter.Scheduling.Pod
import Karpenter.Trace
import Mathlib.Data.List.Infix

/-! The volumes on a node through a history of pods that come, change and go. A pod that goes has the volumes put
together anew from the pods that stay, but one that is added again only adds to them. -/
namespace Karpenter.Scheduling

open Go (Map)

def Volumes.Has (u : Volumes) (driver id : String) : Prop := id ∈ (u.lookup driver).getD ∅

instance (u : Volumes) (driver id : String) : Decidable (u.Has driver id) := inferInstanceAs (Decidable (_ ∈ _))

theorem Volumes.has_union {u vol : Volumes} {driver id : String} :
    (u.union vol).Has driver id ↔ u.Has driver id ∨ vol.Has driver id := by
  rw [Has, union, Map.lookup_mergeAll]
  cases found : vol.lookup driver <;> simp [Has, found]

inductive VolumeCall where
  | add (pod : ObjectKey) (volumes : Volumes)
  | deletePod (pod : ObjectKey)

def VolumeUsage.call (v : VolumeUsage) : VolumeCall → VolumeUsage
  | .add pod volumes => v.add pod volumes
  | .deletePod pod => v.deletePod pod

namespace VolumeCall

/-- What a pod was last added with, unless it was deleted since. -/
def latest (calls : List VolumeCall) (pod : ObjectKey) : Option Volumes :=
  calls.foldl (fun found call => match call with
    | .add key volumes => if pod = key then some volumes else found
    | .deletePod key => if pod = key then none else found) none

/-- Some pod that was added and not deleted has the volume. -/
def InUse (calls : List VolumeCall) (driver id : String) : Prop :=
  ∃ pod volumes, latest calls pod = some volumes ∧ volumes.Has driver id

/-- The usage of a node that has no pods yet, after the calls. -/
def run (limits : Map String Int) (publishedDrivers : Finset String) (calls : List VolumeCall) : VolumeUsage :=
  calls.foldl VolumeUsage.call { limits, publishedDrivers }

/-- The volumes of the node are those of its pods. -/
def Exact (limits : Map String Int) (publishedDrivers : Finset String) (calls : List VolumeCall) : Prop :=
  ∀ driver id, (run limits publishedDrivers calls).volumes.Has driver id ↔ InUse calls driver id

/-- A call that adds a pod again leaves no volume behind that no pod has any more. -/
def Covers (before : List VolumeCall) : VolumeCall → Prop
  | .add pod volumes => ∀ previous, latest before pod = some previous → ∀ driver id, previous.Has driver id →
    InUse (before ++ [.add pod volumes]) driver id
  | .deletePod _ => True

variable {before calls : List VolumeCall} {pod : ObjectKey} {volumes : Volumes} {driver id : String}

theorem latest_add (other : ObjectKey) :
    latest (before ++ [.add pod volumes]) other = if other = pod then some volumes else latest before other := by
  rw [latest, List.foldl_append]
  rfl

theorem latest_deletePod (other : ObjectKey) :
    latest (before ++ [.deletePod pod]) other = if other = pod then none else latest before other := by
  rw [latest, List.foldl_append]
  rfl

theorem inUse_add : InUse (before ++ [.add pod volumes]) driver id ↔ volumes.Has driver id ∨
    ∃ other, other ≠ pod ∧ ∃ own, latest before other = some own ∧ own.Has driver id := by
  simp only [InUse, latest_add]
  constructor
  · rintro ⟨other, own, found, has⟩
    split at found
    · cases found
      exact .inl has
    · next different => exact .inr ⟨other, different, own, found, has⟩
  · rintro (has | ⟨other, different, own, found, has⟩)
    · exact ⟨pod, volumes, if_pos rfl, has⟩
    · exact ⟨other, own, (if_neg different).trans found, has⟩

theorem run_append (call : VolumeCall) :
    run limits publishedDrivers (before ++ [call]) = (run limits publishedDrivers before).call call := by
  rw [run, List.foldl_append]
  rfl

theorem lookup_podVolumes (limits : Map String Int) (publishedDrivers : Finset String) (calls : List VolumeCall)
    (other : ObjectKey) : (run limits publishedDrivers calls).podVolumes.lookup other = latest calls other := by
  induction calls using List.reverseRecOn with
  | nil => rfl
  | append_singleton before last ih =>
    rw [run_append]
    cases last with
    | add pod volumes => rw [latest_add, ← ih, VolumeUsage.call, VolumeUsage.add, Map.lookup_insert_eq]
    | deletePod pod => rw [latest_deletePod, ← ih, VolumeUsage.call, VolumeUsage.deletePod, Map.lookup_erase_eq]

theorem has_foldl_union (entries : List (Sigma fun _ : ObjectKey => Volumes)) (start : Volumes) :
    (entries.foldl (fun volumes entry => volumes.union entry.2) start).Has driver id ↔
      start.Has driver id ∨ ∃ entry ∈ entries, entry.2.Has driver id := by
  induction entries generalizing start with
  | nil => simp
  | cons entry rest ih => simp [ih, Volumes.has_union, or_assoc]

/-- Whatever was left behind is gone once a pod is deleted. -/
theorem exact_deletePod : Exact limits publishedDrivers (before ++ [.deletePod pod]) := by
  intro driver id
  simp only [InUse, ← lookup_podVolumes limits publishedDrivers, run_append]
  refine (has_foldl_union _ ∅).trans ⟨?_, ?_⟩
  · rintro (has | ⟨⟨other, own⟩, member, has⟩)
    · simp [Volumes.Has] at has
    · exact ⟨other, own, Map.mem_entries_iff.mp member, has⟩
  · rintro ⟨other, own, found, has⟩
    exact .inr ⟨⟨other, own⟩, Map.mem_entries_iff.mpr found, has⟩

/-- Adding a pod keeps the volumes exact exactly when what it had before is still in use. -/
theorem exact_add (exact : Exact limits publishedDrivers before) :
    Exact limits publishedDrivers (before ++ [.add pod volumes]) ↔ Covers before (.add pod volumes) := by
  have has (driver id : String) : (run limits publishedDrivers (before ++ [.add pod volumes])).volumes.Has driver id ↔
      InUse before driver id ∨ volumes.Has driver id := by
    rw [run_append, ← exact driver id]
    exact Volumes.has_union
  constructor
  · intro later previous found driver id had
    exact (later driver id).mp ((has driver id).mpr (.inl ⟨pod, previous, found, had⟩))
  · intro covers driver id
    rw [has driver id]
    constructor
    · rintro (⟨other, own, found, had⟩ | new)
      · by_cases same : other = pod
        · exact covers own (same ▸ found) driver id had
        · exact inUse_add.mpr (.inr ⟨other, same, own, found, had⟩)
      · exact inUse_add.mpr (.inl new)
    · intro inUse
      rcases inUse_add.mp inUse with new | ⟨other, _, own, found, had⟩
      · exact .inr new
      · exact .inl ⟨other, own, found, had⟩

theorem volumes_exact_iff_covered (limits : Map String Int) (publishedDrivers : Finset String) (calls : List VolumeCall) :
    (∀ before, before <+: calls → Exact limits publishedDrivers before) ↔ Trace.Each Covers calls := by
  induction calls using List.reverseRecOn with
  | nil =>
    refine ⟨fun _ before x after split => by simp at split, fun _ before isPrefix => ?_⟩
    rw [List.prefix_nil.mp isPrefix]
    simp [Exact, run, InUse, latest, Volumes.Has]
  | append_singleton before last ih =>
    rw [Trace.each_append, Trace.each_singleton, ← ih, List.append_nil]
    simp only [List.prefix_concat_iff, forall_eq_or_imp]
    rw [and_comm]
    refine and_congr_right fun exact => ?_
    cases last with
    | add pod volumes => exact exact_add (exact before (List.prefix_refl _))
    | deletePod pod => exact iff_of_true exact_deletePod trivial

end VolumeCall

def oneVolume (driver id : String) : Volumes := AList.insert driver {id} ∅

def reboundCalls : List VolumeCall :=
  [.add ⟨"default", "app"⟩ (oneVolume "in-tree" "data"), .add ⟨"default", "app"⟩ (oneVolume "csi" "data")]

/-- A claim whose driver changes when it is bound leaves its old driver one volume fuller. -/
theorem rebound_claim_fills_old_driver : let limits : Map String Int := AList.insert "in-tree" 1 ∅
    ¬ VolumeCall.Exact limits ∅ reboundCalls ∧ (∀ id, ¬ VolumeCall.InUse reboundCalls "in-tree" id) ∧
      (VolumeCall.run limits ∅ reboundCalls).exceedsLimits (oneVolume "in-tree" "other") = true := by
  have moved : AList.lookup "in-tree" (oneVolume "csi" "data") = none := by decide
  have unused (id : String) : ¬ VolumeCall.InUse reboundCalls "in-tree" id := by
    rintro ⟨pod, volumes, found, has⟩
    simp only [reboundCalls, VolumeCall.latest, List.foldl_cons, List.foldl_nil] at found
    split at found
    · cases found
      simp [Volumes.Has, moved] at has
    · cases found
  refine ⟨fun exact => ?_, unused, by decide +kernel⟩
  exact unused "data" ((exact "in-tree" "data").mp (by decide +kernel))

end Karpenter.Scheduling
