import Karpenter.Provisioning.NodeClaim
import Mathlib.Data.Multiset.Basic

/-! Instance types grouped by the daemon pods that run on them. Which daemon pods run on an instance type,
and what a set of daemon pods requests, are parameters. The sorted and joined names of a set of pods, by
which the source groups, are the multiset of their names. -/
namespace Karpenter.Provisioning

open Go (Map)
open CloudProvider
open Resources (ResourceList)
open Scheduling

def podSetKey (pods : List Pod) : Multiset ObjectKey := pods.map (·.key)

/-- The daemon pods of a cluster, on which instance types they run and what they request together. -/
structure Daemons where
  pods : List Pod
  runsOn : InstanceType → Pod → Bool
  requestsFor : List Pod → ResourceList

namespace Daemons

variable (daemons : Daemons)

def on (it : InstanceType) : List Pod := daemons.pods.filter (daemons.runsOn it)

def overhead (it : InstanceType) : ResourceList :=
  if (daemons.on it).isEmpty then ∅ else daemons.requestsFor (daemons.on it)

def newGroup (it : InstanceType) : DaemonOverheadGroup where
  instanceTypes := [it]
  daemonOverhead := daemons.overhead it
  hostPortUsage := HostPortUsage.addAll ∅ (daemons.on it)

def joinGroup (groups : Map (Multiset ObjectKey) DaemonOverheadGroup) (it : InstanceType) :
    Map (Multiset ObjectKey) DaemonOverheadGroup :=
  groups.alter (fun
    | some group => some { group with instanceTypes := group.instanceTypes ++ [it] }
    | none => some (daemons.newGroup it)) (podSetKey (daemons.on it))

def buildDaemonOverheadGroups (its : List InstanceType) : List DaemonOverheadGroup :=
  (its.foldl daemons.joinGroup ∅).entries.map Sigma.snd

/-- A group holds instance types with one set of daemon pods, and was set up from one of them. -/
structure FormedFor (key : Multiset ObjectKey) (group : DaemonOverheadGroup) : Prop where
  member : ∀ it ∈ group.instanceTypes, podSetKey (daemons.on it) = key
  founder : ∃ it, podSetKey (daemons.on it) = key ∧ group.daemonOverhead = daemons.overhead it ∧
    group.hostPortUsage = HostPortUsage.addAll ∅ (daemons.on it)

variable {daemons}

theorem formedFor_joinGroup (formed : ∀ key group, groups.lookup key = some group → daemons.FormedFor key group)
    (it : InstanceType) (found : (daemons.joinGroup groups it).lookup key = some group) : daemons.FormedFor key group := by
  rw [joinGroup, Map.lookup_alter] at found
  split at found
  · rename_i here
    subst here
    cases existing : groups.lookup (podSetKey (daemons.on it)) with
    | none =>
      rw [existing] at found
      cases found
      exact ⟨fun other member => by rw [List.mem_singleton.mp member], it, rfl, rfl, rfl⟩
    | some group' =>
      rw [existing] at found
      cases found
      obtain ⟨members, founder⟩ := formed _ _ existing
      refine ⟨fun other member => ?_, founder⟩
      rcases List.mem_append.mp member with before | last
      · exact members other before
      · rw [List.mem_singleton.mp last]
  · exact formed key group found

theorem formedFor_groups (its : List InstanceType) (found : (its.foldl daemons.joinGroup ∅).lookup key = some group) :
    daemons.FormedFor key group := by
  refine List.foldlRecOn (motive := fun groups => ∀ key group, groups.lookup key = some group → daemons.FormedFor key group)
    its daemons.joinGroup ?_ ?_ key group found
  · exact fun key group impossible => by simp at impossible
  · exact fun groups formed it _ key group found => formedFor_joinGroup formed it found

/-- An instance type belongs to one group only. -/
theorem group_unique (inFirst : first ∈ daemons.buildDaemonOverheadGroups its)
    (inSecond : second ∈ daemons.buildDaemonOverheadGroups its) (member : it ∈ first.instanceTypes)
    (alsoMember : it ∈ second.instanceTypes) : first = second := by
  obtain ⟨⟨key, group⟩, entry, rfl⟩ := List.mem_map.mp inFirst
  obtain ⟨⟨otherKey, other⟩, otherEntry, rfl⟩ := List.mem_map.mp inSecond
  have found := Map.mem_entries_iff.mp entry
  have otherFound := Map.mem_entries_iff.mp otherEntry
  have keys : key = otherKey :=
    ((formedFor_groups its found).member it member).symm.trans ((formedFor_groups its otherFound).member it alsoMember)
  subst keys
  exact Option.some.inj (found.symm.trans otherFound)

/-- With distinct names the group of an instance type was set up for exactly its daemon pods. -/
theorem on_eq_of_podSetKey (distinct : (daemons.pods.map (·.key)).Nodup)
    (same : podSetKey (daemons.on it) = podSetKey (daemons.on other)) : daemons.on it = daemons.on other := by
  have inside : ∀ {a b : InstanceType}, podSetKey (daemons.on a) = podSetKey (daemons.on b) →
      ∀ pod ∈ daemons.pods, daemons.runsOn a pod = true → daemons.runsOn b pod = true := by
    intro a b keys pod member runs
    have key : pod.key ∈ podSetKey (daemons.on b) := by
      rw [← keys]
      exact Multiset.mem_coe.mpr (List.mem_map_of_mem (List.mem_filter.mpr ⟨member, runs⟩))
    obtain ⟨twin, inOn, sameKey⟩ := List.mem_map.mp (Multiset.mem_coe.mp key)
    obtain ⟨inPods, twinRuns⟩ := List.mem_filter.mp inOn
    exact List.inj_on_of_nodup_map distinct inPods member sameKey ▸ twinRuns
  refine List.filter_congr fun pod member => ?_
  rw [Bool.eq_iff_iff]
  exact ⟨inside same pod member, inside same.symm pod member⟩

end Daemons

end Karpenter.Provisioning
