import Karpenter.Go.Map
import Mathlib.Data.Finset.Card
import Mathlib.Data.Finset.Lattice.Basic

/-! The parts of a pod the scheduler reads besides its requirements, with the taints it tolerates, the
host ports it opens and the volumes it mounts. The text of a host address is represented by what
`net.ParseIP` makes of it, in its sixteen-byte form. -/
namespace Karpenter.Scheduling

open Go (Map)

structure Taint where
  key : String
  value : String := ""
  effect : String
  deriving DecidableEq

structure Toleration where
  key : String := ""
  operator : String := ""
  value : String := ""
  effect : String := ""
  deriving DecidableEq

abbrev IP := List Nat

def ipv4Zero : IP := [0, 0, 0, 0, 0, 0, 0, 0, 0, 0, 255, 255, 0, 0, 0, 0]
def ipv6Unspecified : IP := List.replicate 16 0

def IP.isUnspecified (ip : IP) : Bool := ip = ipv4Zero || ip = ipv6Unspecified

structure ContainerPort where
  hostIP : Option IP := none
  hostPort : Int := 0
  protocol : String := "TCP"
  deriving DecidableEq

structure ObjectKey where
  namespaceName : String
  name : String
  deriving DecidableEq

/-- A provisionable pod waits for a node; it had none before. -/
structure Pod where
  key : ObjectKey
  uid : String := ""
  creationTimestamp : Nat := 0
  tolerations : List Toleration := []
  ports : List ContainerPort := []
  provisionable : Bool := true
  deriving DecidableEq

/-- Tolerating one taint is decided by the Kubernetes API library. -/
def toleratesTaints (toleratesTaint : Toleration → Taint → Bool) (taints : List Taint)
    (tolerations : List Toleration) : Bool :=
  taints.all fun taint => tolerations.any fun t => toleratesTaint t taint

/-- Tolerations count as a set. -/
theorem toleratesTaints_congr (same : ∀ t, t ∈ one ↔ t ∈ other) :
    toleratesTaints toleratesTaint taints one = toleratesTaints toleratesTaint taints other := by
  have any (taint : Taint) : (one.any fun t => toleratesTaint t taint) = other.any fun t => toleratesTaint t taint := by
    rw [Bool.eq_iff_iff, List.any_eq_true, List.any_eq_true]
    simp only [same]
  simp only [toleratesTaints, any]

structure HostPort where
  ip : IP
  port : Int
  protocol : String
  deriving DecidableEq

/-- An unspecified address stands for every address of the node. -/
def HostPort.matches_ (p rhs : HostPort) : Bool :=
  decide (p.protocol = rhs.protocol) && decide (p.port = rhs.port) &&
    (decide (p.ip = rhs.ip) || p.ip.isUnspecified || rhs.ip.isUnspecified)

def getHostPorts (pod : Pod) : List HostPort :=
  (pod.ports.filter fun p => p.hostPort ≠ 0).map fun p => ⟨p.hostIP.getD ipv4Zero, p.hostPort, p.protocol⟩

/-- The ports in use on a node, by the pod that uses them. -/
abbrev HostPortUsage := Map ObjectKey (List HostPort)

namespace HostPortUsage

variable (u : HostPortUsage)

def add (usedBy : ObjectKey) (ports : List HostPort) : HostPortUsage :=
  AList.insert usedBy ports u

/-- A pod never conflicts with an entry under its own name. -/
def conflicts (usedBy : ObjectKey) (ports : List HostPort) : Bool :=
  ports.any fun newEntry => u.entries.any fun entry =>
    entry.2.any fun existing => newEntry.matches_ existing && decide (entry.1 ≠ usedBy)

theorem conflicts_eq_false {u : HostPortUsage} : conflicts u usedBy ports = false ↔
      ∀ key entries, AList.lookup key u = some entries → key ≠ usedBy →
        ∀ p ∈ ports, ∀ existing ∈ entries, p.matches_ existing = false := by
  rw [Bool.eq_false_iff]
  unfold conflicts
  simp only [ne_eq, List.any_eq_true, Bool.and_eq_true, decide_eq_true_eq, not_exists, not_and,
    not_not, Bool.eq_false_iff]
  constructor
  · intro clean key entries found different p inPorts existing inEntries clash
    exact different (clean p inPorts ⟨key, entries⟩ (Map.mem_entries_iff.mpr found) existing inEntries clash)
  · rintro clean p inPorts ⟨key, entries⟩ member existing inEntries clash
    by_contra different
    exact clean key entries (Map.mem_entries_iff.mp member) different p inPorts existing inEntries clash

/-- The usage after every pod of a list was added. -/
def addAll (pods : List Pod) : HostPortUsage :=
  pods.foldl (fun u pod => add u pod.key (getHostPorts pod)) u

theorem lookup_addAll_of_notMem (pods : List Pod) (u : HostPortUsage) (absent : ∀ pod ∈ pods, pod.key ≠ key) :
    AList.lookup key (addAll u pods) = AList.lookup key u := by
  induction pods generalizing u with
  | nil => rfl
  | cons first rest ih =>
    obtain ⟨here, later⟩ := List.forall_mem_cons.mp absent
    exact (ih (add u first.key (getHostPorts first)) later).trans (AList.lookup_insert_ne (Ne.symm here))

theorem lookup_addAll (distinct : (pods.map (·.key)).Nodup) (member : pod ∈ pods) :
    AList.lookup pod.key (addAll u pods) = some (getHostPorts pod) := by
  induction pods generalizing u with
  | nil => cases member
  | cons first rest ih =>
    obtain ⟨fresh, others⟩ := List.nodup_cons.mp distinct
    rcases List.mem_cons.mp member with rfl | later
    · have kept := lookup_addAll_of_notMem rest (add u pod.key (getHostPorts pod))
        fun other inRest same => fresh (List.mem_map.mpr ⟨other, inRest, same⟩)
      exact kept.trans (AList.lookup_insert u)
    · exact ih (add u first.key (getHostPorts first)) others later

end HostPortUsage

/-- Some host port of the one pod matches one of the other. -/
def PortsConflict (a b : Pod) : Prop :=
  ∃ p ∈ getHostPorts a, ∃ q ∈ getHostPorts b, p.matches_ q = true

theorem HostPort.matches_comm (p q : HostPort) : p.matches_ q = q.matches_ p := by
  unfold HostPort.matches_
  rw [Bool.or_right_comm, Bool.or_assoc, Bool.or_assoc]
  simp only [eq_comm, Bool.or_comm]

/-- Volume identifiers by the driver that attaches them. -/
abbrev Volumes := Map String (Finset String)

namespace Volumes

def union (u vol : Volumes) : Volumes := Map.mergeAll (fun existing v => (existing.getD ∅) ∪ v) u vol

end Volumes

/-- The volumes attached to one node and how many of each driver it can have. -/
structure VolumeUsage where
  volumes : Volumes := ∅
  podVolumes : Map ObjectKey Volumes := ∅
  limits : Map String Int := ∅
  publishedDrivers : Finset String := ∅

namespace VolumeUsage

variable (v : VolumeUsage)

def exceedsLimits (vols : Volumes) : Bool :=
  (v.volumes.union vols).entries.any fun entry =>
    (v.limits.lookup entry.1).any fun limit => decide (limit < (entry.2.card : Int))

/-- What the node itself publishes comes first. -/
def addFallbackLimit (driver : String) (value : Int) : VolumeUsage :=
  if driver ∈ v.publishedDrivers then v else { v with limits := v.limits.insert driver value }

def addLimit (driver : String) (value : Int) : VolumeUsage :=
  { v with publishedDrivers := insert driver v.publishedDrivers, limits := v.limits.insert driver value }

def addUnbounded (driver : String) : VolumeUsage :=
  { v with publishedDrivers := insert driver v.publishedDrivers, limits := v.limits.erase driver }

def add (pod : ObjectKey) (volumes : Volumes) : VolumeUsage :=
  { v with podVolumes := v.podVolumes.insert pod volumes, volumes := v.volumes.union volumes }

/-- Pods may share a volume, so what is left is put together anew. -/
def deletePod (pod : ObjectKey) : VolumeUsage :=
  let podVolumes := v.podVolumes.erase pod
  { v with podVolumes, volumes := podVolumes.entries.foldl (fun volumes entry => volumes.union entry.2) ∅ }

end VolumeUsage

end Karpenter.Scheduling
