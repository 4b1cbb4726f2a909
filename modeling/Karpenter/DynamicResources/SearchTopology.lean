import Karpenter.DynamicResources.SearchInvariant

/-! What a search does to the requirements it starts from. They only tighten, a key once fixed to some values
keeps one of them, and what is left at the end lies within the topology of every device the search allocated.
A branch that fails gives the requirements, the pools and the devices back as they were. -/
namespace Karpenter.DynamicResources

open Scheduling (Requirement Requirements)

/-- A concrete requirement that admits a value. -/
def Definite (r : Requirement) : Prop := r.complement = false ∧ ∃ value, r.has value = true

theorem Definite.admitsAbsence (definite : Definite r) : r.admitsAbsence = false := by
  obtain ⟨concrete, value, inside⟩ := definite
  rw [Bool.eq_false_iff, ne_eq, Requirement.admitsAbsence_iff, concrete]
  rw [Requirement.has_concrete r concrete] at inside
  simp [Finset.ne_empty_of_mem inside]

theorem Definite.intersection {r s : Requirement} (concrete : r.complement = false ∨ s.complement = false)
    (left : r.has value = true) (right : s.has value = true) : Definite (r.intersection s) :=
  ⟨Requirement.concrete_intersection concrete, value, (Requirement.has_intersection r s value).mpr ⟨left, right⟩⟩

/-- The key is defined and limited to some values. -/
def Fixed (r : Requirements) (key : String) : Prop := ∃ q, r.get? key = some q ∧ Definite q

/-- Narrower on every key, and every fixed key stays fixed. -/
structure Tightens (r original : Requirements) : Prop where
  narrows : r.Narrows original
  fixed : ∀ key, Fixed original key → Fixed r key

theorem Tightens.refl (r : Requirements) : Tightens r r := ⟨.refl r, fun _ fixed => fixed⟩

theorem Tightens.trans (first : Tightens r middle) (second : Tightens middle original) : Tightens r original :=
  ⟨first.narrows.trans second.narrows, fun key fixed => first.fixed key (second.fixed key fixed)⟩

section Adding

variable {r added : Requirements}

/-- A compatible requirement cannot empty a fixed key. -/
theorem tightens_add (compatible : r.isCompatible added allowUndefined = true) : Tightens (r.add added.values) r := by
  refine ⟨Requirements.narrows_add r _, ?_⟩
  rintro key ⟨q, found, definite⟩
  rw [Fixed, Requirements.get?_add_values]
  cases incoming : added.get? key with
  | none => exact ⟨q, found, definite⟩
  | some requirement =>
    have admits := (Requirements.isCompatible_iff_admitsKey _ _ _).mp compatible key requirement incoming
    rw [found] at admits ⊢
    refine ⟨_, rfl, ?_⟩
    rcases admits with overlap | ⟨-, absent⟩
    · obtain ⟨value, inside, other⟩ := (Requirement.hasIntersection_iff_exists q _).mp overlap
      exact Definite.intersection (.inr definite.1) other inside
    · rw [definite.admitsAbsence] at absent
      cases absent

/-- A compatible requirement for some values fixes its key. -/
theorem fixed_add (compatible : r.isCompatible added allowUndefined = true)
    (incoming : added.get? key = some requirement) (definite : Definite requirement) :
    Fixed (r.add added.values) key := by
  have admits := (Requirements.isCompatible_iff_admitsKey _ _ _).mp compatible key requirement incoming
  rw [Fixed, Requirements.get?_add_values, incoming]
  cases existing : r.get? key with
  | none => exact ⟨_, rfl, definite⟩
  | some q =>
    rw [existing] at admits
    refine ⟨_, rfl, ?_⟩
    rcases admits with overlap | ⟨absent, -⟩
    · obtain ⟨value, inside, other⟩ := (Requirement.hasIntersection_iff_exists q _).mp overlap
      exact Definite.intersection (.inl definite.1) other inside
    · rw [definite.admitsAbsence] at absent
      cases absent

/-- Adding what already holds leaves a fixed key fixed. -/
theorem tightens_add_implied (implied : r.Narrows added) : Tightens (r.add added.values) r := by
  refine ⟨Requirements.narrows_add r _, ?_⟩
  rintro key ⟨q, found, definite⟩
  rw [Fixed, Requirements.get?_add_values]
  cases incoming : added.get? key with
  | none => exact ⟨q, found, definite⟩
  | some requirement =>
    obtain ⟨same, here, within⟩ := implied key requirement incoming
    obtain rfl : q = same := Option.some.inj (found.symm.trans here)
    obtain ⟨value, inside⟩ := definite.2
    rw [found]
    exact ⟨_, rfl, Definite.intersection (.inr definite.1) (within value inside) inside⟩

end Adding

/-- The requirements lie within the topology of the device, and are fixed where it asks for some values. -/
structure Carries (r : Requirements) (dw : DeviceWithID) : Prop where
  narrows : ∀ reqs, dw.topologyRequirements = some reqs → r.Narrows reqs
  fixed : ∀ reqs, dw.topologyRequirements = some reqs → ∀ key requirement, reqs.get? key = some requirement →
    Definite requirement → Fixed r key

theorem Carries.tighten (carries : Carries original dw) (tightens : Tightens r original) : Carries r dw where
  narrows := fun reqs topology => tightens.narrows.trans (carries.narrows reqs topology)
  fixed := fun reqs topology key requirement found definite =>
    tightens.fixed key (carries.fixed reqs topology key requirement found definite)

/-- What a failed branch gives back. -/
structure Restores (a b : Search) : Prop where
  requirements : b.requirements = a.requirements
  pools : b.pools = a.pools
  snapshots : b.snapshots = a.snapshots
  metadata : b.allocatedDevicesMetadata = a.allocatedDevicesMetadata

theorem Restores.refl (a : Search) : Restores a a := ⟨rfl, rfl, rfl, rfl⟩

theorem Restores.trans (first : Restores a b) (second : Restores b c) : Restores a c :=
  ⟨second.requirements.trans first.requirements, second.pools.trans first.pools,
    second.snapshots.trans first.snapshots, second.metadata.trans first.metadata⟩

/-- Taking on the topology of a device carries it, and the way back restores the state. -/
theorem narrow_spec {a narrowed : Search} (found : a.narrow ctx dw = some narrowed) :
    Tightens narrowed.requirements a.requirements ∧ Carries narrowed.requirements dw ∧
    narrowed.allocatedDevicesMetadata = a.allocatedDevicesMetadata ∧ offered narrowed.pools ⊆ offered a.pools ∧
    ∀ b : Search, b.requirements = narrowed.requirements → b.pools = narrowed.pools →
      b.snapshots = narrowed.snapshots → (b.widen dw).requirements = a.requirements ∧
        (b.widen dw).pools = a.pools ∧ (b.widen dw).snapshots = a.snapshots := by
  rw [Search.narrow] at found
  cases topology : dw.topologyRequirements with
  | none =>
    rw [topology] at found
    cases found
    refine ⟨.refl _, ⟨?_, ?_⟩, rfl, List.Subset.refl _, ?_⟩
    · intro reqs given
      rw [topology] at given
      cases given
    · intro reqs given
      rw [topology] at given
      cases given
    · intro b requirements pools snapshots
      rw [Search.widen, topology]
      exact ⟨requirements, pools, snapshots⟩
  | some reqs =>
    rw [topology] at found
    dsimp only at found
    split at found
    · rename_i compatible
      cases found
      refine ⟨tightens_add compatible, ⟨?_, ?_⟩, rfl, fun d member => mem_offered_of_filterPools member, ?_⟩
      · intro given same
        rw [topology] at same
        cases same
        exact Requirements.add_narrows_values _ _
      · intro given same key requirement incoming definite
        rw [topology] at same
        cases same
        exact fixed_add compatible incoming definite
      · intro b requirements pools snapshots
        rw [Search.widen, topology, snapshots]
        exact ⟨rfl, rfl, rfl⟩
    · cases found

theorem record_spec (a : Search) (pos : Position) (rd : RequestData) (dw : DeviceWithID) (consumed : Option ConsumedCapacity) :
    (a.record pos rd dw consumed).requirements = a.requirements ∧
    (a.record pos rd dw consumed).pools = a.pools ∧ (a.record pos rd dw consumed).snapshots = a.snapshots ∧
    (a.record pos rd dw consumed).allocatedDevicesMetadata =
      a.allocatedDevicesMetadata ++ [⟨pos.claimIdx, dw, consumed, rd.name⟩] := by
  simp only [Search.record]
  split
  · exact ⟨rfl, rfl, rfl, rfl⟩
  · exact ⟨rfl, rfl, rfl, rfl⟩

theorem undo_spec (a : Search) (dw : DeviceWithID) (consumed : Option ConsumedCapacity) :
    (a.undo dw consumed).requirements = a.requirements ∧ (a.undo dw consumed).pools = a.pools ∧
    (a.undo dw consumed).snapshots = a.snapshots ∧
    (a.undo dw consumed).allocatedDevicesMetadata = a.allocatedDevicesMetadata.dropLast := by
  simp only [Search.undo]
  split
  · exact ⟨rfl, rfl, rfl, rfl⟩
  · exact ⟨rfl, rfl, rfl, rfl⟩

end Karpenter.DynamicResources
