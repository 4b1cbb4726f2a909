import Karpenter.Provisioning.BinPacking

/-! The last step of scheduling: the reservations a NodeClaim holds become requirements. Packing looked for
room in any compatible offering, while the finalized NodeClaim can only launch into an offering of a held
reservation, so it is launchable exactly when such an offering has room by its own allocatable resources. -/
namespace Karpenter.Provisioning

open Go (Map)
open CloudProvider
open Scheduling
open Requirements (AdmitsKey admitsKey_single isCompatible_iff_admitsKey)

/-- What a cloud provider promises about an offering: one capacity type, one reservation for a reserved
one, and nothing about host names. -/
structure OfferingContract (registry : Registry) (o : Offering) : Prop where
  capacityType : ∃ r, o.requirements.get? capacityTypeLabelKey = some r ∧ r.Single o.capacityType
  reservation : o.capacityType = capacityTypeReserved →
    ∃ r, o.requirements.get? registry.reservationIDLabel = some r ∧ r.Single (o.reservationID registry)
  hostname : o.requirements.get? labelHostname = none

theorem OfferingContract.ne_hostname (contract : OfferingContract registry o)
    (found : o.requirements.get? key = some incoming) : key ≠ labelHostname := by
  rintro rfl
  rw [contract.hostname] at found
  cases found

/-- The reservation label is a label of its own. -/
structure ReservationLabel (registry : Registry) : Prop where
  unaliased : normalizedLabels.lookup registry.reservationIDLabel = none
  notHostname : registry.reservationIDLabel ≠ labelHostname
  notCapacityType : registry.reservationIDLabel ≠ capacityTypeLabelKey

section Injection

variable {settings : Settings} {n : NodeClaim} {o : Offering}

theorem get?_injectReservations (label : ReservationLabel settings.toRegistry)
    (held : n.reservedOfferings ≠ []) (key : String) : (n.injectReservations settings).get? key =
      if key = settings.reservationIDLabel then
        some (Requirements.merge (newRequirement settings.reservationIDLabel .opIn
          (n.reservedOfferings.map (·.reservationID settings.toRegistry))) (n.requirements.get? key))
      else if key = capacityTypeLabelKey then
        some (newRequirement capacityTypeLabelKey .opIn [capacityTypeReserved])
      else if key = labelHostname then none
      else n.requirements.get? key := by
  have own : (newRequirement settings.reservationIDLabel .opIn
      (n.reservedOfferings.map (·.reservationID settings.toRegistry))).key = settings.reservationIDLabel :=
    normalizeKey_of_unaliased label.unaliased
  unfold NodeClaim.injectReservations
  rw [if_neg (by simpa using held), Requirements.get?_addOne, own, Requirements.get?_set, Requirements.get?_delete]
  split
  · rename_i here
    rw [if_neg (here ▸ label.notCapacityType), if_neg (here ▸ label.notHostname)]
  · rfl

theorem isCompatible_without_hostname (contract : OfferingContract settings.toRegistry o)
    (none : n.reservedOfferings = []) :
    (n.injectReservations settings).isCompatible o.requirements settings.wellKnownLabels = true ↔
      n.requirements.isCompatible o.requirements settings.wellKnownLabels = true := by
  rw [isCompatible_iff_admitsKey, isCompatible_iff_admitsKey]
  refine forall_congr' fun key => forall_congr' fun incoming => imp_congr_right fun found => ?_
  unfold NodeClaim.injectReservations
  rw [if_pos (by simp [none]), Requirements.get?_delete, if_neg (contract.ne_hostname found)]

theorem has_merge_in : (Requirements.merge (newRequirement key .opIn values) existing).has value = true ↔
      value ∈ values ∧ ∀ requirement, existing = some requirement → requirement.has value = true := by
  cases existing with
  | none => simp [Requirements.merge, Requirement.has_newRequirement_in]
  | some existing => simp [Requirements.merge, Requirement.has_intersection, Requirement.has_newRequirement_in]

/-- Listed values narrow a key that is defined or may be left undefined to those that are listed. -/
theorem admitsKey_merge_in (single : incoming.Single value) (allowed : existing = none → key ∈ allowUndefined) :
    AdmitsKey allowUndefined key (some (Requirements.merge (newRequirement label .opIn values) existing)) incoming ↔
      value ∈ values ∧ AdmitsKey allowUndefined key existing incoming := by
  rw [admitsKey_single single, admitsKey_single single]
  dsimp only
  rw [has_merge_in]
  refine and_congr_right fun _ => ?_
  cases existing with
  | none => simp [allowed rfl]
  | some existing => simp

/-- An offering is compatible with the injected requirements when it is a compatible offering of a
reservation that is held; `h` is one of the offerings by which they are held. -/
theorem isCompatible_injectReservations (label : ReservationLabel settings.toRegistry)
    (contract : OfferingContract settings.toRegistry o) (holder : OfferingContract settings.toRegistry h)
    (reserved : h.capacityType = capacityTypeReserved) (member : h ∈ n.reservedOfferings)
    (compatible : n.requirements.isCompatible h.requirements settings.wellKnownLabels = true) :
    (n.injectReservations settings).isCompatible o.requirements settings.wellKnownLabels = true ↔
      n.requirements.isCompatible o.requirements settings.wellKnownLabels = true ∧
        o.capacityType = capacityTypeReserved ∧
        o.reservationID settings.toRegistry ∈ n.reservedOfferings.map (·.reservationID settings.toRegistry) := by
  have held : n.reservedOfferings ≠ [] := List.ne_nil_of_mem member
  have lookups := get?_injectReservations label held
  obtain ⟨type, typeFound, typeSingle⟩ := contract.capacityType
  obtain ⟨heldType, heldTypeFound, heldTypeSingle⟩ := holder.capacityType
  obtain ⟨heldID, heldIDFound, heldIDSingle⟩ := holder.reservation reserved
  rw [isCompatible_iff_admitsKey] at compatible
  have typeAdmitted := (admitsKey_single heldTypeSingle).mp (compatible _ _ heldTypeFound)
  have idDefined : n.requirements.get? settings.reservationIDLabel = none →
      settings.reservationIDLabel ∈ settings.wellKnownLabels := by
    intro absent
    simpa only [absent] using (admitsKey_single heldIDSingle).mp (compatible _ _ heldIDFound)
  rw [isCompatible_iff_admitsKey, isCompatible_iff_admitsKey]
  constructor
  · intro each
    have isReserved : o.capacityType = capacityTypeReserved := by
      have admitted := (admitsKey_single typeSingle).mp (each _ _ typeFound)
      rw [lookups, if_neg (Ne.symm label.notCapacityType), if_pos rfl] at admitted
      exact ((Requirement.single_newRequirement _ _).has_iff _).mp admitted
    obtain ⟨id, idFound, idSingle⟩ := contract.reservation isReserved
    have idAdmitted := each _ _ idFound
    rw [lookups, if_pos rfl, admitsKey_merge_in idSingle idDefined] at idAdmitted
    refine ⟨fun key incoming found => ?_, isReserved, idAdmitted.1⟩
    by_cases isID : key = settings.reservationIDLabel
    · subst isID
      rw [idFound] at found
      cases found
      exact idAdmitted.2
    · by_cases isType : key = capacityTypeLabelKey
      · subst isType
        rw [typeFound] at found
        cases found
        rw [admitsKey_single typeSingle, isReserved, ← reserved]
        exact typeAdmitted
      · have admitted := each key incoming found
        rwa [lookups, if_neg isID, if_neg isType, if_neg (contract.ne_hostname found)] at admitted
  · rintro ⟨each, isReserved, inHeld⟩ key incoming found
    rw [lookups]
    split
    · rename_i isID
      subst isID
      obtain ⟨id, idFound, idSingle⟩ := contract.reservation isReserved
      rw [idFound] at found
      cases found
      exact (admitsKey_merge_in idSingle idDefined).mpr ⟨inHeld, each _ _ idFound⟩
    · split
      · rename_i isType
        subst isType
        rw [typeFound] at found
        cases found
        rw [admitsKey_single typeSingle]
        exact ((Requirement.single_newRequirement _ _).has_iff _).mpr isReserved
      · rw [if_neg (contract.ne_hostname found)]
        exact each key incoming found

end Injection

/-- An available offering with room, by its own allocatable resources, for the pods and the daemons of its
instance type. -/
def Roomy (daemons : Daemons) (template : NodeClaimTemplate) (placed : List Placement) (it : InstanceType)
    (o : Offering) : Prop :=
  o.available = true ∧
    ∃ group ∈ daemons.buildDaemonOverheadGroups template.instanceTypeOptions, it ∈ group.instanceTypes ∧
      Resources.fits (requestsWithDaemons placed group) (it.allocatableFor o) = true

/-- Some option can be launched into an offering that the requirements admit and that has room. -/
def Launchable (settings : Settings) (daemons : Daemons) (template : NodeClaimTemplate)
    (placed : List Placement) (n : NodeClaim) : Prop :=
  ∃ it ∈ n.instanceTypeOptions, ∃ o ∈ it.offerings, Roomy daemons template placed it o ∧
    n.requirements.isCompatible o.requirements settings.wellKnownLabels = true

/-- No reservation is held, or a compatible offering of a held one has room by itself. -/
def HeldRoom (settings : Settings) (daemons : Daemons) (template : NodeClaimTemplate)
    (placed : List Placement) (n : NodeClaim) : Prop :=
  n.reservedOfferings = [] ∨ ∃ it ∈ n.instanceTypeOptions, ∃ o ∈ it.offerings,
    Roomy daemons template placed it o ∧
    n.requirements.isCompatible o.requirements settings.wellKnownLabels = true ∧
    o.capacityType = capacityTypeReserved ∧
    o.reservationID settings.toRegistry ∈ n.reservedOfferings.map (·.reservationID settings.toRegistry)

theorem finalizeScheduling_fields (settings : Settings) (n : NodeClaim) :
    (n.finalizeScheduling settings).instanceTypeOptions = n.instanceTypeOptions ∧
      (n.finalizeScheduling settings).requirements = n.injectReservations settings := by
  unfold NodeClaim.finalizeScheduling NodeClaim.addDaemonRequests
  split <;> exact ⟨rfl, rfl⟩

/-- Packing leaves every option an offering with room, whatever reservations are held. -/
theorem launchable_of_packs {settings : Settings} {template : NodeClaimTemplate} {daemons : Daemons}
    {its : List InstanceType} {mode : ReservedOfferingMode} {credit : Map String Int} {hostname : String}
    {placed : List Placement} {n : NodeClaim} (run : Packs settings (newNodeClaim template
      (daemons.buildDaemonOverheadGroups template.instanceTypeOptions) its mode credit hostname) placed n)
    (nonempty : placed ≠ []) : Launchable settings daemons template placed n := by
  obtain ⟨it, member⟩ := List.exists_mem_of_ne_nil _ (run.nonempty nonempty)
  obtain ⟨group, inGroups, inGroup, allocatable, inList, o, inAllocatable, inOfferings, available, compatible,
    fit⟩ := run.room rfl rfl nonempty member
  rw [InstanceType.allocatable_of_mem inList inAllocatable] at fit
  exact ⟨it, member, o, inOfferings, ⟨available, group, inGroups, inGroup, fit⟩, compatible⟩

/-- A finalized NodeClaim can be launched for its pods exactly when it holds no reservation or a held one
has room. -/
theorem finalized_launchable_iff {settings : Settings} {template : NodeClaimTemplate} {daemons : Daemons}
    {its : List InstanceType} {mode : ReservedOfferingMode} {credit : Map String Int} {hostname : String}
    {placed : List Placement} {n : NodeClaim} (label : ReservationLabel settings.toRegistry)
    (contract : ∀ it ∈ its, ∀ o ∈ it.offerings, OfferingContract settings.toRegistry o)
    (run : Packs settings (newNodeClaim template
      (daemons.buildDaemonOverheadGroups template.instanceTypeOptions) its mode credit hostname) placed n)
    (nonempty : placed ≠ []) : Launchable settings daemons template placed (n.finalizeScheduling settings) ↔
      HeldRoom settings daemons template placed n := by
  obtain ⟨options, requirements⟩ := finalizeScheduling_fields settings n
  unfold Launchable
  rw [options, requirements]
  have contracts : ∀ it ∈ n.instanceTypeOptions, ∀ o ∈ it.offerings, OfferingContract settings.toRegistry o :=
    fun it member => contract it (run.options member)
  by_cases none : n.reservedOfferings = []
  · refine ⟨fun _ => .inl none, fun _ => ?_⟩
    obtain ⟨it, member, o, offered, roomy, compatible⟩ := launchable_of_packs run nonempty
    exact ⟨it, member, o, offered, roomy,
      (isCompatible_without_hostname (contracts it member o offered) none).mpr compatible⟩
  · obtain ⟨h, held⟩ := List.exists_mem_of_ne_nil _ none
    obtain ⟨⟨holder, inOptions, inHolder⟩, -, reserved, compatible⟩ := run.reserved rfl held
    have same : ∀ it ∈ n.instanceTypeOptions, ∀ o ∈ it.offerings, _ := fun it member o offered =>
      isCompatible_injectReservations label (contracts it member o offered)
        (contracts holder inOptions h inHolder) reserved held compatible
    constructor
    · rintro ⟨it, member, o, offered, roomy, accepted⟩
      exact .inr ⟨it, member, o, offered, roomy, (same it member o offered).mp accepted⟩
    · rintro (impossible | ⟨it, member, o, offered, roomy, accepted⟩)
      · exact absurd impossible none
      · exact ⟨it, member, o, offered, roomy, (same it member o offered).mpr accepted⟩

instance (daemons : Daemons) (template : NodeClaimTemplate) (placed : List Placement) (it : InstanceType)
    (o : Offering) : Decidable (Roomy daemons template placed it o) := by
  unfold Roomy
  infer_instance

instance (settings : Settings) (daemons : Daemons) (template : NodeClaimTemplate) (placed : List Placement)
    (n : NodeClaim) : Decidable (Launchable settings daemons template placed n) := by
  unfold Launchable
  infer_instance

def reservationSettings : Settings := untolerating {capacityTypeLabelKey, "reservation-id"} "reservation-id"

/-- Four cores on demand, of which the reservation `r` has two. -/
def reservationType : InstanceType where
  name := "large"
  requirements := Requirements.empty
  offerings := [
    { requirements := Requirements.newRequirements
        [newRequirement capacityTypeLabelKey .opIn [capacityTypeOnDemand]]
      price := 2 },
    { requirements := Requirements.newRequirements
        [newRequirement capacityTypeLabelKey .opIn [capacityTypeReserved],
          newRequirement "reservation-id" .opIn ["r"]]
      price := 0
      reservationCapacity := 1
      capacityOverride := AList.insert "cpu" 2 ∅ }]
  capacity := AList.insert "cpu" 4 ∅
  nonneg := Resources.nonneg_single "cpu" zero_le_four

def noDaemons : Daemons where
  pods := []
  runsOn := fun _ _ => false
  requestsFor := fun _ => ∅

def reservationTemplate : NodeClaimTemplate where
  nodePoolName := "default"
  instanceTypeOptions := [reservationType]

def reservationNodeClaim : NodeClaim :=
  newNodeClaim reservationTemplate (noDaemons.buildDaemonOverheadGroups [reservationType]) [reservationType]
    .fallback ∅ "host"

def corePlacement (cores : ℚ) : Placement where
  pod := { key := ⟨"default", "web"⟩ }
  podData :=
    { requests := AList.insert "cpu" cores ∅
      requirements := Requirements.empty
      strictRequirements := Requirements.empty }

def reservationManager : ReservationManager :=
  newReservationManager reservationSettings.toRegistry (AList.insert "default" [reservationType] ∅)

/-- The NodeClaim with a pod that asks for the given cores. -/
def reservationPlaced (cores : ℚ) : NodeClaim :=
  (reservationNodeClaim.place reservationSettings reservationManager unconstrained (corePlacement cores)
    false).getD reservationNodeClaim

theorem finalized_launchable_two_cores : Launchable reservationSettings noDaemons reservationTemplate [corePlacement 2]
      ((reservationPlaced 2).finalizeScheduling reservationSettings) := by
  have label : ReservationLabel reservationSettings.toRegistry := ⟨by decide, by decide, by decide⟩
  have contract : ∀ it ∈ [reservationType], ∀ o ∈ it.offerings, OfferingContract reservationSettings.toRegistry o := by
    intro it member o offered
    obtain rfl := List.mem_singleton.mp member
    rcases List.mem_cons.mp offered with rfl | reserved
    · exact ⟨⟨_, rfl, rfl, rfl⟩, fun reserved => absurd reserved (by decide), rfl⟩
    · obtain rfl := List.mem_singleton.mp reserved
      exact ⟨⟨_, rfl, rfl, rfl⟩, fun _ => ⟨_, rfl, rfl, rfl⟩, rfl⟩
  have run : Packs reservationSettings reservationNodeClaim [corePlacement 2] (reservationPlaced 2) :=
    Packs.start.placed (by decide +kernel)
  refine (finalized_launchable_iff label contract run (by simp)).mpr (.inr ?_)
  decide +kernel

/-- Three cores fit the instance type on demand, but the NodeClaim is finalized onto the reservation. -/
theorem finalized_not_launchable_three_cores :
    Packs reservationSettings reservationNodeClaim [corePlacement 3] (reservationPlaced 3) ∧
    ¬ Launchable reservationSettings noDaemons reservationTemplate [corePlacement 3]
      ((reservationPlaced 3).finalizeScheduling reservationSettings) :=
  ⟨Packs.start.placed (by decide +kernel), by decide +kernel⟩

end Karpenter.Provisioning
