import Karpenter.Provisioning.Finalize
import Karpenter.Provisioning.Reservations

/-! Reservations shared by several NodeClaims. What a reservation has left and the NodeClaims that hold it
always add up to its initial capacity and its credit, so no NodeClaim is finalized onto capacity that is not
there. A pod is added with what the NodeClaim answered in the same state of the manager, as the scheduler
does it: asking changes nothing, and nothing is added in between. -/
namespace Karpenter.Provisioning

open Go (Map)
open CloudProvider
open Scheduling

theorem canReserve_of_grantable (ok : grantable registry rm hostname ofs = some granted) :
    ∀ o ∈ granted, rm.canReserve registry hostname o = some true := by
  induction ofs generalizing granted with
  | nil =>
    cases ok
    simp
  | cons o rest ih =>
    rw [grantable] at ok
    split at ok
    · rename_i accepted others first later
      cases ok
      split
      · rename_i yes
        exact List.forall_mem_cons.mpr ⟨yes ▸ first, ih later⟩
      · exact ih later
    · cases ok

namespace ReservationManager

variable {rm : ReservationManager}

def Nonneg (rm : ReservationManager) : Prop := ∀ id, 0 ≤ rm.remaining id

/-- A host can have an offering that it holds already or of which something is left. -/
def Grants (registry : Registry) (rm : ReservationManager) (hostname : String) (o : Offering) : Prop :=
  o.reservationID registry ∈ rm.held hostname ∨ 0 < rm.remaining (o.reservationID registry)

theorem grants_of_canReserve (nonneg : rm.Nonneg) (can : rm.canReserve registry hostname o = some true) :
    rm.Grants registry hostname o := by
  rw [canReserve] at can
  split at can
  · exact .inl (hasReservation_iff.mp ‹_›)
  · right
    obtain ⟨capacity, found, positive⟩ := Option.map_eq_some_iff.mp can
    have bound := nonneg (o.reservationID registry)
    have apart := of_decide_eq_true positive
    simp only [remaining, found, Option.getD_some] at bound ⊢
    omega

theorem remaining_hold (rm : ReservationManager) (hostname id other : String) (ids : Finset String) (left : Int) :
    (rm.hold hostname id ids left).remaining other = if other = id then left else rm.remaining other := by
  rw [remaining, hold, Map.lookup_insert_eq]
  split <;> rfl

theorem reserve_total (nonneg : rm.Nonneg) (granted : ∀ o ∈ ofs, rm.Grants registry hostname o) :
    ∃ after, reserve registry hostname rm ofs = some after ∧ after.Nonneg := by
  induction ofs generalizing rm with
  | nil => exact ⟨rm, rfl, nonneg⟩
  | cons o rest ih =>
    obtain ⟨first, later⟩ := List.forall_mem_cons.mp granted
    rw [reserve]
    split
    · exact ih nonneg later
    · rename_i missing
      have left : 0 < rm.remaining (o.reservationID registry) :=
        first.resolve_left fun inHeld => missing (hasReservation_iff.mpr inHeld)
      rw [if_neg (by rw [← remaining]; omega)]
      show ∃ after, reserve registry hostname (rm.hold hostname (o.reservationID registry)
        (insert (o.reservationID registry) (rm.held hostname))
        (rm.remaining (o.reservationID registry) - 1)) rest = some after ∧ after.Nonneg
      apply ih
      · intro id
        rw [remaining_hold]
        split
        · omega
        · exact nonneg id
      · intro other member
        rw [Grants, held_hold, remaining_hold]
        by_cases same : other.reservationID registry = o.reservationID registry
        · exact .inl (same ▸ Finset.mem_insert_self _ _)
        · rw [if_neg same]
          exact (later other member).imp_left (Finset.mem_insert_of_mem ·)

theorem release_nonneg (nonneg : rm.Nonneg) (ofs : List Offering) : (rm.release registry hostname ofs).Nonneg := by
  refine List.foldlRecOn ofs _ nonneg fun rm nonneg o _ => ?_
  split
  · intro id
    show 0 ≤ (rm.hold hostname (o.reservationID registry) _ (rm.remaining (o.reservationID registry) + 1)).remaining id
    rw [remaining_hold]
    split
    · have bound := nonneg (o.reservationID registry)
      omega
    · exact nonneg id
  · exact nonneg

/-- All credits of a loop. -/
def creditAll (rm : ReservationManager) (credits : Map String Int) : ReservationManager :=
  credits.entries.foldl (fun rm entry => rm.credit entry.1 entry.2) rm

def known (rm : ReservationManager) (id : String) : Bool := (rm.capacity.lookup id).isSome

theorem lookup_credit (rm : ReservationManager) (id other : String) (count : Int) :
    (rm.credit id count).capacity.lookup other =
      if other = id then (rm.capacity.lookup id).map (· + count) else rm.capacity.lookup other := by
  rw [credit]
  split
  · rename_i unknown
    split
    · rename_i same
      rw [same, unknown]
      rfl
    · rfl
  · rename_i capacity found
    rw [Map.lookup_insert_eq, found]
    rfl

theorem held_credit (rm : ReservationManager) (id other : String) (count : Int) :
    (rm.credit id count).held other = rm.held other := by
  rw [credit]
  split <;> rfl

theorem held_creditAll (rm : ReservationManager) (credits : Map String Int) (hostname : String) :
    (rm.creditAll credits).held hostname = rm.held hostname := by
  rw [creditAll]
  exact List.foldlRecOn (motive := fun after : ReservationManager => after.held hostname = rm.held hostname) _ _ rfl
    fun _ same _ _ => (held_credit ..).trans same

/-- A reservation that the manager knows is credited once, any other one not at all. -/
theorem remaining_creditAll (rm : ReservationManager) (credits : Map String Int) (id : String) :
    (rm.creditAll credits).remaining id =
      rm.remaining id + if rm.known id = true then (credits.lookup id).getD 0 else 0 := by
  have general : ∀ (entries : List (Sigma fun _ : String => Int)) (rm : ReservationManager), entries.NodupKeys →
      (entries.foldl (fun rm entry => rm.credit entry.1 entry.2) rm).capacity.lookup id =
        (rm.capacity.lookup id).map (· + (entries.dlookup id).getD 0) := by
    intro entries
    induction entries with
    | nil => simp
    | cons entry rest ih =>
      obtain ⟨key, count⟩ := entry
      intro rm distinct
      obtain ⟨absent, distinct'⟩ := List.nodupKeys_cons.mp distinct
      rw [List.foldl_cons, ih _ distinct', lookup_credit]
      split
      · rename_i same
        subst same
        rw [List.dlookup_eq_none.mpr absent, List.dlookup_cons_eq]
        cases rm.capacity.lookup id <;> simp
      · rename_i other
        rw [List.dlookup_cons_ne _ _ other]
  rw [remaining, creditAll, general _ rm credits.nodupKeys, remaining, known]
  cases rm.capacity.lookup id with
  | none => rfl
  | some capacity => simp [AList.lookup]

end ReservationManager

/-- NodeClaims that draw on one manager. -/
structure Shared where
  claims : List NodeClaim
  reservationManager : ReservationManager

namespace Shared

/-- Some pod is added to some NodeClaim. -/
inductive Step (settings : Settings) : Shared → Shared → Prop where
  | place {before later : List NodeClaim} {n next : NodeClaim} {rm after : ReservationManager}
      {collaborators : Collaborators} {pod : Pod} {podData : PodData} {volumes : Volumes}
      {relaxMinValues : Bool} {result : CanAddResult}
      (accepted : n.canAdd settings rm collaborators pod podData volumes relaxMinValues = some (.ok result))
      (added : n.add settings rm pod podData volumes result = some (next, after)) :
      Step settings ⟨before ++ n :: later, rm⟩ ⟨before ++ next :: later, after⟩

def Reaches (settings : Settings) : Shared → Shared → Prop := Relation.ReflTransGen (Step settings)

/-- How many NodeClaims hold a reservation. -/
def holders (s : Shared) (id : String) : Nat :=
  s.claims.countP fun n => decide (id ∈ s.reservationManager.held n.hostname)

structure Conserved (settings : Settings) (total : String → Int) (s : Shared) : Prop where
  distinct : (s.claims.map (·.hostname)).Nodup
  holds : ∀ n ∈ s.claims, s.reservationManager.held n.hostname =
    reservationIDs settings.toRegistry n.reservedOfferings
  conserved : ∀ id, s.reservationManager.remaining id + s.holders id = total id
  nonneg : s.reservationManager.Nonneg

section Invariant

variable {total : String → Int}

theorem offeringsToReserve_granted {n : NodeClaim} (nonneg : rm.Nonneg)
    (ok : n.offeringsToReserve settings rm its requirements = some (.ok ofs)) :
    ∀ o ∈ ofs, rm.Grants settings.toRegistry n.hostname o := by
  simp only [NodeClaim.offeringsToReserve] at ok
  split at ok
  · cases ok
    simp
  · split at ok
    · cases ok
    · rename_i granted found
      have same : granted = ofs := by
        repeat' split at ok
        all_goals cases ok
        rfl
      subst same
      exact fun o member => ReservationManager.grants_of_canReserve nonneg (canReserve_of_grantable found o member)

/-- What was offered by `CanAdd` can be reserved. -/
theorem add_total {n : NodeClaim} (nonneg : rm.Nonneg)
    (accepted : n.canAdd settings rm collaborators pod podData volumes relaxMinValues = some (.ok result)) :
    ∃ next after, n.add settings rm pod podData volumes result = some (next, after) ∧ after.Nonneg := by
  have granted := offeringsToReserve_granted nonneg (NodeClaim.canAdd_spec accepted).reserves
  obtain ⟨reserved, ok, bounded⟩ := ReservationManager.reserve_total nonneg granted
  rw [NodeClaim.add, ok]
  exact ⟨_, _, rfl, ReservationManager.release_nonneg bounded _⟩

theorem Conserved.step (invariant : Conserved settings total s) (step : Step settings s next) :
    Conserved settings total next := by
  cases step with
  | @place before later n placed rm after _ _ _ _ _ result accepted added =>
    obtain ⟨distinct, holds, conserved, nonneg⟩ := invariant
    dsimp only [holders] at distinct holds conserved nonneg
    have mine := holds n (by simp)
    obtain ⟨same, heldAfter⟩ := NodeClaim.add_reservations mine added
    obtain ⟨_, _, again, bounded⟩ := add_total nonneg accepted
    rw [added] at again
    cases again
    have shape := NodeClaim.add_spec added
    have hostname : placed.hostname = n.hostname := by rw [shape]
    have elsewhere : ∀ m ∈ before ++ later, m.hostname ≠ n.hostname := by
      intro m member equal
      simp only [List.map_append, List.map_cons, List.nodup_append, List.nodup_cons, List.mem_map,
        List.mem_cons] at distinct
      rcases List.mem_append.mp member with early | late
      · exact distinct.2.2 m.hostname ⟨m, early, rfl⟩ n.hostname (.inl rfl) equal
      · exact distinct.2.1.1 ⟨m, late, equal⟩
    constructor
    · simpa [hostname] using distinct
    · intro m member
      rcases List.mem_append.mp member with early | rest
      · rw [same.others _ (elsewhere m (List.mem_append_left _ early))]
        exact holds m (List.mem_append_left _ early)
      · rcases List.mem_cons.mp rest with rfl | late
        · rw [hostname, heldAfter, shape]
        · rw [same.others _ (elsewhere m (List.mem_append_right _ late))]
          exact holds m (List.mem_append_right _ (List.mem_cons_of_mem _ late))
    · intro id
      rw [← conserved id]
      have unchanged : ∀ claims, claims ⊆ before ++ later →
          claims.countP (fun m => decide (id ∈ after.held m.hostname)) =
            claims.countP fun m => decide (id ∈ rm.held m.hostname) := by
        intro claims subset
        apply List.countP_congr
        intro m member
        rw [same.others _ (elsewhere m (subset member))]
      have balance := same.balance id
      simp only [ReservationManager.balance] at balance
      simp only [holders, List.countP_append, List.countP_cons, hostname, decide_eq_true_eq]
      rw [unchanged before (List.subset_append_left _ _), unchanged later (List.subset_append_right _ _)]
      push_cast
      split_ifs at balance ⊢ <;> omega
    · exact bounded

theorem Conserved.reaches (invariant : Conserved settings total start) (run : Reaches settings start s) :
    Conserved settings total s := by
  induction run with
  | refl => exact invariant
  | tail _ step ih => exact ih.step step

end Invariant

/-- A finalized NodeClaim that can be launched into the reservation. -/
def finalizedOnto (settings : Settings) (id : String) (n : NodeClaim) : Bool :=
  !n.reservedOfferings.isEmpty &&
    ((n.finalizeScheduling settings).requirements.get settings.reservationIDLabel).has id

theorem mem_reservationIDs_of_finalizedOnto {settings : Settings} {id : String}
    (label : ReservationLabel settings.toRegistry) (onto : finalizedOnto settings id n = true) :
    id ∈ reservationIDs settings.toRegistry n.reservedOfferings := by
  simp only [finalizedOnto, Bool.and_eq_true, Bool.not_eq_true', List.isEmpty_eq_false_iff] at onto
  obtain ⟨held, admitted⟩ := onto
  have found := get?_injectReservations label held settings.reservationIDLabel
  rw [if_pos rfl] at found
  rw [(finalizeScheduling_fields settings n).2, Requirements.get_of_get? _ found] at admitted
  exact List.mem_toFinset.mpr (has_merge_in.mp admitted).1

theorem newReservationManager_nonneg (capacities : ∀ o ∈ reservedOfferingsOf instanceTypes, 0 ≤ o.reservationCapacity) :
    (newReservationManager registry instanceTypes).Nonneg := by
  obtain ⟨step, built, each⟩ := capacity_newReservationManager registry instanceTypes
  intro id
  rw [ReservationManager.remaining, built]
  refine List.foldlRecOn (motive := fun capacity => 0 ≤ (capacity.lookup id).getD 0) _ step ?_
    fun capacity bounded o listed => ?_
  · exact le_rfl
  rcases each capacity o with entered | ⟨kept, _⟩
  · rw [entered, Map.lookup_insert_eq]
    split
    · exact capacities o listed
    · exact bounded
  · rw [kept]
    exact bounded

/-- The capacity of a reservation at the start of a loop: what the offerings report, and the credit of a
reservation that they know. -/
def initialCapacity (registry : Registry) (instanceTypes : Map String (List InstanceType))
    (credits : Map String Int) (id : String) : Int :=
  (newReservationManager registry instanceTypes).remaining id +
    if (newReservationManager registry instanceTypes).known id = true then (credits.lookup id).getD 0 else 0

theorem Conserved.initially {settings : Settings} {credits : Map String Int} {claims : List NodeClaim}
    (capacities : ∀ o ∈ reservedOfferingsOf instanceTypes, 0 ≤ o.reservationCapacity)
    (credited : ∀ id, 0 ≤ (credits.lookup id).getD 0) (distinct : (claims.map (·.hostname)).Nodup)
    (fresh : ∀ n ∈ claims, n.reservedOfferings = []) :
    Conserved settings (initialCapacity settings.toRegistry instanceTypes credits)
      ⟨claims, (newReservationManager settings.toRegistry instanceTypes).creditAll credits⟩ := by
  have unheld : ∀ hostname, ((newReservationManager settings.toRegistry instanceTypes).creditAll credits).held
      hostname = ∅ := by
    intro hostname
    rw [ReservationManager.held_creditAll]
    rfl
  constructor
  · exact distinct
  · intro n member
    rw [unheld, fresh n member]
    rfl
  · intro id
    simp [holders, unheld, ReservationManager.remaining_creditAll, initialCapacity]
  · intro id
    have base : 0 ≤ (newReservationManager settings.toRegistry instanceTypes).remaining id :=
      newReservationManager_nonneg capacities id
    have bonus := credited id
    rw [ReservationManager.remaining_creditAll]
    split <;> omega

/-- In every run over NodeClaims that share a manager, reservations are conserved, nothing is reserved that
is not there, and no more NodeClaims are finalized onto a reservation than it has capacity. -/
theorem reservations_conserved {settings : Settings} {instanceTypes : Map String (List InstanceType)}
    {credits : Map String Int} {claims : List NodeClaim} {s : Shared}
    (capacities : ∀ o ∈ reservedOfferingsOf instanceTypes, 0 ≤ o.reservationCapacity)
    (credited : ∀ id, 0 ≤ (credits.lookup id).getD 0) (label : ReservationLabel settings.toRegistry)
    (distinct : (claims.map (·.hostname)).Nodup) (fresh : ∀ n ∈ claims, n.reservedOfferings = [])
    (run : Reaches settings
      ⟨claims, (newReservationManager settings.toRegistry instanceTypes).creditAll credits⟩ s) :
    (∀ id, s.reservationManager.remaining id + s.holders id =
      initialCapacity settings.toRegistry instanceTypes credits id) ∧
    (∀ n ∈ s.claims, s.reservationManager.held n.hostname =
      reservationIDs settings.toRegistry n.reservedOfferings) ∧ (∀ id, 0 ≤ s.reservationManager.remaining id) ∧
    (∀ n ∈ s.claims, ∀ collaborators pod podData volumes relaxMinValues result,
      n.canAdd settings s.reservationManager collaborators pod podData volumes relaxMinValues =
        some (.ok result) →
      (n.add settings s.reservationManager pod podData volumes result).isSome = true) ∧
    ∀ id, (s.claims.countP (finalizedOnto settings id) : Int) ≤
      initialCapacity settings.toRegistry instanceTypes credits id := by
  have invariant := (Conserved.initially capacities credited distinct fresh).reaches run
  refine ⟨invariant.conserved, invariant.holds, invariant.nonneg, ?_, ?_⟩
  · intro n _ collaborators pod podData volumes relaxMinValues result accepted
    obtain ⟨next, after, added, -⟩ := add_total invariant.nonneg accepted
    rw [added]
    rfl
  · intro id
    have fewer : s.claims.countP (finalizedOnto settings id) ≤ s.holders id := by
      apply List.countP_mono_left
      intro n member onto
      rw [decide_eq_true_eq, invariant.holds n member]
      exact mem_reservationIDs_of_finalizedOnto label onto
    have conserved := invariant.conserved id
    have nonneg := invariant.nonneg id
    omega

/-- A pod added to the first NodeClaim. -/
def placeFirst (settings : Settings) (n : NodeClaim) (later : List NodeClaim) (rm : ReservationManager)
    (p : Placement) : Option Shared :=
  match n.canAdd settings rm unconstrained p.pod p.podData p.volumes false with
  | some (.ok result) => (n.add settings rm p.pod p.podData p.volumes result).map fun (next, after) =>
      ⟨next :: later, after⟩
  | _ => none

theorem step_of_placeFirst (ok : placeFirst settings n later rm p = some next) : Step settings ⟨n :: later, rm⟩ next := by
  rw [placeFirst] at ok
  split at ok
  · rename_i result accepted
    obtain ⟨⟨placed, after⟩, added, rfl⟩ := Option.map_eq_some_iff.mp ok
    show Step settings ⟨[] ++ n :: later, rm⟩ ⟨[] ++ placed :: later, after⟩
    exact .place accepted added
  · cases ok

/-- Two NodeClaims and a reservation for one instance, of which the first NodeClaim has taken it. -/
def pairAfterOne : Shared :=
  (placeFirst reservationSettings reservationNodeClaim [{ reservationNodeClaim with hostname := "other" }]
    (Provisioning.reservationManager.creditAll ∅) (corePlacement 1)).getD ⟨[], {}⟩

theorem reservations_conserved_pair : pairAfterOne.reservationManager.remaining "r" + pairAfterOne.holders "r" = 1 ∧
      pairAfterOne.holders "r" = 1 ∧
      (pairAfterOne.claims.countP (finalizedOnto reservationSettings "r") : Int) ≤ 1 := by
  have label : ReservationLabel reservationSettings.toRegistry := ⟨by decide, by decide, by decide⟩
  have placed : placeFirst reservationSettings reservationNodeClaim
      [{ reservationNodeClaim with hostname := "other" }] (Provisioning.reservationManager.creditAll ∅)
      (corePlacement 1) = some pairAfterOne := by
    have found : (placeFirst reservationSettings reservationNodeClaim
        [{ reservationNodeClaim with hostname := "other" }] (Provisioning.reservationManager.creditAll ∅)
        (corePlacement 1)).isSome = true := by decide +kernel
    obtain ⟨next, ok⟩ := Option.isSome_iff_exists.mp found
    rw [pairAfterOne, ok, Option.getD_some]
  have capacity : initialCapacity reservationSettings.toRegistry (AList.insert "default" [reservationType] ∅) ∅ "r" = 1 := by
    decide +kernel
  obtain ⟨conserved, -, -, -, bounded⟩ := reservations_conserved (by decide) (by simp) label (by decide) (by decide)
    (Relation.ReflTransGen.single (step_of_placeFirst placed))
  refine ⟨(conserved "r").trans capacity, by decide +kernel, (bounded "r").trans_eq capacity⟩

end Shared

end Karpenter.Provisioning
