import Karpenter.Provisioning.Limits

/-! Reservations change hands without getting lost: for one host, what a reservation has left plus what the
host holds of it is the same before and after every placement on a NodeClaim of that host, and no other
host is affected. -/
namespace Karpenter.Provisioning

open Go (Map)
open CloudProvider
open Scheduling

def reservationIDs (registry : Registry) (ofs : List Offering) : Finset String :=
  (ofs.map (·.reservationID registry)).toFinset

theorem reservationIDs_cons (registry : Registry) (o : Offering) (rest : List Offering) :
    reservationIDs registry (o :: rest) = insert (o.reservationID registry) (reservationIDs registry rest) :=
  List.toFinset_cons

namespace ReservationManager

variable (rm : ReservationManager)

def held (hostname : String) : Finset String :=
  (rm.reservations.lookup hostname).getD ∅

def remaining (id : String) : Int := (rm.capacity.lookup id).getD 0

/-- What is left of a reservation together with what a host holds of it. -/
def balance (hostname id : String) : Int :=
  rm.remaining id + if id ∈ rm.held hostname then 1 else 0

/-- Another state of the manager that differs in what one host holds only. -/
structure SameBalance (hostname : String) (rm after : ReservationManager) : Prop where
  balance : ∀ id, after.balance hostname id = rm.balance hostname id
  others : ∀ other ≠ hostname, after.held other = rm.held other

theorem SameBalance.refl (hostname : String) (rm : ReservationManager) : SameBalance hostname rm rm :=
  ⟨fun _ => rfl, fun _ _ => rfl⟩

theorem SameBalance.trans {rm middle after : ReservationManager} (first : SameBalance hostname rm middle)
    (second : SameBalance hostname middle after) : SameBalance hostname rm after := by
  constructor
  · intro id
    rw [second.balance, first.balance]
  · intro other different
    rw [second.others other different, first.others other different]

/-- The manager after a host took or gave back one reservation. -/
def hold (hostname id : String) (ids : Finset String) (left : Int) : ReservationManager where
  reservations := rm.reservations.insert hostname ids
  capacity := rm.capacity.insert id left

theorem held_hold (hostname id : String) (ids : Finset String) (left : Int) :
    (rm.hold hostname id ids left).held hostname = ids := by
  simp [held, hold]

theorem sameBalance_hold {rm : ReservationManager} {hostname id : String}
    (balanced : left + (if id ∈ ids then 1 else 0) = rm.balance hostname id)
    (elsewhere : ∀ other ≠ id, other ∈ ids ↔ other ∈ rm.held hostname) :
    SameBalance hostname rm (rm.hold hostname id ids left) := by
  constructor
  · intro other
    by_cases same : other = id
    · subst same
      rw [← balanced, balance, held_hold]
      simp [remaining, hold]
    · rw [balance, balance, held_hold, remaining, remaining, hold, AList.lookup_insert_ne same]
      simp only [elsewhere other same]
  · intro other different
    simp only [held, hold, AList.lookup_insert_ne different]

section Spec

variable {rm after : ReservationManager}

theorem hasReservation_iff :
    rm.hasReservation registry hostname o = true ↔ o.reservationID registry ∈ rm.held hostname :=
  decide_eq_true_iff

theorem reserve_spec (ok : reserve registry hostname rm ofs = some after) :
    SameBalance hostname rm after ∧ after.held hostname = rm.held hostname ∪ reservationIDs registry ofs := by
  induction ofs generalizing rm with
  | nil =>
    cases ok
    exact ⟨SameBalance.refl _ _, by simp [reservationIDs]⟩
  | cons o rest ih =>
    rw [reserve] at ok
    split at ok
    · rename_i already
      obtain ⟨same, grown⟩ := ih ok
      refine ⟨same, ?_⟩
      rw [grown, reservationIDs_cons, Finset.union_insert, Finset.insert_eq_of_mem]
      exact Finset.mem_union_left _ (hasReservation_iff.mp already)
    · rename_i missing
      dsimp only at ok
      split at ok
      · cases ok
      · have absent := mt hasReservation_iff.mpr missing
        have step : SameBalance hostname rm (rm.hold hostname (o.reservationID registry)
            (insert (o.reservationID registry) (rm.held hostname)) (rm.remaining (o.reservationID registry) - 1)) := by
          apply sameBalance_hold
          · simp [balance, absent]
          · intro other different
            simp [different]
        obtain ⟨same, grown⟩ := ih ok
        refine ⟨step.trans same, grown.trans ?_⟩
        show held (rm.hold hostname _ _ _) hostname ∪ _ = _
        rw [held_hold, reservationIDs_cons, Finset.union_insert]
        exact Finset.insert_union _ _ _

theorem release_spec (registry : Registry) (hostname : String) (rm : ReservationManager) (ofs : List Offering) :
    SameBalance hostname rm (rm.release registry hostname ofs) ∧
    (rm.release registry hostname ofs).held hostname = rm.held hostname \ reservationIDs registry ofs := by
  induction ofs generalizing rm with
  | nil => exact ⟨SameBalance.refl _ _, by simp [release, reservationIDs]⟩
  | cons o rest ih =>
    rw [release, List.foldl_cons]
    split
    · rename_i already
      have inHeld := hasReservation_iff.mp already
      have step : SameBalance hostname rm (rm.hold hostname (o.reservationID registry)
          ((rm.held hostname).erase (o.reservationID registry)) (rm.remaining (o.reservationID registry) + 1)) := by
        apply sameBalance_hold
        · simp [balance, inHeld]
        · intro other different
          simp [different]
      obtain ⟨same, shrunk⟩ := ih (rm.hold hostname (o.reservationID registry)
        ((rm.held hostname).erase (o.reservationID registry)) (rm.remaining (o.reservationID registry) + 1))
      refine ⟨step.trans same, shrunk.trans ?_⟩
      rw [held_hold, reservationIDs_cons, Finset.erase_sdiff_comm, Finset.sdiff_insert]
    · rename_i missing
      obtain ⟨same, shrunk⟩ := ih rm
      refine ⟨same, shrunk.trans ?_⟩
      rw [reservationIDs_cons, Finset.sdiff_insert_of_notMem (mt hasReservation_iff.mpr missing)]

end Spec

end ReservationManager

/-- After a placement the host of the NodeClaim holds exactly the reservations of its new offerings. -/
theorem NodeClaim.add_reservations {settings : Settings} {n next : NodeClaim} {rm after : ReservationManager}
    {pod : Pod} {podData : PodData} {volumes : Volumes} {result : CanAddResult}
    (mine : rm.held n.hostname = reservationIDs settings.toRegistry n.reservedOfferings)
    (ok : n.add settings rm pod podData volumes result = some (next, after)) :
    ReservationManager.SameBalance n.hostname rm after ∧
      after.held n.hostname = reservationIDs settings.toRegistry result.offeringsToReserve := by
  simp only [add] at ok
  split at ok
  · cases ok
  · rename_i reserved granted
    cases ok
    obtain ⟨taken, union⟩ := ReservationManager.reserve_spec granted
    obtain ⟨given, difference⟩ := ReservationManager.release_spec settings.toRegistry n.hostname reserved
      (n.reservedOfferings.filter fun o => decide (o.reservationID settings.toRegistry ∉
        result.offeringsToReserve.map (·.reservationID settings.toRegistry)))
    refine ⟨taken.trans given, difference.trans ?_⟩
    rw [union, mine]
    ext id
    simp only [reservationIDs, Finset.mem_sdiff, Finset.mem_union, List.mem_toFinset, List.mem_map,
      List.mem_filter, decide_eq_true_eq]
    grind

def allInstanceTypes (instanceTypes : Map String (List InstanceType)) : List InstanceType :=
  instanceTypes.entries.flatMap Sigma.snd

/-- The reserved offerings of all instance types, from which the manager is set up. -/
def reservedOfferingsOf (instanceTypes : Map String (List InstanceType)) : List Offering :=
  ((allInstanceTypes instanceTypes).flatMap (·.offerings)).filter fun o =>
    o.capacityType = capacityTypeReserved

/-- Offerings of one reservation report one capacity. -/
def SameCapacity (registry : Registry) (instanceTypes : Map String (List InstanceType)) : Prop :=
  ∀ a ∈ reservedOfferingsOf instanceTypes, ∀ b ∈ reservedOfferingsOf instanceTypes,
    a.reservationID registry = b.reservationID registry → a.reservationCapacity = b.reservationCapacity

/-- An offering enters its capacity, unless its reservation is there with no more than that. -/
theorem capacity_newReservationManager (registry : Registry) (instanceTypes : Map String (List InstanceType)) :
    ∃ step : Map String Int → Offering → Map String Int,
      (newReservationManager registry instanceTypes).capacity = (reservedOfferingsOf instanceTypes).foldl step ∅ ∧
      ∀ capacity o,
        step capacity o = capacity.insert (o.reservationID registry) o.reservationCapacity ∨
        step capacity o = capacity ∧ (capacity.lookup (o.reservationID registry)).isSome = true := by
  refine ⟨_, rfl, fun capacity o => ?_⟩
  split
  · exact .inl rfl
  · rename_i found
    split
    · exact .inl rfl
    · exact .inr ⟨rfl, by rw [found]; rfl⟩

theorem lookup_newReservationManager (same : SameCapacity registry instanceTypes)
    (member : o ∈ reservedOfferingsOf instanceTypes) :
    (newReservationManager registry instanceTypes).capacity.lookup (o.reservationID registry) =
      some o.reservationCapacity := by
  obtain ⟨step, built, each⟩ := capacity_newReservationManager registry instanceTypes
  -- Every entry the loop has written agrees with the offerings of its reservation, so none is overwritten
  -- by another value.
  let Agrees (capacity : Map String Int) := ∀ o ∈ reservedOfferingsOf instanceTypes, ∀ current,
    capacity.lookup (o.reservationID registry) = some current → current = o.reservationCapacity
  have entered {capacity : Map String Int} (agrees : Agrees capacity) {first : Offering}
      (known : first ∈ reservedOfferingsOf instanceTypes) (id : String) : (step capacity first).lookup id =
        if id = first.reservationID registry then some first.reservationCapacity else capacity.lookup id := by
    rcases each capacity first with entered | ⟨kept, found⟩
    · rw [entered, Map.lookup_insert_eq]
    · obtain ⟨current, found⟩ := Option.isSome_iff_exists.mp found
      rw [kept]
      split
      · rename_i here
        rw [here, found, agrees first known current found]
      · rfl
  have general (ofs : List Offering) (capacity : Map String Int) (known : ofs ⊆ reservedOfferingsOf instanceTypes)
      (agrees : Agrees capacity) : Agrees (ofs.foldl step capacity) ∧ ∀ o : Offering,
        o ∈ ofs ∨ (capacity.lookup (o.reservationID registry)).isSome = true →
          ((ofs.foldl step capacity).lookup (o.reservationID registry)).isSome = true := by
    induction ofs generalizing capacity with
    | nil => exact ⟨agrees, fun o present => present.resolve_left List.not_mem_nil⟩
    | cons first rest ih =>
      obtain ⟨firstKnown, restKnown⟩ := List.cons_subset.mp known
      have lookups := entered agrees firstKnown
      obtain ⟨stillAgrees, present⟩ := ih (step capacity first) restKnown fun other otherKnown current here => by
        rw [lookups] at here
        split at here
        · rename_i sameID
          cases here
          exact (same other otherKnown first firstKnown sameID).symm
        · exact agrees other otherKnown current here
      refine ⟨stillAgrees, fun o given => present o ?_⟩
      rw [lookups]
      rcases given with member | found
      · rcases List.mem_cons.mp member with rfl | later
        · exact .inr (by rw [if_pos rfl]; rfl)
        · exact .inl later
      · right
        split
        · rfl
        · exact found
  obtain ⟨agrees, present⟩ := general _ ∅ (List.Subset.refl _) fun _ _ _ impossible => by simp at impossible
  obtain ⟨current, found⟩ := Option.isSome_iff_exists.mp (present o (.inl member))
  rw [built, found, agrees o member current found]

section Granting

variable {settings : Settings} {n next : NodeClaim} {rm after : ReservationManager}

theorem grantable_all (each : ∀ o ∈ ofs, rm.canReserve registry hostname o = some true) :
    grantable registry rm hostname ofs = some ofs := by
  induction ofs with
  | nil => rfl
  | cons o rest ih =>
    obtain ⟨first, later⟩ := List.forall_mem_cons.mp each
    simp only [grantable, first, ih later, if_true]

/-- A compatible reserved offering that is not full and that the manager grants is reserved. -/
theorem mem_offeringsToReserve {its : List InstanceType} {requirements : Requirements} {ofs : List Offering}
    (gate : settings.reservedCapacity = true)
    (grants : ∀ it ∈ its, ∀ o ∈ it.offerings, o.capacityType = capacityTypeReserved →
      n.isFull settings o = false → rm.canReserve settings.toRegistry n.hostname o = some true)
    (ok : n.offeringsToReserve settings rm its requirements = some (.ok ofs))
    {it : InstanceType} {o : Offering} (member : it ∈ its) (offered : o ∈ it.offerings)
    (available : o.available = true) (reserved : o.capacityType = capacityTypeReserved)
    (compatible : requirements.isCompatible o.requirements settings.wellKnownLabels = true)
    (room : n.isFull settings o = false) : o ∈ ofs := by
  simp only [NodeClaim.offeringsToReserve, gate, Bool.not_true, Bool.false_eq_true, if_false] at ok
  rw [grantable_all] at ok
  · have inAll : o ∈ ((NodeClaim.candidateOfferings settings its requirements).filter fun o =>
        decide (o.capacityType = capacityTypeReserved)).filter fun o => !n.isFull settings o := by
      refine List.mem_filter.mpr ⟨List.mem_filter.mpr ⟨List.mem_filter.mpr ⟨List.mem_filter.mpr
        ⟨List.mem_flatMap.mpr ⟨it, member, offered⟩, available⟩, compatible⟩, ?_⟩, ?_⟩
      · exact decide_eq_true reserved
      · rw [room]
        rfl
    dsimp only at ok
    repeat' split at ok
    all_goals cases ok
    exact inAll
  · intro other inOthers
    obtain ⟨inReserved, notFull⟩ := List.mem_filter.mp inOthers
    obtain ⟨inCandidates, isReserved⟩ := List.mem_filter.mp inReserved
    obtain ⟨it', inIts, inOfferings⟩ := List.mem_flatMap.mp
      (List.mem_of_mem_filter (List.mem_of_mem_filter inCandidates))
    exact grants it' inIts other inOfferings (of_decide_eq_true isReserved) (by simpa using notFull)

/-- The reservations of one NodeClaim while no other NodeClaim of the loop holds any. -/
structure Holder (settings : Settings) (initial : ReservationManager) (its : List InstanceType) (n : NodeClaim)
    (rm : ReservationManager) : Prop where
  held : rm.held n.hostname = reservationIDs settings.toRegistry n.reservedOfferings
  balance : ∀ id, rm.balance n.hostname id = initial.remaining id
  options : n.instanceTypeOptions ⊆ its
  uncredited : n.creditReservationCapacity = ∅

/-- Reserved capacity that a NodeClaim could launch into is held by it. -/
structure Granted (settings : Settings) (n : NodeClaim) : Prop where
  holds : ∀ it ∈ n.instanceTypeOptions, ∀ o ∈ it.offerings, o.available = true →
    o.capacityType = capacityTypeReserved → o.reservationCapacity ≠ 0 →
    n.requirements.isCompatible o.requirements settings.wellKnownLabels = true → n.reservedOfferings ≠ []
  reserved : ∀ o ∈ n.reservedOfferings, (∃ it ∈ n.instanceTypeOptions, o ∈ it.offerings) ∧
    o.capacityType = capacityTypeReserved ∧
    n.requirements.isCompatible o.requirements settings.wellKnownLabels = true

theorem Holder.place {initial : ReservationManager} {its : List InstanceType} {collaborators : Collaborators}
    {pod : Pod} {podData : PodData} {volumes : Volumes} {relaxMinValues : Bool} {result : CanAddResult}
    (gate : settings.reservedCapacity = true)
    (seeded : ∀ it ∈ its, ∀ o ∈ it.offerings, o.capacityType = capacityTypeReserved →
      initial.remaining (o.reservationID settings.toRegistry) = o.reservationCapacity)
    (holder : Holder settings initial its n rm)
    (accepted : n.canAdd settings rm collaborators pod podData volumes relaxMinValues = some (.ok result))
    (added : n.add settings rm pod podData volumes result = some (next, after)) :
    Holder settings initial its next after ∧ Granted settings next := by
  have facts := NodeClaim.canAdd_spec accepted
  obtain ⟨same, mine⟩ := NodeClaim.add_reservations holder.held added
  have options : result.instanceTypes ⊆ n.instanceTypeOptions := fun it member => (facts.accepted it member).1
  rw [NodeClaim.add_spec added]
  constructor
  · constructor
    · exact mine
    · intro id
      rw [← holder.balance id]
      exact same.balance id
    · exact List.Subset.trans options holder.options
    · exact holder.uncredited
  · constructor
    · intro it member o offered available reserved capacity compatible
      have room : n.isFull settings o = false := by simp [NodeClaim.isFull, capacity]
      apply List.ne_nil_of_mem
      apply mem_offeringsToReserve gate _ facts.reserves member offered available reserved compatible room
      intro it' member' o' offered' reserved' notFull
      have positive : o'.reservationCapacity ≠ 0 := by
        intro zero
        simp [NodeClaim.isFull, zero, holder.uncredited] at notFull
      have left := holder.balance (o'.reservationID settings.toRegistry)
      rw [seeded it' (holder.options (options member')) o' offered' reserved'] at left
      unfold ReservationManager.canReserve
      split
      · rfl
      · rename_i missing
        rw [ReservationManager.balance, if_neg (mt ReservationManager.hasReservation_iff.mpr missing), add_zero, ReservationManager.remaining] at left
        cases found : rm.capacity.lookup (o'.reservationID settings.toRegistry) with
        | none =>
          rw [found] at left
          exact absurd left.symm positive
        | some current =>
          rw [found] at left
          have value : current = o'.reservationCapacity := left
          simp [value, positive]
    · intro o member
      obtain ⟨offered, -, reserved, compatible⟩ := NodeClaim.offeringsToReserve_spec facts.reserves member
      exact ⟨offered, reserved, compatible⟩

end Granting

section Alone

variable {settings : Settings} {guard : Scheduler → Attempt → Prop} {start s next : Scheduler}

theorem optionsWithinLimits_subset (offered : s.optionsWithinLimits template = some options) :
    options ⊆ template.instanceTypeOptions := by
  rw [Scheduler.optionsWithinLimits] at offered
  split at offered
  · cases offered
    exact List.Subset.refl _
  · split at offered
    · cases offered
    · dsimp only at offered
      split at offered
      · cases offered
      · cases offered
        exact fun _ member => List.mem_of_mem_filter member

theorem placeInflight_alone {rm after : ReservationManager} {a : Attempt} {n : NodeClaim}
    (ok : placeInflight settings rm a [n] = some (some (claims, after))) : ∃ result placed, claims = [placed] ∧
      n.canAdd settings rm (a.collaborators n) a.pod a.podData a.volumes false = some (.ok result) ∧
      n.add settings rm a.pod a.podData a.volumes result = some (placed, after) := by
  rw [placeInflight] at ok
  split at ok
  · cases ok
  · simp [placeInflight] at ok
  · rename_i result accepted
    obtain ⟨⟨placed, rm'⟩, added, rest⟩ := Option.map_eq_some_iff.mp ok
    cases rest
    exact ⟨result, placed, rfl, accepted, added⟩

/-- As long as a loop has at most one NodeClaim, that NodeClaim holds what it could launch into. -/
structure Alone (settings : Settings) (start : Scheduler) (instanceTypes : Map String (List InstanceType))
    (s : Scheduler) : Prop where
  templates : s.nodeClaimTemplates = start.nodeClaimTemplates
  options : ∀ n ∈ s.newNodeClaims, n.instanceTypeOptions ⊆ allInstanceTypes instanceTypes
  uncredited : s.creditReservationCapacity = ∅
  empty : s.newNodeClaims = [] → s.reservationManager = start.reservationManager
  single : ∀ n, s.newNodeClaims = [n] →
    Holder settings start.reservationManager (allInstanceTypes instanceTypes) n s.reservationManager ∧ Granted settings n

/-- How a loop starts: without NodeClaims, its manager set up from the instance types of all NodePools. -/
structure Fresh (settings : Settings) (instanceTypes : Map String (List InstanceType)) (start : Scheduler) :
    Prop where
  gate : settings.reservedCapacity = true
  claims : start.newNodeClaims = []
  uncredited : start.creditReservationCapacity = ∅
  manager : start.reservationManager = newReservationManager settings.toRegistry instanceTypes
  options : ∀ entry ∈ start.nodeClaimTemplates, entry.1.instanceTypeOptions ⊆ allInstanceTypes instanceTypes
  sameCapacity : SameCapacity settings.toRegistry instanceTypes

theorem Fresh.unreserved (fresh : Fresh settings instanceTypes start) : start.reservationManager.reservations = ∅ := by
  rw [fresh.manager]
  rfl

theorem Fresh.seeded (fresh : Fresh settings instanceTypes start) :
    ∀ it ∈ allInstanceTypes instanceTypes, ∀ o ∈ it.offerings, o.capacityType = capacityTypeReserved →
      start.reservationManager.remaining (o.reservationID settings.toRegistry) = o.reservationCapacity := by
  intro it member o offered reserved
  have known : o ∈ reservedOfferingsOf instanceTypes :=
    List.mem_filter.mpr ⟨List.mem_flatMap.mpr ⟨it, member, offered⟩, decide_eq_true reserved⟩
  rw [ReservationManager.remaining, fresh.manager, lookup_newReservationManager fresh.sameCapacity known]
  rfl

theorem Alone.initially (fresh : Fresh settings instanceTypes start) : Alone settings start instanceTypes start := by
  refine ⟨rfl, ?_, fresh.uncredited, fun _ => rfl, fun n impossible => ?_⟩
  · simp [fresh.claims]
  · rw [fresh.claims] at impossible
    cases impossible

theorem Alone.step (fresh : Fresh settings instanceTypes start) (alone : Alone settings start instanceTypes s)
    (step : Scheduler.Step settings guard s next) : Alone settings start instanceTypes next := by
  cases step with
  | sort order =>
    refine ⟨alone.templates, fun n member => alone.options n (order.mem_iff.mp member), alone.uncredited,
      fun none => alone.empty ?_, fun n one => alone.single n ?_⟩
    · dsimp only at none
      rw [none] at order
      exact order.nil_eq.symm
    · dsimp only at one
      rw [one] at order
      exact List.perm_singleton.mp order.symm
  | inflight a placed =>
    obtain ⟨found, here, mapped⟩ := Option.map_eq_some_iff.mp placed
    obtain ⟨⟨claims, rm⟩, rfl, rest⟩ := Option.map_eq_some_iff.mp mapped
    cases rest
    have shrunk := placeInflight_spec here
    have lengths := shrunk.length_eq
    refine ⟨alone.templates, ?_, alone.uncredited, ?_, ?_⟩
    · intro n member
      obtain ⟨before, known, shrinks⟩ := exists_of_shrinks shrunk member
      exact List.Subset.trans shrinks.options (alone.options before known)
    · intro none
      dsimp only at none
      rw [none, List.length_nil] at lengths
      rw [List.length_eq_zero_iff.mp lengths.symm] at here
      cases here
    · intro n one
      dsimp only at one
      rw [one, List.length_singleton] at lengths
      obtain ⟨before, only⟩ := List.length_eq_one_iff.mp lengths.symm
      rw [only] at here
      obtain ⟨result, after, same, accepted, added⟩ := placeInflight_alone here
      rw [one] at same
      cases same
      exact (alone.single before only).1.place fresh.gate fresh.seeded accepted added
  | fresh a _ _ placed =>
    obtain ⟨index, template, n, result, after, rm, accepts, -, added, rfl⟩ := addToNewNodeClaim_inv placed
    obtain ⟨groups, options, here, offered, rfl, accepted⟩ := accepts
    have known : options ⊆ allInstanceTypes instanceTypes := by
      have template := List.mem_of_getElem? here
      rw [alone.templates] at template
      exact List.Subset.trans (optionsWithinLimits_subset offered) (fresh.options _ template)
    refine ⟨alone.templates, ?_, alone.uncredited, ?_, ?_⟩
    · intro m member
      rcases List.mem_append.mp member with before | new
      · exact alone.options m before
      · rw [List.mem_singleton.mp new]
        exact List.Subset.trans (shrinks_of_add accepted added).1.options known
    · intro none
      simp at none
    · intro only one
      obtain ⟨none, same⟩ := List.append_eq_singleton_iff.mp one |>.resolve_right (by simp)
      cases same
      have unchanged := alone.empty none
      have holder : Holder settings start.reservationManager (allInstanceTypes instanceTypes)
          (s.draft a index template groups options) s.reservationManager := by
        constructor
        · simp [unchanged, ReservationManager.held, fresh.unreserved, reservationIDs, Scheduler.draft, newNodeClaim]
        · intro id
          simp [unchanged, ReservationManager.balance, ReservationManager.held, fresh.unreserved]
        · exact known
        · exact alone.uncredited
      exact holder.place fresh.gate fresh.seeded accepted added

theorem Alone.reaches (fresh : Fresh settings instanceTypes start) (run : Scheduler.Reaches settings guard start s) :
    Alone settings start instanceTypes s := by
  induction run with
  | refl => exact Alone.initially fresh
  | tail _ step ih => exact ih.step fresh step

end Alone

end Karpenter.Provisioning
