import Karpenter.Disruption.Command
import Karpenter.Provisioning.Finalize
import Karpenter.Provisioning.Reservations

/-! Replacing nodes by a cheaper one. The price filter judges an instance type by the first class of capacity
it can be launched into, reserved before spot before on-demand, and relies on requirements for what may
launch in the end: spot is forced here, and reserved capacity is forced when the scheduler holds it. It does
not hold it when another NodeClaim of the same simulation did, and that other one may be gone by the time
its results are looked at: truncation drops a NodeClaim that misses a minimum. -/
namespace Karpenter.Disruption

open Go (Map)
open CloudProvider
open Provisioning (NodeClaim Results Settings Scheduler Attempt OfferingContract ReservationLabel)
open Scheduling
open Requirements (admitsKey_single isCompatible_iff_admitsKey)

def minInstanceTypesForSpotToSpotConsolidation : Nat := 15

/-- The offerings of an instance type that can be launched under the requirements. -/
def launchInto (registry : Registry) (requirements : Requirements) (it : InstanceType) : List Offering :=
  compatibleOfferings registry (launchableOfferings it.offerings) requirements

/-- The price filter; no launch price is the largest float. -/
def belowPrice (registry : Registry) (requirements : Requirements) (maxPrice : ℚ) (it : InstanceType) : Bool :=
  (worstLaunchPrice registry (launchableOfferings it.offerings) requirements).any fun price =>
    decide (price < maxPrice)

def removeInstanceTypeOptionsByPriceAndMinValues (registry : Registry) (n : NodeClaim) (maxPrice : ℚ) :
    Option NodeClaim :=
  let options := n.instanceTypeOptions.filter (belowPrice registry n.requirements maxPrice)
  if (satisfiesMinValues options n.requirements).2.entries.isEmpty then
    some { n with instanceTypeOptions := options }
  else none

def hasSpotOffering (registry : Registry) (n : NodeClaim) : Bool :=
  n.instanceTypeOptions.any fun it => hasCompatible registry (launchInto registry n.requirements it)
    (registry.capacityTypeClassRequirements .spot)

def requireSpot (n : NodeClaim) : NodeClaim :=
  { n with requirements := n.requirements.addOne (newRequirement capacityTypeLabelKey .opIn [capacityTypeSpot]) }

/-- The cheapest options a spot node is replaced by: enough for the minimums, and for the node not to be
replaced again at once. -/
def cheapestForSpot (n : NodeClaim) : NodeClaim :=
  let count :=
    if n.requirements.hasMinValues then
      max minInstanceTypesForSpotToSpotConsolidation (satisfiesMinValues n.instanceTypeOptions n.requirements).1
    else minInstanceTypesForSpotToSpotConsolidation
  { n with instanceTypeOptions := n.instanceTypeOptions.take count }

/-- Spot nodes and a replacement that may be spot. -/
def spotToSpot (candidates : List Candidate) (n : NodeClaim) : Bool :=
  candidates.all (fun c => decide (c.capacityType = capacityTypeSpot)) &&
    (n.requirements.get capacityTypeLabelKey).has capacityTypeSpot

def replaceBy (candidates : List Candidate) (n : NodeClaim) : Command where
  candidates := candidates
  replacements := replacementsFromNodeClaims [n]

def computeSpotToSpotConsolidation (registry : Registry) (spotToSpotEnabled : Bool) (candidates : List Candidate)
    (n : NodeClaim) (candidatePrice : ℚ) : Command :=
  if !spotToSpotEnabled then {}
  else
    let spot := requireSpot n
    let available := { spot with
      instanceTypeOptions := compatibleInstanceTypes registry spot.instanceTypeOptions spot.requirements }
    match removeInstanceTypeOptionsByPriceAndMinValues registry available candidatePrice with
    | none => {}
    | some cheaper =>
      if cheaper.instanceTypeOptions.isEmpty then {}
      else if candidates.length > 1 then replaceBy candidates cheaper
      else if cheaper.instanceTypeOptions.length < minInstanceTypesForSpotToSpotConsolidation then {}
      else replaceBy candidates (cheapestForSpot cheaper)

/-- If spot does not launch, nothing should: the price filter assumed spot. -/
def forceSpot (registry : Registry) (n : NodeClaim) : NodeClaim :=
  let capacityType := n.requirements.get capacityTypeLabelKey
  if hasCapacityTypeClass registry capacityType .spot && hasCapacityTypeClass registry capacityType .onDemand &&
      hasSpotOffering registry n then requireSpot n
  else n

def computeReplacement (registry : Registry) (spotToSpotEnabled : Bool) (candidates : List Candidate)
    (n : NodeClaim) : Command :=
  let ordered := { n with instanceTypeOptions := orderByPrice registry n.instanceTypeOptions n.requirements }
  if spotToSpot candidates n then
    computeSpotToSpotConsolidation registry spotToSpotEnabled candidates ordered (sumCandidatePrices candidates)
  else
    match removeInstanceTypeOptionsByPriceAndMinValues registry ordered (sumCandidatePrices candidates) with
    | none => {}
    | some cheaper =>
      if cheaper.instanceTypeOptions.isEmpty then {} else replaceBy candidates (forceSpot registry cheaper)

/-- The command for the candidates, given the results of the scheduling simulation without them. -/
def computeConsolidation (registry : Registry) (spotToSpotEnabled : Bool) (candidates : List Candidate)
    (results : Results) : Command :=
  if !results.allNonPendingPodsScheduled then {}
  else match results.newNodeClaims with
    | [] => { candidates }
    | [n] => computeReplacement registry spotToSpotEnabled candidates n
    | _ => {}

/-- What the price filter relies on: one registered capacity type, and well-known labels only. -/
structure Priced (registry : Registry) (o : Offering) : Prop where
  capacityType : ∃ r, o.requirements.get? capacityTypeLabelKey = some r ∧ r.Single o.capacityType
  registered : ∃ class_, o.capacityType ∈ registry.capacityTypesOf class_
  known : ∀ key r, o.requirements.get? key = some r → key ∈ registry.wellKnownLabels

section Classes

variable {registry : Registry} {o : Offering}

theorem mem_reserved : capacityType ∈ registry.capacityTypesOf .reserved ↔ capacityType = capacityTypeReserved := List.mem_singleton

theorem mem_spot : capacityType ∈ registry.capacityTypesOf .spot ↔ capacityType = capacityTypeSpot := List.mem_singleton

theorem key_capacityType (values : List String) :
    (newRequirement capacityTypeLabelKey .opIn values).key = capacityTypeLabelKey := by
  have unaliased : normalizedLabels.lookup capacityTypeLabelKey = none := by decide
  exact normalizeKey_of_unaliased unaliased

theorem get?_capacityTypeClassRequirements (registry : Registry) (class_ : CapacityTypeClass) (key : String) :
    (registry.capacityTypeClassRequirements class_).get? key =
      if key = capacityTypeLabelKey then
        some (newRequirement capacityTypeLabelKey .opIn (registry.capacityTypesOf class_))
      else none := by
  rw [Registry.capacityTypeClassRequirements]
  show (Requirements.empty.addOne _).get? key = _
  rw [Requirements.get?_addOne, key_capacityType]
  split <;> simp [Requirements.merge]

theorem Priced.class_iff (priced : Priced registry o) (class_ : CapacityTypeClass) :
    (registry.capacityTypeClassRequirements class_).isCompatible o.requirements registry.wellKnownLabels = true ↔
      o.capacityType ∈ registry.capacityTypesOf class_ := by
  obtain ⟨type, found, single⟩ := priced.capacityType
  rw [isCompatible_iff_admitsKey]
  constructor
  · intro each
    have admitted := (admitsKey_single single).mp (each _ _ found)
    rw [get?_capacityTypeClassRequirements, if_pos rfl] at admitted
    exact (Requirement.has_newRequirement_in _ _ _).mp admitted
  · intro member key incoming here
    rw [get?_capacityTypeClassRequirements]
    split
    · rename_i same
      subst same
      rw [found] at here
      cases here
      rw [admitsKey_single single]
      exact (Requirement.has_newRequirement_in _ _ _).mpr member
    · exact .inl (priced.known key incoming here)

theorem Priced.requireSpot_iff (priced : Priced registry o) (n : NodeClaim) :
    (requireSpot n).requirements.isCompatible o.requirements registry.wellKnownLabels = true ↔
      n.requirements.isCompatible o.requirements registry.wellKnownLabels = true ∧
        o.capacityType = capacityTypeSpot := by
  obtain ⟨type, found, single⟩ := priced.capacityType
  have lookups : ∀ key, (requireSpot n).requirements.get? key = if key = capacityTypeLabelKey then
      some (Requirements.merge (newRequirement capacityTypeLabelKey .opIn [capacityTypeSpot])
        (n.requirements.get? key)) else n.requirements.get? key := by
    intro key
    rw [requireSpot, Requirements.get?_addOne, key_capacityType]
  have defined : n.requirements.get? capacityTypeLabelKey = none → capacityTypeLabelKey ∈ registry.wellKnownLabels :=
    fun _ => priced.known _ _ found
  rw [isCompatible_iff_admitsKey, isCompatible_iff_admitsKey]
  constructor
  · intro each
    have atType := each _ _ found
    rw [lookups, if_pos rfl, Provisioning.admitsKey_merge_in single defined, List.mem_singleton] at atType
    refine ⟨fun key incoming here => ?_, atType.1⟩
    by_cases same : key = capacityTypeLabelKey
    · subst same
      rw [found] at here
      cases here
      exact atType.2
    · have elsewhere := each key incoming here
      rwa [lookups, if_neg same] at elsewhere
  · rintro ⟨each, spot⟩ key incoming here
    rw [lookups]
    split
    · rename_i same
      subst same
      rw [found] at here
      cases here
      exact (Provisioning.admitsKey_merge_in single defined).mpr ⟨List.mem_singleton.mpr spot, each _ _ found⟩
    · exact each key incoming here

theorem Priced.admitted (priced : Priced registry o) {requirements : Requirements}
    (compatible : requirements.isCompatible o.requirements registry.wellKnownLabels = true) :
    (requirements.get capacityTypeLabelKey).has o.capacityType = true := by
  obtain ⟨type, found, single⟩ := priced.capacityType
  have admitted := (admitsKey_single single).mp
    ((isCompatible_iff_admitsKey _ _ _).mp compatible _ _ found)
  rw [Requirements.get]
  cases existing : requirements.get? capacityTypeLabelKey with
  | none => rfl
  | some requirement =>
    rw [existing] at admitted
    exact admitted

end Classes

section Prices

variable {registry : Registry} {it : InstanceType} {o : Offering}

theorem mem_launchInto : o ∈ launchInto registry requirements it ↔ o ∈ it.offerings ∧ o.launchable = true ∧
    requirements.isCompatible o.requirements registry.wellKnownLabels = true := by
  simp only [launchInto, compatibleOfferings, launchableOfferings, List.mem_filter, and_assoc]

/-- The classes a launch prefers to the given one. -/
def preferred : CapacityTypeClass → List CapacityTypeClass
  | .reserved => []
  | .spot => [.reserved]
  | .onDemand => [.reserved, .spot]

def worstOf (registry : Registry) (requirements : Requirements) (it : InstanceType)
    (class_ : CapacityTypeClass) : Option ℚ :=
  (mostExpensive (compatibleOfferings registry (launchInto registry requirements it)
    (registry.capacityTypeClassRequirements class_))).map (·.price)

theorem worstOf_eq_none (priced : ∀ o ∈ it.offerings, Priced registry o)
    (absent : ∀ o ∈ launchInto registry requirements it, o.capacityType ∉ registry.capacityTypesOf class_) :
    worstOf registry requirements it class_ = none := by
  have empty : compatibleOfferings registry (launchInto registry requirements it)
      (registry.capacityTypeClassRequirements class_) = [] := by
    apply List.filter_eq_nil_iff.mpr
    intro o member inClass
    exact absent o member (((priced o (mem_launchInto.mp member).1).class_iff class_).mp inClass)
  rw [worstOf, empty]
  rfl

theorem le_worstOf (priced : Priced registry o) (member : o ∈ launchInto registry requirements it)
    (inClass : o.capacityType ∈ registry.capacityTypesOf class_) :
    ∃ worst, worstOf registry requirements it class_ = some worst ∧ o.price ≤ worst := by
  have inFilter : o ∈ compatibleOfferings registry (launchInto registry requirements it)
      (registry.capacityTypeClassRequirements class_) :=
    List.mem_filter.mpr ⟨member, (priced.class_iff class_).mpr inClass⟩
  cases found : mostExpensive (compatibleOfferings registry (launchInto registry requirements it)
      (registry.capacityTypeClassRequirements class_)) with
  | none =>
    obtain ⟨first, rest, shape⟩ := List.exists_cons_of_ne_nil (List.ne_nil_of_mem inFilter)
    rw [shape] at found
    cases found
  | some worst =>
    refine ⟨worst.price, ?_, price_le_mostExpensive found inFilter⟩
    rw [worstOf, found]
    rfl

/-- The filter bounds the offerings of the first class that can be launched, and no others. -/
theorem price_lt_of_belowPrice (priced : ∀ o ∈ it.offerings, Priced registry o)
    (below : belowPrice registry requirements maxPrice it = true)
    (member : o ∈ launchInto registry requirements it) {class_ : CapacityTypeClass}
    (inClass : o.capacityType ∈ registry.capacityTypesOf class_)
    (first : ∀ earlier ∈ preferred class_, ∀ x ∈ launchInto registry requirements it,
      x.capacityType ∉ registry.capacityTypesOf earlier) : o.price < maxPrice := by
  obtain ⟨worst, found, bounded⟩ := le_worstOf (priced o (mem_launchInto.mp member).1) member inClass
  have absent : ∀ earlier ∈ preferred class_, worstOf registry requirements it earlier = none :=
    fun earlier here => worstOf_eq_none priced (first earlier here)
  have price : worstLaunchPrice registry (launchableOfferings it.offerings) requirements = some worst := by
    show [CapacityTypeClass.reserved, .spot, .onDemand].findSome? (worstOf registry requirements it) = some worst
    cases class_ <;> simp_all [preferred, List.findSome?]
  rw [belowPrice, price] at below
  exact bounded.trans_lt (of_decide_eq_true below)

end Prices

/-- Whatever the replacement is launched as costs less than the given price. -/
def PricedBelow (registry : Registry) (n : NodeClaim) (price : ℚ) : Prop :=
  ∀ it ∈ n.instanceTypeOptions, ∀ o ∈ launchInto registry n.requirements it, o.price < price

/-- Some option below the price by its reserved offerings could also be launched into a dearer offering of
another class: spot, or on-demand where no option below the price has spot. -/
def Masked (registry : Registry) (n : NodeClaim) (price : ℚ) : Prop :=
  ∃ it ∈ n.instanceTypeOptions, belowPrice registry n.requirements price it = true ∧
    (∃ r ∈ launchInto registry n.requirements it, r.capacityType = capacityTypeReserved) ∧
    ∃ o ∈ launchInto registry n.requirements it, o.capacityType ≠ capacityTypeReserved ∧ price ≤ o.price ∧
      (o.capacityType = capacityTypeSpot ∨
        ∀ other ∈ n.instanceTypeOptions, belowPrice registry n.requirements price other = true →
          ∀ x ∈ launchInto registry n.requirements other, x.capacityType ≠ capacityTypeSpot)

section Forcing

variable {registry : Registry} {n : NodeClaim}

/-- The condition under which the replacement has to be spot. -/
def spotForced (registry : Registry) (n : NodeClaim) : Bool :=
  hasCapacityTypeClass registry (n.requirements.get capacityTypeLabelKey) .spot &&
    hasCapacityTypeClass registry (n.requirements.get capacityTypeLabelKey) .onDemand && hasSpotOffering registry n

theorem forceSpot_options (registry : Registry) (n : NodeClaim) :
    (forceSpot registry n).instanceTypeOptions = n.instanceTypeOptions := by
  simp only [forceSpot]
  split <;> rfl

theorem mem_launchInto_requireSpot (priced : ∀ o ∈ it.offerings, Priced registry o) :
    o ∈ launchInto registry (requireSpot n).requirements it ↔
      o ∈ launchInto registry n.requirements it ∧ o.capacityType = capacityTypeSpot := by
  rw [mem_launchInto, mem_launchInto, and_assoc, and_assoc]
  exact and_congr_right fun offered => and_congr_right fun _ => (priced o offered).requireSpot_iff n

theorem mem_launchInto_forceSpot (priced : ∀ o ∈ it.offerings, Priced registry o) :
    o ∈ launchInto registry (forceSpot registry n).requirements it ↔
      o ∈ launchInto registry n.requirements it ∧ (spotForced registry n = true → o.capacityType = capacityTypeSpot) := by
  show o ∈ launchInto registry (if spotForced registry n then requireSpot n else n).requirements it ↔ _
  split
  · rename_i forced
    simp only [mem_launchInto_requireSpot priced, forced, true_imp_iff]
  · rename_i free
    simp only [free, Bool.false_eq_true, false_imp_iff, and_true]

variable (priced : ∀ it ∈ n.instanceTypeOptions, ∀ o ∈ it.offerings, Priced registry o)

include priced

theorem hasSpotOffering_iff : hasSpotOffering registry n = true ↔ ∃ it ∈ n.instanceTypeOptions,
      ∃ x ∈ launchInto registry n.requirements it, x.capacityType = capacityTypeSpot := by
  simp only [hasSpotOffering, hasCompatible, List.any_eq_true]
  refine exists_congr fun it => and_congr_right fun member => exists_congr fun x => and_congr_right fun launched => ?_
  rw [(priced it member x (mem_launchInto.mp launched).1).class_iff]
  exact mem_spot

theorem spotForced_of_mixed (itOption : it ∈ n.instanceTypeOptions) (otherOption : other ∈ n.instanceTypeOptions)
    (onDemand : o ∈ launchInto registry n.requirements it)
    (inClass : o.capacityType ∈ registry.capacityTypesOf .onDemand)
    (spot : x ∈ launchInto registry n.requirements other) (isSpot : x.capacityType = capacityTypeSpot) :
    spotForced registry n = true := by
  have onDemandAllowed := (priced it itOption o (mem_launchInto.mp onDemand).1).admitted
    (mem_launchInto.mp onDemand).2.2
  have spotAllowed := (priced other otherOption x (mem_launchInto.mp spot).1).admitted (mem_launchInto.mp spot).2.2
  rw [isSpot] at spotAllowed
  simp only [spotForced, Bool.and_eq_true, hasCapacityTypeClass, List.any_eq_true]
  refine ⟨⟨⟨capacityTypeSpot, mem_spot.mpr rfl, spotAllowed⟩, ⟨_, inClass, onDemandAllowed⟩⟩, ?_⟩
  exact (hasSpotOffering_iff priced).mpr ⟨other, otherOption, x, spot, isSpot⟩

theorem pricedBelow_forceSpot_iff {cheaper : NodeClaim} (same : cheaper.requirements = n.requirements)
    (options : ∀ it, it ∈ cheaper.instanceTypeOptions ↔
      it ∈ n.instanceTypeOptions ∧ belowPrice registry n.requirements price it = true) :
    PricedBelow registry (forceSpot registry cheaper) price ↔ ¬ Masked registry n price := by
  have pricedCheaper : ∀ it ∈ cheaper.instanceTypeOptions, ∀ o ∈ it.offerings, Priced registry o :=
    fun it member => priced it ((options it).mp member).1
  constructor
  · rintro below ⟨it, option, kept, -, o, launched, -, dear, other⟩
    have inCheaper := (options it).mpr ⟨option, kept⟩
    refine absurd (below it ?_ o ?_) (not_lt.mpr dear)
    · rwa [forceSpot_options]
    · rw [mem_launchInto_forceSpot (pricedCheaper it inCheaper), same]
      refine ⟨launched, fun forced => ?_⟩
      rcases other with spot | none
      · exact spot
      · obtain ⟨it', inOptions, x, spotLaunched, isSpot⟩ :=
          (hasSpotOffering_iff pricedCheaper).mp (Bool.and_eq_true_iff.mp forced).2
        rw [same] at spotLaunched
        obtain ⟨inN, kept'⟩ := (options it').mp inOptions
        exact absurd isSpot (none it' inN kept' x spotLaunched)
  · intro unmasked it member o launched
    rw [forceSpot_options] at member
    obtain ⟨option, kept⟩ := (options it).mp member
    rw [mem_launchInto_forceSpot (pricedCheaper it member), same] at launched
    obtain ⟨launched, forced⟩ := launched
    by_contra dear
    have noSpot (notSpot : o.capacityType ≠ capacityTypeSpot)
        (onDemand : o.capacityType ∈ registry.capacityTypesOf .onDemand) : ∀ it' ∈ n.instanceTypeOptions,
          belowPrice registry n.requirements price it' = true →
            ∀ x ∈ launchInto registry n.requirements it', x.capacityType ≠ capacityTypeSpot := by
      intro it' option' kept' x spotLaunched isSpot
      refine notSpot (forced
        (spotForced_of_mixed pricedCheaper member ((options it').mpr ⟨option', kept'⟩) ?_ onDemand ?_ isSpot))
      · rwa [same]
      · rwa [same]
    have noReserved (other : o.capacityType ≠ capacityTypeReserved) (alone) : ∀ x ∈ launchInto registry n.requirements it,
        x.capacityType ∉ registry.capacityTypesOf .reserved := fun x launched' reserved =>
      unmasked ⟨it, option, kept, ⟨x, launched', mem_reserved.mp reserved⟩, o, launched, other, not_lt.mp dear, alone⟩
    by_cases isReserved : o.capacityType = capacityTypeReserved
    · apply dear
      apply price_lt_of_belowPrice (priced it option) kept launched (mem_reserved.mpr isReserved)
      simp [preferred]
    · by_cases isSpot : o.capacityType = capacityTypeSpot
      · apply dear
        apply price_lt_of_belowPrice (priced it option) kept launched (mem_spot.mpr isSpot)
        simpa [preferred] using noReserved isReserved (.inl isSpot)
      · obtain ⟨class_, onDemand⟩ := (priced it option o (mem_launchInto.mp launched).1).registered
        cases class_ with
        | reserved => exact isReserved (mem_reserved.mp onDemand)
        | spot => exact isSpot (mem_spot.mp onDemand)
        | onDemand =>
          have noneSpot := noSpot isSpot onDemand
          apply dear
          apply price_lt_of_belowPrice (priced it option) kept launched onDemand
          simp only [preferred, List.forall_mem_cons, List.not_mem_nil, false_imp_iff, implies_true, and_true]
          exact ⟨noReserved isReserved (.inr noneSpot), fun x here spot => noneSpot it option kept x here (mem_spot.mp spot)⟩

/-- Where everything that can be launched is spot, the filter bounds all of it. -/
theorem pricedBelow_requireSpot {cheaper : NodeClaim} (same : cheaper.requirements = (requireSpot n).requirements)
    (options : ∀ it ∈ cheaper.instanceTypeOptions,
      it ∈ n.instanceTypeOptions ∧ belowPrice registry (requireSpot n).requirements price it = true) :
    PricedBelow registry cheaper price := by
  intro it member o launched
  obtain ⟨option, kept⟩ := options it member
  rw [same] at launched
  have spot : ∀ x ∈ launchInto registry (requireSpot n).requirements it, x.capacityType = capacityTypeSpot := by
    intro x here
    exact ((mem_launchInto_requireSpot (priced it option)).mp here).2
  apply price_lt_of_belowPrice (priced it option) kept launched (mem_spot.mpr (spot o launched))
  intro earlier before x here reserved
  obtain rfl := List.mem_singleton.mp before
  have isReserved := mem_reserved.mp reserved
  rw [spot x here] at isReserved
  exact absurd isReserved (by decide)

end Forcing

section Commands

variable {registry : Registry} {n : NodeClaim} {r : Replacement}

theorem removeInstanceTypeOptions_spec {cheaper : NodeClaim}
    (ok : removeInstanceTypeOptionsByPriceAndMinValues registry n maxPrice = some cheaper) : cheaper = { n with
      instanceTypeOptions := n.instanceTypeOptions.filter (belowPrice registry n.requirements maxPrice) } := by
  simp only [removeInstanceTypeOptionsByPriceAndMinValues] at ok
  split at ok
  · cases ok
    rfl
  · cases ok

theorem mem_replaceBy (member : r ∈ (replaceBy candidates n).replacements) : r.nodeClaim = n := by
  obtain rfl := List.mem_singleton.mp member
  rfl

/-- A spot replacement: only cheaper options are left and spot is required. -/
theorem computeSpotToSpotConsolidation_spec {price : ℚ}
    (member : r ∈ (computeSpotToSpotConsolidation registry spotToSpotEnabled candidates n price).replacements) :
    r.nodeClaim.requirements = (requireSpot n).requirements ∧ ∀ it ∈ r.nodeClaim.instanceTypeOptions,
      it ∈ n.instanceTypeOptions ∧ belowPrice registry (requireSpot n).requirements price it = true := by
  simp only [computeSpotToSpotConsolidation] at member
  split at member
  · cases member
  · split at member
    · cases member
    · rename_i cheaper ok
      have shape := removeInstanceTypeOptions_spec ok
      have each : ∀ it ∈ cheaper.instanceTypeOptions, it ∈ n.instanceTypeOptions ∧
          belowPrice registry (requireSpot n).requirements price it = true := by
        intro it inCheaper
        rw [shape] at inCheaper
        obtain ⟨inAvailable, below⟩ := List.mem_filter.mp inCheaper
        exact ⟨List.mem_of_mem_filter inAvailable, below⟩
      split at member
      · cases member
      · split at member
        · rw [mem_replaceBy member]
          exact ⟨by rw [shape], each⟩
        · split at member
          · cases member
          · rw [mem_replaceBy member]
            exact ⟨by rw [cheapestForSpot, shape], fun it inTaken => each it (List.mem_of_mem_take inTaken)⟩

theorem computeReplacement_spec
    (member : r ∈ (computeReplacement registry spotToSpotEnabled candidates n).replacements) :
    (spotToSpot candidates n = true ∧ r.nodeClaim.requirements = (requireSpot n).requirements ∧
      ∀ it ∈ r.nodeClaim.instanceTypeOptions, it ∈ n.instanceTypeOptions ∧
        belowPrice registry (requireSpot n).requirements (sumCandidatePrices candidates) it = true) ∨
    (spotToSpot candidates n = false ∧ ∃ cheaper, r.nodeClaim = forceSpot registry cheaper ∧
      cheaper.requirements = n.requirements ∧ ∀ it, it ∈ cheaper.instanceTypeOptions ↔
        it ∈ n.instanceTypeOptions ∧ belowPrice registry n.requirements (sumCandidatePrices candidates) it = true) := by
  simp only [computeReplacement] at member
  split at member
  · rename_i spot
    obtain ⟨same, each⟩ := computeSpotToSpotConsolidation_spec member
    refine .inl ⟨spot, same, fun it inOptions => ?_⟩
    obtain ⟨ordered, below⟩ := each it inOptions
    exact ⟨mem_orderByPrice.mp ordered, below⟩
  · rename_i notSpot
    split at member
    · cases member
    · rename_i cheaper ok
      have shape := removeInstanceTypeOptions_spec ok
      split at member
      · cases member
      · refine .inr ⟨Bool.eq_false_iff.mpr notSpot, cheaper, mem_replaceBy member, by rw [shape], fun it => ?_⟩
        rw [shape]
        exact List.mem_filter.trans (and_congr_left fun _ => mem_orderByPrice)

theorem computeConsolidation_spec
    (member : r ∈ (computeConsolidation registry spotToSpotEnabled candidates results).replacements) :
    ∃ n, results.newNodeClaims = [n] ∧
      r ∈ (computeReplacement registry spotToSpotEnabled candidates n).replacements := by
  rw [computeConsolidation] at member
  split at member
  · cases member
  · split at member
    · cases member
    · rename_i n only
      exact ⟨n, only, member⟩
    · cases member

end Commands

section Simulation

variable {settings : Settings} {n m : NodeClaim}

theorem truncateNodeClaim_spec (ok : Results.truncateNodeClaim registry bestEffort m = some n) :
    n.requirements = m.requirements ∧ n.instanceTypeOptions ⊆ m.instanceTypeOptions := by
  obtain ⟨its, truncated, rfl⟩ := Option.map_eq_some_iff.mp ok
  exact ⟨rfl, truncate_subset truncated⟩

theorem launchable_reserved (contract : OfferingContract settings.toRegistry o) (launchable : o.launchable = true)
    (reserved : o.capacityType = capacityTypeReserved) : o.available = true ∧ o.reservationCapacity ≠ 0 := by
  obtain ⟨type, found, single⟩ := contract.capacityType
  have isReserved : type.has capacityTypeReserved = true := (single.has_iff _).mpr reserved.symm
  simp only [Offering.launchable, found, isReserved, Bool.not_true, Bool.false_or, Bool.and_eq_true,
    decide_eq_true_eq] at launchable
  exact ⟨launchable.1, launchable.2.ne'⟩

/-- A NodeClaim that holds the reserved capacity it could launch into is forced onto it. -/
theorem not_masked_of_granted (label : ReservationLabel settings.toRegistry)
    (contract : ∀ it ∈ m.instanceTypeOptions, ∀ o ∈ it.offerings, OfferingContract settings.toRegistry o)
    (granted : Provisioning.Granted settings m) (requirements : n.requirements = m.injectReservations settings)
    (options : n.instanceTypeOptions ⊆ m.instanceTypeOptions) : ¬ Masked settings.toRegistry n price := by
  rintro ⟨it, option, -, ⟨r, launchedReserved, reserved⟩, o, launched, other, -⟩
  rw [requirements] at launchedReserved launched
  obtain ⟨rOffered, rLaunchable, rCompatible⟩ := mem_launchInto.mp launchedReserved
  obtain ⟨offered, -, compatible⟩ := mem_launchInto.mp launched
  have known := contract it (options option)
  by_cases none : m.reservedOfferings = []
  · have original := (Provisioning.isCompatible_without_hostname (known r rOffered) none).mp rCompatible
    obtain ⟨available, capacity⟩ := launchable_reserved (known r rOffered) rLaunchable reserved
    exact granted.holds it (options option) r rOffered available reserved capacity original none
  · obtain ⟨h, held⟩ := List.exists_mem_of_ne_nil _ none
    obtain ⟨⟨holder, holderOption, inHolder⟩, heldReserved, heldCompatible⟩ := granted.reserved h held
    have injected := (Provisioning.isCompatible_injectReservations label (known o offered)
      (contract holder holderOption h inHolder) heldReserved held heldCompatible).mp compatible
    exact other injected.2.1

end Simulation

section Replacement

variable {settings : Settings} {guard : Scheduler → Attempt → Prop} {start s : Scheduler}

/-- A replacement costs less than the candidates exactly when nothing is masked, and nothing is masked in a
simulation whose results keep every NodeClaim. -/
theorem replacement_price_iff {podErrors : List Pod} {bestEffort spotToSpotEnabled : Bool}
    {candidates : List Candidate} {results : Results} {r : Replacement}
    (fresh : Provisioning.Fresh settings instanceTypes start)
    (run : Scheduler.Reaches settings guard start s) (label : ReservationLabel settings.toRegistry)
    (contract : ∀ it ∈ Provisioning.allInstanceTypes instanceTypes, ∀ o ∈ it.offerings,
      OfferingContract settings.toRegistry o ∧ Priced settings.toRegistry o)
    (simulated : results = (s.results settings podErrors).truncateInstanceTypes settings.toRegistry bestEffort)
    (member : r ∈ (computeConsolidation settings.toRegistry spotToSpotEnabled candidates results).replacements) :
    (PricedBelow settings.toRegistry r.nodeClaim (sumCandidatePrices candidates) ↔
      ∀ n ∈ results.newNodeClaims, spotToSpot candidates n = true ∨
        ¬ Masked settings.toRegistry n (sumCandidatePrices candidates)) ∧
    (results.newNodeClaims.length = s.newNodeClaims.length →
      PricedBelow settings.toRegistry r.nodeClaim (sumCandidatePrices candidates)) := by
  have alone := Provisioning.Alone.reaches fresh run
  obtain ⟨n, only, replaces⟩ := computeConsolidation_spec member
  have kept : n ∈ results.newNodeClaims := only ▸ List.mem_singleton_self n
  rw [simulated] at kept
  obtain ⟨finalized, inResults, truncated⟩ := List.mem_filterMap.mp kept
  obtain ⟨m, inLoop, rfl⟩ := List.mem_map.mp inResults
  obtain ⟨requirements, options⟩ := truncateNodeClaim_spec truncated
  obtain ⟨sameOptions, injected⟩ := Provisioning.finalizeScheduling_fields settings m
  rw [sameOptions] at options
  rw [injected] at requirements
  have known : n.instanceTypeOptions ⊆ Provisioning.allInstanceTypes instanceTypes :=
    List.Subset.trans options (alone.options m inLoop)
  have priced : ∀ it ∈ n.instanceTypeOptions, ∀ o ∈ it.offerings, Priced settings.toRegistry o :=
    fun it option o offered => (contract it (known option) o offered).2
  have exact_ : PricedBelow settings.toRegistry r.nodeClaim (sumCandidatePrices candidates) ↔
      spotToSpot candidates n = true ∨ ¬ Masked settings.toRegistry n (sumCandidatePrices candidates) := by
    rcases computeReplacement_spec replaces with ⟨spot, same, each⟩ | ⟨notSpot, cheaper, shape, same, each⟩
    · exact ⟨fun _ => .inl spot, fun _ => pricedBelow_requireSpot priced same each⟩
    · rw [shape, pricedBelow_forceSpot_iff priced same each, notSpot]
      simp
  refine ⟨by simpa [only] using exact_, fun lengths => exact_.mpr (.inr ?_)⟩
  rw [only] at lengths
  obtain ⟨single, isSingle⟩ := List.length_eq_one_iff.mp lengths.symm
  rw [isSingle] at inLoop
  obtain rfl := List.mem_singleton.mp inLoop
  have contracts : ∀ it ∈ m.instanceTypeOptions, ∀ o ∈ it.offerings, OfferingContract settings.toRegistry o :=
    fun it option o offered => (contract it (alone.options m (isSingle ▸ inLoop) option) o offered).1
  exact not_masked_of_granted label contracts (alone.single m isSingle).2 requirements options

instance (registry : Registry) (n : NodeClaim) (price : ℚ) : Decidable (PricedBelow registry n price) := by
  unfold PricedBelow
  infer_instance

def mixedSettings : Settings := Provisioning.untolerating {capacityTypeLabelKey, "reservation-id"} "reservation-id"

def onDemandOffering (price : ℚ) : Offering where
  requirements := Requirements.newRequirements [newRequirement capacityTypeLabelKey .opIn [capacityTypeOnDemand]]
  price := price

def reservedOffering : Offering where
  requirements := Requirements.newRequirements [newRequirement capacityTypeLabelKey .opIn [capacityTypeReserved],
    newRequirement "reservation-id" .opIn ["r"]]
  price := 0
  reservationCapacity := 1

def familyType (family : String) (offerings : List Offering) : InstanceType where
  name := family
  requirements := Requirements.newRequirements [newRequirement "family" .opIn [family]]
  offerings := offerings
  capacity := AList.insert "cpu" 2 ∅
  nonneg := Resources.nonneg_two_cores

/-- Expensive on demand, with one reserved instance. -/
def mixedType : InstanceType := familyType "a" [onDemandOffering 10, reservedOffering]

def cheapType : InstanceType := familyType "b" [onDemandOffering 1]

def mixedInstanceTypes : Map String (List InstanceType) := AList.insert "default" [mixedType, cheapType] ∅

/-- A NodePool that may ask for several families. -/
def mixedScheduler (families : Option Int) : Scheduler where
  nodeClaimTemplates := [(
    { nodePoolName := "default"
      requirements := Requirements.newRequirements [newRequirementWithFlexibility "family" .opIn families ["a", "b"]]
      instanceTypeOptions := [mixedType, cheapType] },
    [{ instanceTypes := [mixedType, cheapType] }])]
  remainingResources := ∅
  reservationManager := Provisioning.newReservationManager mixedSettings.toRegistry mixedInstanceTypes

/-- A pod that fills a node; its devices may be on some instance types only. -/
def mixedAttempt (name : String) (devicesOn : Option (List String)) : Attempt where
  pod := { key := ⟨"default", name⟩ }
  podData :=
    { requests := AList.insert "cpu" 2 ∅
      requirements := Requirements.empty
      strictRequirements := Requirements.empty }
  collaborators := fun _ =>
    { addRequirements := fun _ _ _ _ => .ok Requirements.empty
      allocate := devicesOn.map fun names _ => .ok ⟨names, Requirements.empty, none⟩ }
  hostname := fun _ => name

def mixedRun (families : Option Int) (attempts : List Attempt) : Scheduler :=
  attempts.foldl (fun s a => s.afterCreation mixedSettings a) (mixedScheduler families)

def mixedResults (families : Option Int) (attempts : List Attempt) : Results :=
  ((mixedRun families attempts).results mixedSettings []).truncateInstanceTypes mixedSettings.toRegistry false

def mixedCandidate : Candidate where
  name := "node"
  providerID := "id"
  nodePool := "default"
  capacityType := capacityTypeOnDemand
  price := 5

theorem mixedContract : ∀ it ∈ Provisioning.allInstanceTypes mixedInstanceTypes, ∀ o ∈ it.offerings,
    OfferingContract mixedSettings.toRegistry o ∧ Priced mixedSettings.toRegistry o := by
  have plain : ∀ price, OfferingContract mixedSettings.toRegistry (onDemandOffering price) ∧
      Priced mixedSettings.toRegistry (onDemandOffering price) := by
    intro price
    -- The price is free here, so what is evaluated is stated for one price.
    have type : (onDemandOffering 0).capacityType ≠ capacityTypeReserved := by decide
    have keys : ∀ key ∈ (onDemandOffering 0).requirements.keys, key ∈ mixedSettings.wellKnownLabels := by decide
    refine ⟨⟨⟨_, rfl, rfl, rfl⟩, fun reserved => absurd reserved type, rfl⟩, ⟨_, rfl, rfl, rfl⟩,
      ⟨.onDemand, List.mem_cons_self⟩, fun key r found => ?_⟩
    exact keys key ((Requirements.mem_keys _ _).mpr (Option.isSome_of_eq_some found))
  have reserved : OfferingContract mixedSettings.toRegistry reservedOffering ∧
      Priced mixedSettings.toRegistry reservedOffering := by
    refine ⟨⟨⟨_, rfl, rfl, rfl⟩, fun _ => ⟨_, rfl, rfl, rfl⟩, rfl⟩, ⟨_, rfl, rfl, rfl⟩,
      ⟨.reserved, List.mem_singleton_self _⟩, fun key r found => ?_⟩
    have keys : ∀ key ∈ reservedOffering.requirements.keys, key ∈ mixedSettings.wellKnownLabels := by decide
    exact keys key ((Requirements.mem_keys _ _).mpr (Option.isSome_of_eq_some found))
  intro it member o offered
  rcases List.mem_cons.mp member with rfl | cheap
  · rcases List.mem_cons.mp offered with rfl | other
    · exact plain 10
    · rw [List.mem_singleton.mp other]
      exact reserved
  · obtain rfl := List.mem_singleton.mp cheap
    obtain rfl := List.mem_singleton.mp offered
    exact plain 1

theorem mixedFresh (families : Option Int) :
    Provisioning.Fresh mixedSettings mixedInstanceTypes (mixedScheduler families) where
  gate := rfl
  claims := rfl
  uncredited := rfl
  manager := rfl
  options := by
    intro entry member
    obtain rfl := List.mem_singleton.mp member
    exact List.Subset.refl _
  sameCapacity := by
    unfold Provisioning.SameCapacity
    decide

/-- Alone in the loop, the NodeClaim holds the reservation and is launched into it. -/
theorem replacement_price_reserved : (computeConsolidation mixedSettings.toRegistry false [mixedCandidate]
      (mixedResults none [mixedAttempt "b" none])).replacements ≠ [] ∧
    ∀ r ∈ (computeConsolidation mixedSettings.toRegistry false [mixedCandidate]
      (mixedResults none [mixedAttempt "b" none])).replacements,
      PricedBelow mixedSettings.toRegistry r.nodeClaim (sumCandidatePrices [mixedCandidate]) := by
  have label : ReservationLabel mixedSettings.toRegistry := ⟨by decide, by decide, by decide⟩
  have run : Scheduler.Reaches mixedSettings (fun _ _ => True) (mixedScheduler none)
      (mixedRun none [mixedAttempt "b" none]) :=
    .single (.fresh (mixedAttempt "b" none) rfl trivial (Scheduler.addToNewNodeClaim_eq (by decide +kernel)))
  refine ⟨?_, fun r member => (replacement_price_iff (mixedFresh none) run label mixedContract rfl member).2 ?_⟩
  · rw [ne_eq, ← List.isEmpty_iff]
    decide +kernel
  · decide +kernel

/-- The first pod takes the reservation for a NodeClaim that is dropped, since its devices leave one family
only. The second NodeClaim holds no reservation, passes the filter by it and may be launched at twice the
price of the candidate. -/
theorem replacement_price_raised : Scheduler.Reaches mixedSettings (fun _ _ => True) (mixedScheduler (some 2))
      (mixedRun (some 2) [mixedAttempt "a" (some ["a"]), mixedAttempt "b" none]) ∧
    ∃ r ∈ (computeConsolidation mixedSettings.toRegistry false [mixedCandidate]
      (mixedResults (some 2) [mixedAttempt "a" (some ["a"]), mixedAttempt "b" none])).replacements,
      ¬ PricedBelow mixedSettings.toRegistry r.nodeClaim (sumCandidatePrices [mixedCandidate]) := by
  constructor
  · have first : Scheduler.Step mixedSettings (fun _ _ => True) (mixedScheduler (some 2))
        (mixedRun (some 2) [mixedAttempt "a" (some ["a"])]) :=
      .fresh (mixedAttempt "a" (some ["a"])) rfl trivial (Scheduler.addToNewNodeClaim_eq (by decide +kernel))
    have second : Scheduler.Step mixedSettings (fun _ _ => True)
        (mixedRun (some 2) [mixedAttempt "a" (some ["a"])])
        (mixedRun (some 2) [mixedAttempt "a" (some ["a"]), mixedAttempt "b" none]) :=
      .fresh (mixedAttempt "b" none) (Scheduler.addToInflightNode_eq_none (by decide +kernel)) trivial
        (Scheduler.addToNewNodeClaim_eq (by decide +kernel))
    exact .head first (.single second)
  · decide +kernel

end Replacement

end Karpenter.Disruption
