import Karpenter.Resources.ResourceList
import Mathlib.Tactic.Ring

/-! The cost of the NodePools, kept up by every event: a NodeClaim that carries its own price adds that price, any other
one is counted under its offering, whose price the updates of the offerings change for all NodeClaims counted under it.
Prices are exact. -/
namespace Karpenter.Cost

open Go (Map)

structure OfferingKey where
  zone : String
  capacityType : String
  instanceName : String
deriving DecidableEq

/-- The price is that of one instance. -/
structure OfferingCount where
  count : Int
  price : ℚ

structure NodePoolCost where
  cost : ℚ := 0
  offeringCounts : Map OfferingKey OfferingCount := ∅
  fixedPrices : Map String ℚ := ∅

structure NodeClaimMetaData where
  nodePoolName : String
  nodeClaimKey : OfferingKey

structure ClusterCost where
  npCostMap : Map String NodePoolCost
  nodeClaimMap : Map String NodeClaimMetaData

/-- An offering as its accessors show it. -/
structure Offering where
  zone : String
  capacityType : String
  price : ℚ

structure InstanceType where
  name : String
  offerings : List Offering

def InstanceType.offeringPrice (it : InstanceType) (zone capacityType : String) : Option ℚ :=
  (it.offerings.find? fun o => o.zone = zone && o.capacityType = capacityType).map Offering.price

structure NodeClaim where
  name : String
  labels : Map String String

def necessaryLabels : List String :=
  ["node.kubernetes.io/instance-type", "karpenter.sh/capacity-type", "topology.kubernetes.io/zone",
    "karpenter.sh/nodepool"]

def nodeClaimMissingLabels (nc : NodeClaim) : Bool := necessaryLabels.any fun key => (nc.labels.lookup key).isNone

def NodeClaim.label (nc : NodeClaim) (key : String) : String := (nc.labels.lookup key).getD ""

def NodeClaim.nodePoolName (nc : NodeClaim) : String := nc.label "karpenter.sh/nodepool"

def NodeClaim.offeringKey (nc : NodeClaim) : OfferingKey where
  zone := nc.label "topology.kubernetes.io/zone"
  capacityType := nc.label "karpenter.sh/capacity-type"
  instanceName := nc.label "node.kubernetes.io/instance-type"

/-- What the others answer while a NodeClaim is added: the price it carries itself, whether its NodePool can be read,
and the instance types of that NodePool, of which some may be nil. -/
structure Answers where
  priceNodeClaim : Option ℚ
  nodePool : Bool
  getInstanceTypes : Option (List (Option InstanceType))

inductive CostError where
  | getNodePool
  | getInstanceTypes
  | nonexistentNodePool
  | nonexistentOffering
deriving DecidableEq

def findOfferingPrice (instanceTypes : List (Option InstanceType)) (key : OfferingKey) : Option ℚ :=
  match (instanceTypes.filterMap id).find? (fun it => it.name = key.instanceName) with
  | some it => it.offeringPrice key.zone key.capacityType
  | none => none

/-- A later offering under a key overwrites an earlier one. -/
def priceIndex (instanceTypes : List (Option InstanceType)) : Map OfferingKey ℚ :=
  ((instanceTypes.filterMap id).flatMap fun it => it.offerings.map fun o =>
    ((⟨o.zone, o.capacityType, it.name⟩ : OfferingKey), o.price)).foldl (fun prices entry => prices.insert entry.1 entry.2) ∅

namespace NodePoolCost

variable (npc : NodePoolCost)

def reprice (prices : Map OfferingKey ℚ) : NodePoolCost :=
  let offeringCounts := npc.offeringCounts.mapValues fun key oc => { oc with price := (prices.lookup key).getD oc.price }
  { npc with
    offeringCounts
    cost := npc.fixedPrices.total (fun _ price => price) + offeringCounts.total fun _ oc => (oc.count : ℚ) * oc.price }

def addFixedPrice (nn : String) (price : ℚ) : NodePoolCost :=
  { npc with fixedPrices := npc.fixedPrices.insert nn price, cost := npc.cost + price }

def removeFixedPrice (nn : String) : NodePoolCost :=
  { npc with fixedPrices := npc.fixedPrices.erase nn, cost := npc.cost - (npc.fixedPrices.lookup nn).getD 0 }

def addOffering (key : OfferingKey) (oc : OfferingCount) : NodePoolCost :=
  { npc with offeringCounts := npc.offeringCounts.insert key { oc with count := oc.count + 1 }, cost := npc.cost + oc.price }

def removeOffering (key : OfferingKey) (oc : OfferingCount) : NodePoolCost :=
  { npc with
    offeringCounts := if oc.count - 1 = 0 then npc.offeringCounts.erase key
      else npc.offeringCounts.insert key { oc with count := oc.count - 1 }
    cost := npc.cost - oc.price }

def isEmpty : Bool := npc.offeringCounts.entries.isEmpty && npc.fixedPrices.entries.isEmpty

end NodePoolCost

variable (cc : ClusterCost)

namespace ClusterCost

def new : ClusterCost := ⟨∅, ∅⟩

/-- The entry of a NodePool; a missing one is created empty when it is written. -/
def poolCost (npName : String) : NodePoolCost := (cc.npCostMap.lookup npName).getD {}

def put (npName : String) (npc : NodePoolCost) : ClusterCost :=
  { cc with npCostMap := cc.npCostMap.insert npName npc }

/-- The entry of a NodePool goes with the last thing it counts. -/
def putOrDelete (npName : String) (npc : NodePoolCost) : ClusterCost :=
  if npc.isEmpty then { cc with npCostMap := cc.npCostMap.erase npName } else cc.put npName npc

def updateOfferings (npName : String) (instanceTypes : List (Option InstanceType)) : ClusterCost :=
  match cc.npCostMap.lookup npName with
  | none => cc.put npName {}
  | some npc => cc.put npName (npc.reprice (priceIndex instanceTypes))

def internalAddFixedPrice (npName nn : String) (price : ℚ) : ClusterCost :=
  cc.put npName ((cc.poolCost npName).addFixedPrice nn price)

def internalRemoveFixedPrice (npName nn : String) : ClusterCost :=
  cc.putOrDelete npName ((cc.poolCost npName).removeFixedPrice nn)

/-- The entry of the NodePool is there already when the instance types cannot be read. -/
def internalAddOffering (answers : Answers) (npName : String) (offeringKey : OfferingKey) :
    Option CostError × ClusterCost :=
  if !answers.nodePool then (some .getNodePool, cc)
  else match (cc.poolCost npName).offeringCounts.lookup offeringKey with
    | some oc => (none, cc.put npName ((cc.poolCost npName).addOffering offeringKey oc))
    | none => match answers.getInstanceTypes with
      | none => (some .getInstanceTypes, cc.put npName (cc.poolCost npName))
      | some instanceTypes => (none, cc.put npName ((cc.poolCost npName).addOffering offeringKey
          ⟨0, (findOfferingPrice instanceTypes offeringKey).getD 0⟩))

def internalRemoveOffering (npName : String) (offeringKey : OfferingKey) : Option CostError × ClusterCost :=
  match cc.npCostMap.lookup npName with
  | none => (some .nonexistentNodePool, cc)
  | some npc => match npc.offeringCounts.lookup offeringKey with
    | none => (some .nonexistentOffering, cc)
    | some oc => (none, cc.putOrDelete npName (npc.removeOffering offeringKey oc))

/-- The price the NodeClaim carries itself comes before that of its offering. -/
def addNodeClaim (answers : Answers) (nodeClaim : NodeClaim) : Option CostError × ClusterCost :=
  match answers.priceNodeClaim with
  | some price => (none, cc.internalAddFixedPrice nodeClaim.nodePoolName nodeClaim.name price)
  | none => cc.internalAddOffering answers nodeClaim.nodePoolName nodeClaim.offeringKey

def updateNodeClaim (answers : Answers) (nodeClaim : NodeClaim) : Option CostError × ClusterCost :=
  if (cc.nodeClaimMap.lookup nodeClaim.name).isSome then (none, cc)
  else if nodeClaimMissingLabels nodeClaim then (none, cc)
  else match cc.addNodeClaim answers nodeClaim with
    | (some err, cc) => (some err, cc)
    | (none, cc) => (none, { cc with
        nodeClaimMap := cc.nodeClaimMap.insert nodeClaim.name ⟨nodeClaim.nodePoolName, nodeClaim.offeringKey⟩ })

def removeNodeClaim (metadata : NodeClaimMetaData) (nn : String) : Option CostError × ClusterCost :=
  if ((cc.poolCost metadata.nodePoolName).fixedPrices.lookup nn).isSome then
    (none, cc.internalRemoveFixedPrice metadata.nodePoolName nn)
  else cc.internalRemoveOffering metadata.nodePoolName metadata.nodeClaimKey

def deleteNodeClaim (nn : String) : Option CostError × ClusterCost :=
  match cc.nodeClaimMap.lookup nn with
  | none => (none, cc)
  | some metadata => match cc.removeNodeClaim metadata nn with
    | (some err, cc) => (some err, cc)
    | (none, cc) => (none, { cc with nodeClaimMap := cc.nodeClaimMap.erase nn })

def deleteNodePool (npName : String) : ClusterCost where
  nodeClaimMap := cc.nodeClaimMap.filterMapValues fun _ metadata =>
    if metadata.nodePoolName ≠ npName then some metadata else none
  npCostMap := cc.npCostMap.erase npName

def getClusterCost : ℚ := cc.npCostMap.total fun _ npc => npc.cost

def getNodepoolCost (npName : String) : ℚ :=
  match cc.npCostMap.lookup npName with
  | none => 0
  | some npc => npc.cost

end ClusterCost

inductive Event where
  | updateNodeClaim (answers : Answers) (nodeClaim : NodeClaim)
  | deleteNodeClaim (nn : String)
  | updateOfferings (npName : String) (instanceTypes : List (Option InstanceType))
  | deleteNodePool (npName : String)

def ClusterCost.apply : Event → ClusterCost
  | .updateNodeClaim answers nodeClaim => (cc.updateNodeClaim answers nodeClaim).2
  | .deleteNodeClaim nn => (cc.deleteNodeClaim nn).2
  | .updateOfferings npName instanceTypes => cc.updateOfferings npName instanceTypes
  | .deleteNodePool npName => cc.deleteNodePool npName

def run (events : List Event) : ClusterCost := events.foldl ClusterCost.apply ClusterCost.new

/-! The ledger says what the events mean: which NodeClaims are tracked, each with its NodePool, its offering and the
price it was given, and what an offering costs in a NodePool. -/

structure Tracked where
  pool : String
  key : OfferingKey
  fixed : Option ℚ

def Tracked.metadata (t : Tracked) : NodeClaimMetaData := ⟨t.pool, t.key⟩

/-- Whether the NodeClaim is priced by this offering of the NodePool. -/
def Tracked.uses (t : Tracked) (pool : String) (key : OfferingKey) : Bool := t.pool = pool && t.key = key && t.fixed.isNone

structure Ledger where
  tracked : Map String Tracked
  price : String → OfferingKey → ℚ

namespace Ledger

variable (l : Ledger)

def counted (pool : String) (key : OfferingKey) : Nat :=
  l.tracked.entries.countP fun entry => entry.2.uses pool key

def track (nn : String) (t : Tracked) : Ledger := { l with tracked := l.tracked.insert nn t }

def untrack (nn : String) : Ledger := { l with tracked := l.tracked.erase nn }

def setPrice (pool : String) (key : OfferingKey) (price : ℚ) : Ledger :=
  { l with price := fun p k => if p = pool ∧ k = key then price else l.price p k }

/-- An offering that no tracked NodeClaim uses gets its price when the first one comes. -/
def updateNodeClaim (answers : Answers) (nodeClaim : NodeClaim) : Ledger :=
  let pool := nodeClaim.nodePoolName
  let key := nodeClaim.offeringKey
  if (l.tracked.lookup nodeClaim.name).isSome || nodeClaimMissingLabels nodeClaim then l
  else match answers.priceNodeClaim with
    | some price => l.track nodeClaim.name ⟨pool, key, some price⟩
    | none =>
      if !answers.nodePool then l
      else if l.counted pool key ≠ 0 then l.track nodeClaim.name ⟨pool, key, none⟩
      else match answers.getInstanceTypes with
        | none => l
        | some instanceTypes =>
          (l.setPrice pool key ((findOfferingPrice instanceTypes key).getD 0)).track nodeClaim.name ⟨pool, key, none⟩

def updateOfferings (npName : String) (instanceTypes : List (Option InstanceType)) : Ledger :=
  { l with price := fun pool key =>
      if pool = npName then ((priceIndex instanceTypes).lookup key).getD (l.price pool key) else l.price pool key }

def deleteNodePool (npName : String) : Ledger :=
  { l with tracked := l.tracked.filterMapValues fun _ t => if t.pool ≠ npName then some t else none }

def apply : Event → Ledger
  | .updateNodeClaim answers nodeClaim => l.updateNodeClaim answers nodeClaim
  | .deleteNodeClaim nn => l.untrack nn
  | .updateOfferings npName instanceTypes => l.updateOfferings npName instanceTypes
  | .deleteNodePool npName => l.deleteNodePool npName

end Ledger

def ledger (events : List Event) : Ledger := events.foldl Ledger.apply ⟨∅, fun _ _ => 0⟩

namespace Ledger

variable (l : Ledger) (pool : String) (key : OfferingKey) (nn : String) (t : Tracked)

theorem counted_eq_total : (l.counted pool key : ℤ) = l.tracked.total fun _ t => if t.uses pool key then 1 else 0 := by
  rw [counted, Map.total]
  induction l.tracked.entries with
  | nil => rfl
  | cons entry rest ih =>
    rw [List.countP_cons, List.map_cons, List.sum_cons, ← ih]
    split <;> push_cast <;> ring

theorem counted_track (untracked : l.tracked.lookup nn = none) :
    (l.track nn t).counted pool key = l.counted pool key + if t.uses pool key then 1 else 0 := by
  have cast : ((l.track nn t).counted pool key : ℤ) = l.counted pool key + if t.uses pool key then 1 else 0 := by
    rw [counted_eq_total, counted_eq_total, track, Map.total_insert, untracked, Option.elim_none, sub_zero]
  exact_mod_cast cast

theorem counted_untrack (tracked : l.tracked.lookup nn = some t) :
    (l.untrack nn).counted pool key + (if t.uses pool key then 1 else 0) = l.counted pool key := by
  have cast : ((l.untrack nn).counted pool key : ℤ) + (if t.uses pool key then 1 else 0) = l.counted pool key := by
    rw [counted_eq_total, counted_eq_total, untrack, Map.total_erase, tracked, Option.elim_some, sub_add_cancel]
  exact_mod_cast cast

theorem counted_pos (tracked : l.tracked.lookup nn = some t) (uses : t.uses pool key = true) :
    0 < l.counted pool key := by
  rw [counted, List.countP_pos_iff]
  exact ⟨⟨nn, t⟩, Map.mem_entries_iff.mpr tracked, uses⟩

theorem setPrice_price (price : ℚ) : (l.setPrice pool key price).price pool key = price := if_pos ⟨rfl, rfl⟩

/-- What the ledger says about a NodeClaim that belongs to the NodePool. -/
def ofPool : Option Tracked := (l.tracked.lookup nn).filter fun t => t.pool = pool

theorem fixed_ofPool : ((l.tracked.lookup nn).bind fun t => if t.pool = pool then t.fixed else none) =
    (l.ofPool pool nn).bind Tracked.fixed := by
  rw [ofPool]
  cases l.tracked.lookup nn with
  | none => rfl
  | some t => by_cases here : t.pool = pool <;> simp [here, Option.filter]

/-- Only the NodeClaims of the NodePool matter. -/
theorem counted_congr {l l' : Ledger} (same : ∀ nn, l'.ofPool pool nn = l.ofPool pool nn) :
    l'.counted pool key = l.counted pool key := by
  have uses (l : Ledger) (nn : String) : ((l.tracked.lookup nn).elim 0 fun t => if t.uses pool key then (1 : ℤ) else 0) =
      (l.ofPool pool nn).elim 0 fun t => if t.uses pool key then 1 else 0 := by
    rw [ofPool]
    cases l.tracked.lookup nn with
    | none => rfl
    | some t => by_cases here : t.pool = pool <;> simp [here, Option.filter, Tracked.uses]
  have cast : (l'.counted pool key : ℤ) = l.counted pool key := by
    rw [counted_eq_total, counted_eq_total]
    exact Map.total_eq_total fun nn => by rw [uses, uses, same]
  exact_mod_cast cast

end Ledger

/-- The entry of a NodePool holds what the ledger says about it. -/
structure Accounts (l : Ledger) (pool : String) (npc : NodePoolCost) : Prop where
  fixed : ∀ nn, npc.fixedPrices.lookup nn =
    (l.tracked.lookup nn).bind fun t => if t.pool = pool then t.fixed else none
  counts : ∀ key, npc.offeringCounts.lookup key =
    if l.counted pool key = 0 then none else some ⟨l.counted pool key, l.price pool key⟩
  cost : npc.cost = npc.fixedPrices.total (fun _ price => price) +
    npc.offeringCounts.total fun _ oc => (oc.count : ℚ) * oc.price

namespace Accounts

/-- A NodePool that counts nothing has the empty entry. -/
theorem empty (untracked : ∀ nn t, l.tracked.lookup nn = some t → t.pool ≠ pool) : Accounts l pool {} where
  fixed nn := by
    cases found : l.tracked.lookup nn with
    | none => rfl
    | some t =>
      rw [Option.bind_some, if_neg (untracked nn t found)]
      rfl
  counts key := by
    have zero : l.counted pool key = 0 := by
      rw [Ledger.counted, List.countP_eq_zero]
      rintro ⟨nn, t⟩ member uses
      simp only [Tracked.uses, Bool.and_eq_true, decide_eq_true_eq] at uses
      exact untracked nn t (Map.mem_entries_iff.mp member) uses.1.1
    rw [if_pos zero]
    rfl
  cost := (add_zero 0).symm

variable (accounts : Accounts l pool npc)

include accounts

/-- An entry depends on the ledger only through its own NodePool. -/
theorem congr {l' : Ledger} (same : ∀ nn, l'.ofPool pool nn = l.ofPool pool nn)
    (price : ∀ key, l.counted pool key ≠ 0 → l'.price pool key = l.price pool key) : Accounts l' pool npc where
  fixed nn := by rw [accounts.fixed, l.fixed_ofPool, l'.fixed_ofPool, same]
  counts key := by
    rw [accounts.counts, Ledger.counted_congr pool key same]
    split
    · rfl
    · rename_i some_
      rw [price key some_]
  cost := accounts.cost

theorem eq_empty (empty : npc.isEmpty = true) : npc = {} := by
  obtain ⟨cost, offeringCounts, fixedPrices⟩ := npc
  rw [NodePoolCost.isEmpty, Bool.and_eq_true, List.isEmpty_iff, List.isEmpty_iff] at empty
  obtain ⟨counts, fixed⟩ := empty
  obtain rfl : offeringCounts = ∅ := AList.ext counts
  obtain rfl : fixedPrices = ∅ := AList.ext fixed
  obtain rfl : cost = 0 := accounts.cost.trans (add_zero 0)
  rfl

/-- The cost depends on the ledger alone. -/
theorem cost_unique (accounts' : Accounts l pool npc') : npc.cost = npc'.cost := by
  rw [accounts.cost, accounts'.cost]
  congr 1
  · exact Map.total_eq_total fun nn => by rw [accounts.fixed, accounts'.fixed]
  · exact Map.total_eq_total fun key => by rw [accounts.counts, accounts'.counts]

theorem fixed_of_tracked {key : OfferingKey} (tracked : l.tracked.lookup nn = some ⟨pool, key, given⟩) :
    npc.fixedPrices.lookup nn = given := by
  rw [accounts.fixed, tracked, Option.bind_some, if_pos rfl]

theorem fixed_of_untracked (untracked : l.tracked.lookup nn = none) : npc.fixedPrices.lookup nn = none := by
  rw [accounts.fixed, untracked, Option.bind_none]

theorem addFixedPrice (untracked : l.tracked.lookup nn = none) (key : OfferingKey)
    (price : ℚ) : Accounts (l.track nn ⟨pool, key, some price⟩) pool (npc.addFixedPrice nn price) where
  fixed nn' := by
    rw [NodePoolCost.addFixedPrice, Map.lookup_insert_eq, Ledger.track, Map.lookup_insert_eq]
    split
    · rw [Option.bind_some, if_pos rfl]
    · exact accounts.fixed nn'
  counts key' := by
    rw [Ledger.counted_track l pool key' nn _ untracked]
    simp only [Tracked.uses, Option.isNone_some, Bool.and_false, Bool.false_eq_true, if_false, Nat.add_zero]
    exact accounts.counts key'
  cost := by
    simp only [NodePoolCost.addFixedPrice, Map.total_insert, accounts.fixed_of_untracked untracked, Option.elim_none]
    rw [accounts.cost]
    ring

theorem removeFixedPrice {key : OfferingKey} (tracked : l.tracked.lookup nn = some ⟨pool, key, some price⟩) :
    Accounts (l.untrack nn) pool (npc.removeFixedPrice nn) where
  fixed nn' := by
    rw [NodePoolCost.removeFixedPrice, Map.lookup_erase_eq, Ledger.untrack, Map.lookup_erase_eq]
    split
    · rfl
    · exact accounts.fixed nn'
  counts key' := by
    have less := Ledger.counted_untrack l pool key' nn _ tracked
    simp only [Tracked.uses, Option.isNone_some, Bool.and_false, Bool.false_eq_true, if_false, Nat.add_zero] at less
    rw [less]
    exact accounts.counts key'
  cost := by
    simp only [NodePoolCost.removeFixedPrice, Map.total_erase, accounts.fixed_of_tracked tracked, Option.elim_some,
      Option.getD_some]
    rw [accounts.cost]
    ring

/-- What the counted NodeClaims of an offering cost, whether or not it has an entry. -/
theorem offering_cost (key : OfferingKey) :
    ((npc.offeringCounts.lookup key).elim 0 fun oc => (oc.count : ℚ) * oc.price) =
      (l.counted pool key : ℚ) * l.price pool key := by
  rw [accounts.counts]
  split
  · rename_i zero
    rw [zero, Option.elim_none, Nat.cast_zero, zero_mul]
  · rw [Option.elim_some, Int.cast_natCast]

theorem addOffering (untracked : l.tracked.lookup nn = none) (key : OfferingKey) :
    Accounts (l.track nn ⟨pool, key, none⟩) pool
      (npc.addOffering key ⟨l.counted pool key, l.price pool key⟩) where
  fixed nn' := by
    rw [NodePoolCost.addOffering, Ledger.track, Map.lookup_insert_eq]
    split
    · rename_i same
      rw [same, accounts.fixed_of_untracked untracked, Option.bind_some, if_pos rfl]
    · exact accounts.fixed nn'
  counts key' := by
    rw [Ledger.counted_track l pool key' nn _ untracked, NodePoolCost.addOffering, Map.lookup_insert_eq]
    by_cases same : key' = key
    · subst same
      simp [Tracked.uses, Ledger.track]
    · simp only [Tracked.uses, same, Ne.symm same, decide_true, decide_false, Bool.and_false, Bool.false_and,
        Bool.false_eq_true, if_false, Nat.add_zero]
      exact accounts.counts key'
  cost := by
    simp only [NodePoolCost.addOffering, Map.total_insert, accounts.offering_cost key]
    rw [accounts.cost]
    push_cast
    ring

theorem removeOffering {key : OfferingKey} (tracked : l.tracked.lookup nn = some ⟨pool, key, none⟩) :
    Accounts (l.untrack nn) pool (npc.removeOffering key ⟨l.counted pool key, l.price pool key⟩) := by
  have less := fun key' => Ledger.counted_untrack l pool key' nn _ tracked
  have here : (l.untrack nn).counted pool key + 1 = l.counted pool key := by
    simpa [Tracked.uses] using less key
  have lookup : ∀ key', (npc.removeOffering key ⟨l.counted pool key, l.price pool key⟩).offeringCounts.lookup key' =
      if key' = key then (if (l.untrack nn).counted pool key = 0 then none
        else some ⟨(l.untrack nn).counted pool key, l.price pool key⟩) else npc.offeringCounts.lookup key' := by
    intro key'
    have one : (l.counted pool key : ℤ) - 1 = (l.untrack nn).counted pool key := by omega
    simp only [NodePoolCost.removeOffering, one, Nat.cast_eq_zero]
    by_cases last : (l.untrack nn).counted pool key = 0
    · rw [if_pos last, if_pos last, Map.lookup_erase_eq]
    · rw [if_neg last, if_neg last, Map.lookup_insert_eq]
  refine ⟨fun nn' => ?_, fun key' => ?_, ?_⟩
  · change npc.fixedPrices.lookup nn' = _
    rw [Ledger.untrack, Map.lookup_erase_eq]
    split
    · rename_i same
      rw [same, accounts.fixed_of_tracked tracked, Option.bind_none]
    · exact accounts.fixed nn'
  · rw [lookup]
    split
    · rename_i same
      rw [same]
      rfl
    · rename_i other
      have kept := less key'
      simp only [Tracked.uses, Ne.symm other, decide_true, decide_false, Bool.and_false, Bool.false_and,
        Bool.false_eq_true, if_false, Nat.add_zero] at kept
      rw [kept]
      exact accounts.counts key'
  · have total : (npc.removeOffering key ⟨l.counted pool key, l.price pool key⟩).offeringCounts.total
        (fun _ oc => (oc.count : ℚ) * oc.price) =
        npc.offeringCounts.total (fun _ oc => (oc.count : ℚ) * oc.price) - l.price pool key := by
      rw [NodePoolCost.removeOffering]
      dsimp only
      split
      · rename_i last
        have one : l.counted pool key = 1 := by omega
        rw [Map.total_erase, accounts.offering_cost key, one, Nat.cast_one, one_mul]
      · rw [Map.total_insert, accounts.offering_cost key]
        push_cast
        ring
    rw [total]
    simp only [NodePoolCost.removeOffering]
    rw [accounts.cost]
    ring

theorem reprice (instanceTypes : List (Option InstanceType)) :
    Accounts (l.updateOfferings pool instanceTypes) pool (npc.reprice (priceIndex instanceTypes)) where
  fixed := accounts.fixed
  counts key := by
    rw [NodePoolCost.reprice, Map.lookup_mapValues, accounts.counts]
    change Option.map _ (if l.counted pool key = 0 then _ else _) = if l.counted pool key = 0 then _ else _
    split
    · rfl
    · simp only [Option.map_some, Ledger.updateOfferings, if_true]
      rfl
  cost := rfl

end Accounts

/-- The cluster cost tracks the NodeClaims of the ledger, and every NodePool's entry holds what the ledger says. -/
structure Represents (cc : ClusterCost) (l : Ledger) : Prop where
  claims : ∀ nn, cc.nodeClaimMap.lookup nn = (l.tracked.lookup nn).map Tracked.metadata
  pools : ∀ pool, Accounts l pool (cc.poolCost pool)

theorem represents_new : Represents ClusterCost.new ⟨∅, fun _ _ => 0⟩ where
  claims _ := rfl
  pools _ := .empty fun _ _ found => (Option.some_ne_none _ found.symm).elim

section Writes

variable (cc : ClusterCost) (npName other : String) (npc : NodePoolCost)

theorem poolCost_put : (cc.put npName npc).poolCost other = if other = npName then npc else cc.poolCost other := by
  rw [ClusterCost.poolCost, ClusterCost.put, Map.lookup_insert_eq]
  split <;> rfl

theorem poolCost_putOrDelete {l : Ledger} (accounts : Accounts l npName npc) :
    (cc.putOrDelete npName npc).poolCost other = if other = npName then npc else cc.poolCost other := by
  rw [ClusterCost.putOrDelete]
  split
  · rename_i empty
    rw [ClusterCost.poolCost, Map.lookup_erase_eq, accounts.eq_empty empty]
    split <;> rfl
  · exact poolCost_put cc npName other npc

theorem nodeClaimMap_putOrDelete : (cc.putOrDelete npName npc).nodeClaimMap = cc.nodeClaimMap := by
  rw [ClusterCost.putOrDelete]
  split <;> rfl

end Writes

theorem reprice_empty (prices : Map OfferingKey ℚ) : NodePoolCost.reprice {} prices = {} :=
  congrArg (fun cost => ({ cost } : NodePoolCost)) (add_zero 0)

theorem poolCost_updateOfferings (npName : String) (instanceTypes : List (Option InstanceType)) (pool : String) :
    (cc.updateOfferings npName instanceTypes).poolCost pool =
      if pool = npName then (cc.poolCost npName).reprice (priceIndex instanceTypes) else cc.poolCost pool := by
  have stored : cc.poolCost npName = (cc.npCostMap.lookup npName).getD {} := rfl
  rw [ClusterCost.updateOfferings, stored]
  cases cc.npCostMap.lookup npName with
  | none => rw [poolCost_put, Option.getD_none, reprice_empty]
  | some npc => rw [poolCost_put, Option.getD_some]

namespace Represents

variable {cc : ClusterCost} (rep : Represents cc l)
include rep

theorem untracked_iff (nn : String) : cc.nodeClaimMap.lookup nn = none ↔ l.tracked.lookup nn = none := by
  rw [rep.claims, Option.map_eq_none_iff]

theorem change {cc' : ClusterCost} {l' : Ledger} {pool : String}
    (claims : ∀ nn, cc'.nodeClaimMap.lookup nn = (l'.tracked.lookup nn).map Tracked.metadata)
    (here : Accounts l' pool (cc'.poolCost pool)) (others : ∀ other ≠ pool, cc'.poolCost other = cc.poolCost other)
    (same : ∀ other ≠ pool, ∀ nn, l'.ofPool other nn = l.ofPool other nn)
    (price : ∀ other ≠ pool, l'.price other = l.price other) : Represents cc' l' where
  claims := claims
  pools other := by
    by_cases this : other = pool
    · exact this ▸ here
    · rw [others other this]
      exact (rep.pools other).congr (same other this) fun key _ => congrFun (price other this) key

theorem track {nn : String} {t : Tracked} {npc : NodePoolCost} (untracked : l.tracked.lookup nn = none)
    (accounts : Accounts (l.track nn t) t.pool npc) :
    Represents { cc.put t.pool npc with nodeClaimMap := cc.nodeClaimMap.insert nn t.metadata } (l.track nn t) := by
  have written (pool : String) := poolCost_put cc t.pool pool npc
  refine rep.change (fun nn' => ?_) ?_ (fun other this => (written other).trans (if_neg this)) (fun other this nn' => ?_)
    fun _ _ => rfl
  · rw [Map.lookup_insert_eq, Ledger.track, Map.lookup_insert_eq, rep.claims]
    split <;> rfl
  · exact ((written t.pool).trans (if_pos rfl)).symm ▸ accounts
  · rw [Ledger.ofPool, Ledger.track, Map.lookup_insert_eq]
    split
    · rename_i same
      rw [Ledger.ofPool, same, untracked]
      simp [Option.filter, Ne.symm this]
    · rfl

theorem untrack {cc' : ClusterCost} {nn : String} {t : Tracked} (tracked : l.tracked.lookup nn = some t)
    (claims : cc'.nodeClaimMap = cc.nodeClaimMap.erase nn) (here : Accounts (l.untrack nn) t.pool (cc'.poolCost t.pool))
    (others : ∀ other ≠ t.pool, cc'.poolCost other = cc.poolCost other) : Represents cc' (l.untrack nn) := by
  refine rep.change (fun nn' => ?_) here others (fun other this nn' => ?_) fun _ _ => rfl
  · rw [claims, Map.lookup_erase_eq, Ledger.untrack, Map.lookup_erase_eq, rep.claims]
    split <;> rfl
  · rw [Ledger.ofPool, Ledger.untrack, Map.lookup_erase_eq]
    split
    · rename_i same
      rw [Ledger.ofPool, same, tracked]
      simp [Option.filter, Ne.symm this]
    · rfl

/-- The price of an offering that nothing uses is free. -/
theorem setPrice {pool : String} {key : OfferingKey} (unused : l.counted pool key = 0) (price : ℚ) :
    Represents cc (l.setPrice pool key price) where
  claims := rep.claims
  pools other := by
    refine (rep.pools other).congr (fun _ => rfl) fun key' used => if_neg ?_
    rintro ⟨rfl, rfl⟩
    exact used unused

variable (npName : String)

theorem put_same : Represents (cc.put npName (cc.poolCost npName)) l where
  claims := rep.claims
  pools pool := by
    rw [poolCost_put]
    split
    · rename_i same
      exact same ▸ rep.pools npName
    · exact rep.pools pool

theorem updateNodeClaim (answers : Answers) (nodeClaim : NodeClaim) :
    Represents (cc.updateNodeClaim answers nodeClaim).2 (l.updateNodeClaim answers nodeClaim) := by
  have known : (cc.nodeClaimMap.lookup nodeClaim.name).isSome = (l.tracked.lookup nodeClaim.name).isSome := by
    rw [rep.claims, Option.isSome_map]
  rw [ClusterCost.updateNodeClaim, Ledger.updateNodeClaim, known]
  cases tracked : (l.tracked.lookup nodeClaim.name).isSome with
  | true => exact rep
  | false =>
    have untracked : l.tracked.lookup nodeClaim.name = none :=
      Option.isNone_iff_eq_none.mp (Option.isSome_eq_false_iff.mp tracked)
    cases nodeClaimMissingLabels nodeClaim with
    | true => exact rep
    | false =>
      simp only [Bool.false_eq_true, if_false, Bool.or_false, ClusterCost.addNodeClaim]
      cases answers.priceNodeClaim with
      | some price => exact rep.track untracked ((rep.pools _).addFixedPrice untracked _ price)
      | none =>
        simp only [ClusterCost.internalAddOffering]
        cases answers.nodePool with
        | false => exact rep
        | true =>
          simp only [Bool.not_true, Bool.false_eq_true, if_false]
          rw [(rep.pools nodeClaim.nodePoolName).counts]
          by_cases unused : l.counted nodeClaim.nodePoolName nodeClaim.offeringKey = 0
          · simp only [unused, if_true, ne_eq, not_true_eq_false, if_false]
            cases answers.getInstanceTypes with
            | none => exact rep.put_same _
            | some instanceTypes =>
              have priced := rep.setPrice unused ((findOfferingPrice instanceTypes nodeClaim.offeringKey).getD 0)
              have accounts := (priced.pools nodeClaim.nodePoolName).addOffering untracked nodeClaim.offeringKey
              rw [Ledger.setPrice_price, show Ledger.counted (l.setPrice _ _ _) _ _ = 0 from unused] at accounts
              exact priced.track untracked accounts
          · simp only [unused, if_false, ne_eq, not_false_eq_true, if_true]
            exact rep.track untracked ((rep.pools _).addOffering untracked _)

theorem removeNodeClaim {nn : String} {t : Tracked} (tracked : l.tracked.lookup nn = some t) :
    ∃ npc, cc.removeNodeClaim t.metadata nn = (none, cc.putOrDelete t.pool npc) ∧
      Accounts (l.untrack nn) t.pool npc := by
  obtain ⟨pool, key, given⟩ := t
  have accounts := rep.pools pool
  have fixed := accounts.fixed_of_tracked tracked
  cases given with
  | some price =>
    refine ⟨_, ?_, accounts.removeFixedPrice tracked⟩
    rw [ClusterCost.removeNodeClaim]
    simp only [Tracked.metadata, fixed, Option.isSome_some, if_true]
    rfl
  | none =>
    have used : l.counted pool key ≠ 0 :=
      (l.counted_pos pool key nn _ tracked (by simp [Tracked.uses])).ne'
    have counts := accounts.counts key
    rw [if_neg used] at counts
    refine ⟨_, ?_, accounts.removeOffering tracked⟩
    rw [ClusterCost.removeNodeClaim]
    simp only [Tracked.metadata, fixed, Option.isSome_none, Bool.false_eq_true, if_false,
      ClusterCost.internalRemoveOffering]
    cases found : cc.npCostMap.lookup pool with
    | none =>
      rw [ClusterCost.poolCost, found] at counts
      cases counts
    | some npc =>
      have same : cc.poolCost pool = npc := by rw [ClusterCost.poolCost, found, Option.getD_some]
      rw [same] at counts
      rw [same]
      dsimp only
      rw [counts]

theorem deleteNodeClaim (nn : String) : Represents (cc.deleteNodeClaim nn).2 (l.untrack nn) := by
  rw [ClusterCost.deleteNodeClaim]
  cases tracked : l.tracked.lookup nn with
  | none =>
    rw [(rep.untracked_iff nn).mpr tracked]
    have same : l.untrack nn = l := by
      have erased : l.tracked.erase nn = l.tracked :=
        AList.ext (List.kerase_of_notMem_keys (AList.lookup_eq_none.mp tracked))
      rw [Ledger.untrack, erased]
    rw [same]
    exact rep
  | some t =>
    obtain ⟨npc, removed, accounts⟩ := rep.removeNodeClaim tracked
    rw [rep.claims, tracked, Option.map_some]
    dsimp only
    rw [removed]
    refine rep.untrack tracked ?_ ?_ fun other differs => ?_
    · exact congrArg (AList.erase nn) (nodeClaimMap_putOrDelete cc t.pool npc)
    · have written := poolCost_putOrDelete cc t.pool t.pool npc accounts
      rw [if_pos rfl] at written
      rw [← written] at accounts
      exact accounts
    · exact (poolCost_putOrDelete cc t.pool other npc accounts).trans (if_neg differs)

theorem deleteNodeClaim_ok {nn : String} (tracked : cc.nodeClaimMap.lookup nn ≠ none) :
    (cc.deleteNodeClaim nn).1 = none := by
  obtain ⟨t, there⟩ := Option.ne_none_iff_exists'.mp (mt (rep.untracked_iff nn).mpr tracked)
  obtain ⟨npc, removed, -⟩ := rep.removeNodeClaim there
  rw [ClusterCost.deleteNodeClaim, rep.claims, there, Option.map_some]
  dsimp only
  rw [removed]

theorem updateOfferings (instanceTypes : List (Option InstanceType)) :
    Represents (cc.updateOfferings npName instanceTypes) (l.updateOfferings npName instanceTypes) := by
  have written := poolCost_updateOfferings cc npName instanceTypes
  refine rep.change (fun nn => ?_) ?_ (fun other this => (written other).trans (if_neg this)) (fun _ _ _ => rfl)
    fun other this => funext fun key => if_neg this
  · rw [ClusterCost.updateOfferings]
    split <;> exact rep.claims nn
  · rw [written, if_pos rfl]
    exact (rep.pools npName).reprice instanceTypes

theorem deleteNodePool : Represents (cc.deleteNodePool npName) (l.deleteNodePool npName) := by
  have kept (nn : String) : (l.deleteNodePool npName).tracked.lookup nn =
      (l.tracked.lookup nn).filter fun t => t.pool ≠ npName := by
    rw [Ledger.deleteNodePool, Map.lookup_filterMapValues]
    cases l.tracked.lookup nn with
    | none => rfl
    | some t => by_cases here : t.pool = npName <;> simp [here, Option.filter]
  have poolCost (pool : String) : (cc.deleteNodePool npName).poolCost pool =
      if pool = npName then {} else cc.poolCost pool := by
    rw [ClusterCost.poolCost, ClusterCost.deleteNodePool, Map.lookup_erase_eq]
    split <;> rfl
  refine rep.change (fun nn => ?_) ?_ (fun other this => (poolCost other).trans (if_neg this)) (fun other this nn => ?_)
    fun _ _ => rfl
  · rw [ClusterCost.deleteNodePool, Map.lookup_filterMapValues, rep.claims, kept]
    cases l.tracked.lookup nn with
    | none => rfl
    | some t => by_cases here : t.pool = npName <;> simp [here, Option.filter, Tracked.metadata]
  · rw [poolCost, if_pos rfl]
    refine .empty fun nn t found => ?_
    rw [kept, Option.filter_eq_some_iff] at found
    simpa using found.2
  · rw [Ledger.ofPool, Ledger.ofPool, kept]
    cases l.tracked.lookup nn with
    | none => rfl
    | some t => by_cases here : t.pool = npName <;> simp [here, Option.filter, Ne.symm this]

theorem apply (event : Event) : Represents (cc.apply event) (l.apply event) := by
  cases event with
  | updateNodeClaim answers nodeClaim => exact rep.updateNodeClaim answers nodeClaim
  | deleteNodeClaim nn => exact rep.deleteNodeClaim nn
  | updateOfferings npName instanceTypes => exact rep.updateOfferings npName instanceTypes
  | deleteNodePool npName => exact rep.deleteNodePool npName

end Represents

theorem represents_run (events : List Event) : Represents (run events) (ledger events) :=
  List.foldl_rel represents_new fun event _ _ _ rep => rep.apply event

theorem getNodepoolCost_eq (pool : String) : cc.getNodepoolCost pool = (cc.poolCost pool).cost := by
  rw [ClusterCost.getNodepoolCost, ClusterCost.poolCost]
  cases cc.npCostMap.lookup pool <;> rfl

/-- Without a tracked NodeClaim no NodePool costs anything. -/
theorem Represents.cost_eq_zero {cc : ClusterCost} {l : Ledger} (rep : Represents cc l)
    (untracked : ∀ nn, cc.nodeClaimMap.lookup nn = none) : cc.getClusterCost = 0 := by
  have untracked (pool nn : String) (t : Tracked) (found : l.tracked.lookup nn = some t) : t.pool ≠ pool := by
    rw [(rep.untracked_iff nn).mp (untracked nn)] at found
    cases found
  have total : cc.getClusterCost = (∅ : Map String NodePoolCost).total fun _ npc => npc.cost := by
    refine Map.total_eq_total fun pool => ?_
    have cost := (rep.pools pool).cost_unique (.empty (untracked pool))
    rw [ClusterCost.poolCost] at cost
    cases found : cc.npCostMap.lookup pool with
    | none => rfl
    | some npc =>
      rw [found] at cost
      exact cost
  rw [total, Map.total_empty]

/-- After any events, the cost of a NodePool is what its fixed prices and its counted offerings add up to, the tracked
NodeClaims and the counts are those the events ask for, with the price of each offering the latest one, a tracked
NodeClaim can be deleted, and without any the cluster costs nothing. -/
theorem cost_exact (events : List Event) : (∀ pool, (run events).getNodepoolCost pool =
      ((run events).poolCost pool).fixedPrices.total (fun _ price => price) +
        ((run events).poolCost pool).offeringCounts.total fun _ oc => (oc.count : ℚ) * oc.price) ∧
    (∀ nn, (run events).nodeClaimMap.lookup nn = ((ledger events).tracked.lookup nn).map Tracked.metadata) ∧
    (∀ pool nn, ((run events).poolCost pool).fixedPrices.lookup nn =
      ((ledger events).tracked.lookup nn).bind fun t => if t.pool = pool then t.fixed else none) ∧
    (∀ pool key, ((run events).poolCost pool).offeringCounts.lookup key =
      if (ledger events).counted pool key = 0 then none
      else some ⟨(ledger events).counted pool key, (ledger events).price pool key⟩) ∧
    (∀ nn, (run events).nodeClaimMap.lookup nn ≠ none → ((run events).deleteNodeClaim nn).1 = none) ∧
    ((∀ nn, (run events).nodeClaimMap.lookup nn = none) → (run events).getClusterCost = 0) := by
  have rep := represents_run events
  refine ⟨fun pool => ?_, rep.claims, fun pool => (rep.pools pool).fixed, fun pool => (rep.pools pool).counts,
    fun nn => rep.deleteNodeClaim_ok, rep.cost_eq_zero⟩
  rw [getNodepoolCost_eq]
  exact (rep.pools pool).cost

end Karpenter.Cost
