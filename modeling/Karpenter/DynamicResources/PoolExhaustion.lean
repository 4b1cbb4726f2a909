import Karpenter.DynamicResources.Alike
import Karpenter.DynamicResources.Handles

/-! Passing over the devices of an exhausted pool. The search without this shortcut is the search on the same
pools without their counter sets. The two are run side by side, in states that are alike: what one tries, the
other tries, and what is passed over in one fails in the other. -/
namespace Karpenter.DynamicResources

open Go (Map)
open Resources
open CloudProvider (Device)

namespace Search

/-- No pool of the state has counter sets, so no device is passed over. -/
def Unmetered (a : Search) : Prop := ∀ pool ∈ a.pools, pool.unmetered = pool

/-- The state without the counter sets of its pools. -/
def unmetered (a : Search) : Search := { a with pools := a.pools.map Pool.unmetered }

end Search

/-- Without counter sets, every device of a complete pool is tried. -/
theorem tryPool_unmetered (ctx : SearchContext) (pos : Position) (rd : RequestData)
    (recurse : Search → Bool × Search) (pool : Pool) (a : Search) :
    tryPool ctx pos rd recurse pool.unmetered a = if pool.incomplete then (false, a)
      else firstSuccess (fun d => tryDevice ctx pos rd d recurse) pool.devices a := rfl

/-- At a position, a device that consumes counters is passed over because its pool is exhausted. -/
inductive Skips (ctx : SearchContext) (depth : Nat) (pos : Position) (a : Search) :
    RequestData → DeviceWithID → Search → Prop
  | mk : Fills ctx pos a rd → rd.allocationMode = .exactCount → pos.slotIdx < numSlots ctx rd →
      Visits (tryPool ctx pos rd (dfs ctx depth pos.nextSlot)) a.pools a.polled pool b →
      pool.incomplete = false →
      Visits (tryPoolDevice ctx pos rd (dfs ctx depth pos.nextSlot) (poolCountersExhausted ctx b pool))
        pool.devices b d c →
      poolCountersExhausted ctx b pool = true → d.device.consumesCounters.entries.isEmpty = false →
      Skips ctx depth pos a rd d c

/-- Two results are the same, and a failure leaves related states. -/
structure Agrees (R : Search → Search → Prop) (r r' : Bool × Search) : Prop where
  same : r'.1 = r.1
  failed : r.1 = false → R r.2 r'.2

theorem Agrees.of_failed {R : Search → Search → Prop} (related : R a a') : Agrees R (false, a) (false, a') :=
  ⟨rfl, fun _ => related⟩

/-- Going through the same items on both sides, with results that agree at each of them. -/
theorem firstSuccess_agrees {R : Search → Search → Prop}
    (each : ∀ {x b b'}, Visits attempt items a x b → R b b' → Agrees R (attempt x b) (attempt' x b'))
    (before : R a a') : Agrees R (firstSuccess attempt items a) (firstSuccess attempt' items a') := by
  induction items generalizing a a' with
  | nil => exact .of_failed before
  | cons x rest ih =>
    have here := each .here before
    rw [firstSuccess, firstSuccess]
    cases outcome : attempt x a with
    | mk succeeded b =>
      cases outcome' : attempt' x a' with
      | mk succeeded' b' =>
        rw [outcome, outcome'] at here
        cases here.same
        cases succeeded with
        | true => exact ⟨rfl, fun failed => by cases failed⟩
        | false => exact ih (fun visits => each (.later outcome visits)) (here.failed rfl)

theorem firstSuccess_map (attempt : β → Search → Bool × Search) (f : α → β) (items : List α) (a : Search) :
    firstSuccess attempt (items.map f) a = firstSuccess (fun x => attempt (f x)) items a := by
  induction items generalizing a with
  | nil => rfl
  | cons x rest ih =>
    rw [List.map_cons, firstSuccess, firstSuccess]
    cases attempt (f x) a with
    | mk succeeded b =>
      cases succeeded with
      | true => rfl
      | false => exact ih b

/-- The states of a search and of one without the shortcut, side by side. -/
structure Paired (ctx : SearchContext) (home : List Pool) (a a' : Search) : Prop where
  alike : Alike ctx home a a'
  ready : Ready home a
  ready' : Ready home a'
  unmetered : a'.Unmetered

/-- A device that is passed over anywhere below a call has no room in its own counters. -/
def Harmless (ctx : SearchContext) (call : SearchCall) (a : Search) : Prop :=
  ∀ depth pos x rd d c, Reaches ctx call a (.dfs (depth + 1) pos) x → Skips ctx depth pos x rd d c →
    countersAvailable ctx c d = false

theorem Reaches.head (makes : Makes ctx call a child b) (reaches : Reaches ctx child b target c) :
    Reaches ctx call a target c := by
  induction reaches with
  | refl => exact .tail .refl makes
  | tail _ last ih => exact ih.tail last

variable {ctx : SearchContext} {pos : Position} {rd : RequestData}

theorem Harmless.makes (harmless : Harmless ctx call a) (makes : Makes ctx call a child b) : Harmless ctx child b :=
  fun depth pos x rd d c reaches => harmless depth pos x rd d c (.head makes reaches)

/-- A device without room in its counters fails. -/
theorem tryDevice_of_full (full : countersAvailable ctx a dw = false) :
    (tryDevice ctx pos rd dw recurse a).1 = false := by
  rw [tryDevice]
  split
  · rfl
  · rw [full]
    rfl

section Pairs

variable {a a' b b' : Search}

theorem Search.Unmetered.map_pools (unmetered : a.Unmetered) : a.pools.map Pool.unmetered = a.pools :=
  (List.map_congr_left unmetered).trans (List.map_id a.pools)

theorem unmetered_of_records (unmetered : a.Unmetered) (records : Records ctx pos rd dw a consumed b) :
    b.Unmetered := by
  intro pool member
  rw [(topology_of_records records).2] at member
  cases topology : dw.topologyRequirements with
  | none =>
    rw [topology] at member
    exact unmetered pool member
  | some reqs =>
    rw [topology, Option.elim_some] at member
    rw [← unmetered.map_pools, filterPools_unmetered] at member
    obtain ⟨kept, -, rfl⟩ := List.mem_map.mp member
    rfl

theorem Paired.left (paired : Paired ctx home a a') (left : Undone a b ∧ Alike ctx home a b) : Paired ctx home b a' :=
  ⟨left.2.symm.trans paired.alike, paired.ready.undone left.1, paired.ready', paired.unmetered⟩

theorem Paired.right (paired : Paired ctx home a a') (right : Undone a' b' ∧ Alike ctx home a' b') :
    Paired ctx home a b' :=
  ⟨paired.alike.trans right.2, paired.ready, paired.ready'.undone right.1,
    fun pool member => paired.unmetered pool (right.1.toRestores.pools ▸ member)⟩

theorem Paired.polled (identified : ctx.Identified home) (paired : Paired ctx home a a') :
    Paired ctx home a.polled a'.polled :=
  (paired.left ((alikeRule identified).polled a)).right ((alikeRule identified).polled a')

theorem Paired.records (identified : ctx.Identified home) (paired : Paired ctx home a a')
    (request : ctx.requestAt pos = some rd) (offers : ctx.Offers home dw)
    (records : Records ctx pos rd dw a consumed b) (records' : Records ctx pos rd dw a' consumed b') :
    Paired ctx home b b' :=
  ⟨paired.alike.recorded identified request offers records records', paired.ready.records records,
    paired.ready'.records records', unmetered_of_records paired.unmetered records'⟩

/-- The state of the right side after a failure there. -/
theorem Paired.failed_right (identified : ctx.Identified home) (paired : Paired ctx home a a')
    {call : SearchCall} (tries : call.Tries ctx home) (failed : (call.run ctx a').1 = false) :
    Paired ctx home a (call.run ctx a').2 := by
  have pre : (alikeRule identified).Pre call a' := ⟨paired.ready', tries⟩
  exact paired.right ((alikeRule identified).failed pre (Prod.ext failed rfl))

/-- Calls with the same result agree: where both fail, each leaves a state like the one it started in. -/
theorem Paired.agrees (identified : ctx.Identified home) (paired : Paired ctx home a a') (call : SearchCall)
    (tries : call.Tries ctx home) (same : (call.run ctx a').1 = (call.run ctx a).1) :
    Agrees (Paired ctx home) (call.run ctx a) (call.run ctx a') := by
  refine ⟨same, fun failed => ?_⟩
  have pre : (alikeRule identified).Pre call a := ⟨paired.ready, tries⟩
  exact (paired.left ((alikeRule identified).failed pre (Prod.ext failed rfl))).failed_right identified tries
    (same.trans failed)

end Pairs

section SideBySide

variable {depth : Nat} {pool : Pool} {a a' b b' : Search} (identified : ctx.Identified home)
  -- The calls one level down agree.
  (below : ∀ {pos b b'}, Paired ctx home b b' → Harmless ctx (.dfs depth pos) b →
    Agrees (Paired ctx home) (dfs ctx depth pos b) (dfs ctx depth pos b'))

include identified below

theorem agrees_tryDevice (paired : Paired ctx home a a') (tries : (SearchCall.tryDevice depth pos rd dw).Tries ctx home)
    (harmless : Harmless ctx (.tryDevice depth pos rd dw) a) :
    Agrees (Paired ctx home) (tryDevice ctx pos rd dw (dfs ctx depth pos.nextSlot) a)
      (tryDevice ctx pos rd dw (dfs ctx depth pos.nextSlot) a') := by
  obtain ⟨request, offers⟩ := tries
  refine paired.agrees identified (.tryDevice depth pos rd dw) ⟨request, offers⟩ ?_
  rw [SearchCall.run]
  by_cases recorded : ∃ consumed b, Records ctx pos rd dw a consumed b
  · obtain ⟨consumed, b, records⟩ := recorded
    obtain ⟨b', records'⟩ := paired.alike.records request offers records
    have agrees := below (paired.records identified request offers records records')
      (harmless.makes (.recurse records))
    rw [tryDevice_of_records records, tryDevice_of_records records', agrees.same]
    split <;> rfl
  · have rejected : ¬ ∃ consumed b', Records ctx pos rd dw a' consumed b' := by
      rintro ⟨consumed, b', records'⟩
      obtain ⟨b, records⟩ := paired.alike.symm.records request offers records'
      exact recorded ⟨consumed, b, records⟩
    obtain ⟨b, -, left⟩ := (tryDevice_cases ctx pos rd dw _ a).resolve_right recorded
    obtain ⟨b', -, right⟩ := (tryDevice_cases ctx pos rd dw _ a').resolve_right rejected
    rw [left, right]

theorem agrees_tryPool (harmless : Harmless ctx (.dfs (depth + 1) pos) a) (ready : Ready home a)
    (running : ctx.env.isDone a.polls = false) (fills : Fills ctx pos a rd)
    (mode : rd.allocationMode = .exactCount) (room : pos.slotIdx < numSlots ctx rd)
    (inPools : Visits (tryPool ctx pos rd (dfs ctx depth pos.nextSlot)) a.pools a.polled pool b)
    (paired : Paired ctx home b b') : Agrees (Paired ctx home) (tryPool ctx pos rd (dfs ctx depth pos.nextSlot) pool b)
      (tryPool ctx pos rd (dfs ctx depth pos.nextSlot) pool.unmetered b') := by
  rw [tryPool_unmetered, tryPool]
  cases complete : pool.incomplete with
  | true => exact .of_failed paired
  | false =>
    rw [if_neg Bool.false_ne_true, if_neg Bool.false_ne_true]
    refine firstSuccess_agrees ?_ paired
    intro d c c' inPool paired
    have tries : (SearchCall.tryDevice depth pos rd d).Tries ctx home :=
      ⟨fills.request, .inl (ready.pools (List.mem_flatMap.mpr ⟨pool, inPools.mem, inPool.mem⟩))⟩
    rw [tryPoolDevice]
    split
    · rename_i skipped
      rw [Bool.and_eq_true, Bool.not_eq_true'] at skipped
      have full := harmless depth pos a rd d c .refl
        (.mk fills mode room inPools complete inPool skipped.1 skipped.2)
      have failed : (tryDevice ctx pos rd d (dfs ctx depth pos.nextSlot) c').1 = false :=
        tryDevice_of_full (paired.alike.countersAvailable.trans full)
      exact ⟨failed, fun _ => paired.failed_right identified tries failed⟩
    · rename_i kept
      rw [Bool.not_eq_true] at kept
      exact agrees_tryDevice identified below paired tries
        (harmless.makes (.branch running (.pool fills mode room inPools complete inPool kept)))

theorem agrees_dfsExactCount (harmless : Harmless ctx (.dfs (depth + 1) pos) a)
    (paired : Paired ctx home a a') (running : ctx.env.isDone a.polls = false) (fills : Fills ctx pos a rd)
    (mode : rd.allocationMode = .exactCount) (room : pos.slotIdx < numSlots ctx rd) :
    Agrees (Paired ctx home) (dfsExactCount ctx pos rd (dfs ctx depth pos.nextSlot) a.polled)
      (dfsExactCount ctx pos rd (dfs ctx depth pos.nextSlot) a'.polled) := by
  have pools : a'.polled.pools = a.pools.map Pool.unmetered :=
    paired.unmetered.map_pools.symm.trans paired.alike.pools
  have inPools : Agrees (Paired ctx home)
      (firstSuccess (tryPool ctx pos rd (dfs ctx depth pos.nextSlot)) a.polled.pools a.polled)
      (firstSuccess (tryPool ctx pos rd (dfs ctx depth pos.nextSlot)) a'.polled.pools a'.polled) := by
    rw [pools, firstSuccess_map]
    exact firstSuccess_agrees
      (agrees_tryPool identified below harmless paired.ready running fills mode room) (paired.polled identified)
  rw [dfsExactCount_eq, dfsExactCount_eq]
  cases outcome : firstSuccess (tryPool ctx pos rd (dfs ctx depth pos.nextSlot)) a.polled.pools a.polled with
  | mk succeeded b =>
    cases outcome' : firstSuccess (tryPool ctx pos rd (dfs ctx depth pos.nextSlot)) a'.polled.pools a'.polled with
    | mk succeeded' b' =>
      rw [outcome, outcome'] at inPools
      cases inPools.same
      cases succeeded with
      | true => exact ⟨rfl, fun failed => by cases failed⟩
      | false =>
        refine firstSuccess_agrees ?_ (inPools.failed rfl)
        intro d c c' visits paired'
        exact agrees_tryDevice identified below paired' ⟨fills.request, .inr (.inl visits.mem)⟩
          (harmless.makes (.branch running (.template fills mode room outcome visits)))

/-- The slots of one request agree. -/
theorem same_dfsSlots (harmless : Harmless ctx (.dfs (depth + 1) pos) a) (paired : Paired ctx home a a')
    (running : ctx.env.isDone a.polls = false) (request : ctx.requestAt pos = some rd) :
    (dfsSlots ctx (dfs ctx depth) pos rd a'.polled).1 = (dfsSlots ctx (dfs ctx depth) pos rd a.polled).1 := by
  have count : claimDeviceCount a'.polled pos.claimIdx = claimDeviceCount a.polled pos.claimIdx := by
    rw [claimDeviceCount, claimDeviceCount, (paired.polled identified).alike.metadata]
  rw [dfsSlots, dfsSlots, count]
  split
  · rfl
  · rename_i nonempty
    split
    · rfl
    · rename_i withinLimit
      have fills : Fills ctx pos a rd := ⟨request, nonempty, withinLimit⟩
      split
      · rename_i full
        exact (below (paired.polled identified) (harmless.makes (.branch running (.nextRequest fills full)))).same
      · rename_i room
        rw [Nat.not_le] at room
        split
        · rename_i mode
          rw [dfsAllMode, dfsAllMode]
          split
          · rename_i d listed
            have branches : Branches ctx depth pos a (.tryDevice depth pos rd d) a.polled :=
              .allMode fills mode room listed
            exact (agrees_tryDevice identified below (paired.polled identified)
              (tries_of_branches paired.ready.pools branches) (harmless.makes (.branch running branches))).same
          · rfl
        · rename_i mode
          exact (agrees_dfsExactCount identified below harmless paired running fills mode room).same

end SideBySide

section Equivalence

variable {a a' c : Search}

/-- A search and one without the shortcut have the same result, if nothing is lost by the shortcut. -/
theorem agrees_dfs (identified : ctx.Identified home) (unlimited : ctx.env.deadline = none) (depth : Nat)
    (paired : Paired ctx home a a') (harmless : Harmless ctx (.dfs depth pos) a) :
    Agrees (Paired ctx home) (dfs ctx depth pos a) (dfs ctx depth pos a') := by
  induction depth generalizing pos a a' with
  | zero => exact .of_failed paired
  | succ depth below =>
    refine paired.agrees identified (.dfs (depth + 1) pos) trivial ?_
    have running (polls : Nat) : ctx.env.isDone polls = false := by rw [Environment.isDone, unlimited]
    have slots {rd : RequestData} (request : ctx.requestAt pos = some rd) :=
      same_dfsSlots identified below harmless paired (running a.polls) request
    rw [SearchCall.run, dfs, dfs, dfsBody, dfsBody]
    simp only [running, Bool.false_eq_true, if_false]
    cases claim : ctx.claimData[pos.claimIdx]? with
    | none => rfl
    | some cd =>
      dsimp only
      cases found : cd.requests[pos.reqIdx]? with
      | none =>
        exact (below (paired.polled identified) (harmless.makes (.branch (running _) (.nextClaim claim found)))).same
      | some req =>
        have requestAt : ctx.requestAt pos = req.resolve pos.subReqIdx := by
          rw [SearchContext.requestAt, claim, Option.bind_some, found, Option.bind_some]
        dsimp only
        split
        · rename_i name first others parent
          refine (firstSuccess_agrees ?_ (paired.polled identified)).same
          intro subReqIdx b b' visits paired'
          exact below paired' (harmless.makes (.branch (running _) (.alternative claim found parent visits)))
        · split
          · rename_i resolved
            exact slots (requestAt.trans resolved)
          · rfl

theorem Ready.unmetered (ready : Ready home a) : Ready home a.unmetered := by
  refine ⟨ready.tidied, ?_⟩
  rw [Search.unmetered, offered, List.flatMap_map]
  exact ready.pools

theorem Alike.unmetered (a : Search) : Alike ctx home a a.unmetered where
  verdicts := fun _ _ _ _ _ => matchesRequest_congr rfl
  held := fun _ _ _ => Iff.rfl
  metadata := rfl
  counters := fun _ _ _ _ => rfl
  capacities := fun _ _ => rfl
  templateCapacities := fun _ _ => rfl
  requirements := rfl
  pools := List.map_map
  constraints := rfl

theorem Search.unmetered_unmetered (a : Search) : a.unmetered.Unmetered := by
  intro pool member
  obtain ⟨original, -, rfl⟩ := List.mem_map.mp member
  rfl

theorem Ready.paired (ready : Ready home a) : Paired ctx home a a.unmetered :=
  ⟨.unmetered a, ready, ready.unmetered, a.unmetered_unmetered⟩

/-- What a search has charged is the same when it gets to a device as when it looked at the pool. -/
theorem Skips.exhausted (tidied : Tidied a) (running : ctx.env.isDone a.polls = false)
    (skips : Skips ctx depth pos a rd dw c) : ∃ pool b, poolCountersExhausted ctx b pool = true ∧ dw ∈ pool.devices ∧
      dw.device.consumesCounters.entries.isEmpty = false ∧
      ∀ key set name, counterAmount c.allocatingCounters key set name =
        counterAmount b.allocatingCounters key set name := by
  obtain ⟨fills, mode, room, inPools, complete, inPool, exhausted, consumes_⟩ := skips
  let rule := undoneRule ctx (fun _ _ => True) (fun _ _ => trivial) (fun _ _ _ => trivial)
  have pre : rule.Pre (.dfs (depth + 1) pos) a := ⟨tidied, trivial⟩
  have atPool : Undone a _ := inPools.failed rule.Failed rule.trans
    (fun visits earlier => rule.failed_pool (rule.holds_dfs depth) pre running fills mode room visits earlier)
    (rule.polled a)
  have atDevice : Undone a c := inPool.failed rule.Failed rule.trans
    (fun visits earlier => rule.failed_poolDevice (rule.holds_dfs depth) pre running fills mode room inPools complete
      visits earlier) atPool
  refine ⟨_, _, exhausted, inPool.mem, consumes_, fun key set name => ?_⟩
  rw [atDevice.counters.amounts, atPool.counters.amounts]

/-- A device that draws on every counter of its pool has no room once the pool is exhausted. -/
theorem Skips.full (tidied : Tidied a) (running : ctx.env.isDone a.polls = false)
    (skips : Skips ctx depth pos a rd dw c)
    (draws : ∀ set name left, getCounter ctx.tracker.remainingCounters dw.id.poolKey set name = some left →
      1 ≤ value (amountAt dw.device.consumesCounters set name)) : countersAvailable ctx c dw = false := by
  obtain ⟨pool, b, exhausted, inPool, consumes_, charged⟩ := skips.exhausted tidied running
  obtain ⟨key, published⟩ := Pool.id_of_mem_devices inPool
  rw [key] at draws
  rw [Bool.eq_false_iff]
  intro passed
  obtain ⟨left, budget, checked⟩ := checkCounters_of_countersAvailable passed (Bool.eq_false_iff.mp consumes_)
  rw [published, key] at budget checked
  rw [SearchContext.budget, if_neg Bool.false_ne_true] at budget
  rw [poolCountersExhausted] at exhausted
  split at exhausted
  · cases exhausted
  · split at exhausted
    · rename_i remaining allocating foundRemaining foundAllocating
      rw [budget] at foundRemaining
      cases foundRemaining
      obtain ⟨⟨set, counters⟩, inSets, exhausted⟩ := List.any_eq_true.mp exhausted
      obtain ⟨⟨name, taken⟩, inCounters, exhausted⟩ := List.any_eq_true.mp exhausted
      dsimp only at exhausted
      split at exhausted
      · rename_i rest foundRest
        rw [decide_eq_true_eq] at exhausted
        have drawn := draws set name rest (by rw [getCounter, budget]; exact foundRest)
        obtain ⟨q, consumed⟩ : ∃ q, quantity? dw.device.consumesCounters set name = some q := by
          cases consumed : quantity? dw.device.consumesCounters set name with
          | some q => exact ⟨q, rfl⟩
          | none =>
            rw [amountAt, consumed, Option.getD_none, ← Nat.cast_zero, value_natCast] at drawn
            omega
        rw [amountAt, consumed, Option.getD_some] at drawn
        obtain ⟨l, foundLeft, fits⟩ := checkCounters_spec checked consumed
        rw [Option.bind_some, foundRest] at foundLeft
        cases foundLeft
        have amount : amountAt (((c.charged false).lookup pool.key).getD ∅) set name = taken := by
          rw [amountAt_getD_lookup]
          refine (charged pool.key set name).trans ?_
          rw [counterAmount, getCounter, foundAllocating, Option.bind_some, quantity?, Map.mem_entries_iff.mp inSets,
            Option.bind_some, Map.mem_entries_iff.mp inCounters]
          rfl
        rw [amount] at fits
        omega
      · cases exhausted
    · cases exhausted

end Equivalence

namespace AllocateCall

/-- While the call searches an instance type, a device is passed over because its pool is exhausted. -/
def Skips (call : AllocateCall) (it : InstanceTypeID) (depth : Nat) (pos : Position) (rd : RequestData)
    (dw : DeviceWithID) (c : Search) : Prop :=
  ∃ start a, call.Starts it start ∧
    Reaches (call.context it) (.dfs (searchDepth (call.context it)) ⟨0, 0, none, 0⟩) start (.dfs (depth + 1) pos) a ∧
    DynamicResources.Skips (call.context it) depth pos a rd dw c

/-- A device that is passed over would have failed, and so the result of every search is the same as without
passing over devices. -/
structure LosesNothing (call : AllocateCall) : Prop where
  fails : ∀ it depth pos rd dw c, call.Skips it depth pos rd dw c →
    (tryDevice (call.context it) pos rd dw (dfs (call.context it) depth pos.nextSlot) c.unmetered).1 = false
  survives : ∀ it start, call.Starts it start →
    (dfs (call.context it) (searchDepth (call.context it)) ⟨0, 0, none, 0⟩ start).1 =
      (dfs (call.context it) (searchDepth (call.context it)) ⟨0, 0, none, 0⟩ start.unmetered).1

/-- No device is passed over while its own counters have room for it. -/
def SkipsFull (call : AllocateCall) : Prop :=
  ∀ it depth pos rd dw c, call.Skips it depth pos rd dw c → countersAvailable (call.context it) c dw = false

theorem ready_of_starts {call : AllocateCall} (starts : call.Starts it start) : Ready call.initialPools start := by
  obtain ⟨rest, a, -, -, -, rfl⟩ := starts
  exact ⟨call.tidied_restoreState it _, List.Subset.refl _⟩

/-- Every device that consumes counters draws on each counter of its pool. -/
def DrawsOnAll (call : AllocateCall) : Prop :=
  ∀ d ∈ offered call.initialPools, d.device.consumesCounters.entries.isEmpty = false →
    ∀ set name left,
      getCounter call.allocator.allocationTracker.remainingCounters d.id.poolKey set name = some left →
        1 ≤ value (amountAt d.device.consumesCounters set name)

/-- Where every device draws on all counters, only devices without room are passed over. -/
theorem DrawsOnAll.skipsFull {call : AllocateCall} (draws : call.DrawsOnAll)
    (identified : ∀ it, (call.context it).Identified call.initialPools) (unlimited : call.env.deadline = none) :
    call.SkipsFull := by
  rintro it depth pos rd dw c ⟨start, x, starts, reaches, skips⟩
  have pre : (alikeRule (identified it)).Pre (.dfs (searchDepth (call.context it)) ⟨0, 0, none, 0⟩) start :=
    ⟨ready_of_starts starts, trivial⟩
  have ready : Ready call.initialPools x := ((alikeRule (identified it)).pre_of_reaches pre reaches).1
  have running : (call.context it).env.isDone x.polls = false := by
    rw [Environment.isDone, show (call.context it).env.deadline = none from unlimited]
  obtain ⟨pool, b, -, inPool, consumes_, -⟩ := skips.exhausted ready.tidied running
  have offers : dw ∈ offered call.initialPools := by
    obtain ⟨-, -, -, inPools, -, inPool, -, -⟩ := skips
    exact ready.pools (List.mem_flatMap.mpr ⟨_, inPools.mem, inPool.mem⟩)
  exact skips.full ready.tidied running (draws dw offers consumes_)

end AllocateCall

section Prepared

variable {a : Allocator} {call : AllocateCall} (prepared : a.prepare env nodeClaim claims = .ok (.search call))

include prepared

/-- In a prepared call the identifiers of published devices are distinct, and those of template devices are
marked as such. So identifiers name one device if those of the templates do. -/
theorem identified_of_prepare (cached : CacheGathered a a.inClusterSlices) (it it' : InstanceTypeID)
    (templates : ∀ d ∈ (call.context it).templateDevices, ∀ e ∈ (call.context it').templateDevices,
      d.id = e.id → d.device = e.device) : ∀ d e, (call.context it).Offers call.initialPools d →
        (call.context it').Offers call.initialPools e → d.id = e.id → d.device = e.device := by
  have keys : (call.initialPools.map (·.key)).Nodup := by
    obtain ⟨-, -, requirements, -, -, -, rfl⟩ := Allocator.exists_of_prepare prepared
    exact (gathered_poolsFor cached env nodeClaim requirements).keys
  have marked {it : InstanceTypeID} (d : DeviceWithID) (inTemplates : d ∈ (call.context it).templateDevices) :
      d.id.template = true := by
    obtain ⟨devices, found, inDevices⟩ := Map.exists_of_mem_getD_lookup inTemplates
    exact template_of_templateDevices found d inDevices
  intro d e offersD offersE same
  rcases source_of_prepare prepared offersD with inPools | inTemplates <;>
    rcases source_of_prepare prepared offersE with inPools' | inTemplates'
  · rw [eq_of_offered keys inPools inPools' same]
  · have published := template_of_offered inPools
    rw [same, marked e inTemplates'] at published
    cases published
  · have published := template_of_offered inPools'
    rw [← same, marked d inTemplates] at published
    cases published
  · exact templates d inTemplates e inTemplates' same

end Prepared

/-- Nothing is lost by passing over devices as long as those passed over have no room in their own counters. -/
theorem AllocateCall.losesNothing_of_skipsFull (call : AllocateCall)
    (identified : ∀ it, (call.context it).Identified call.initialPools) (unlimited : call.env.deadline = none)
    (full : call.SkipsFull) : call.LosesNothing := by
  constructor
  · intro it depth pos rd dw c skips
    have alike : Alike (call.context it) call.initialPools c c.unmetered := .unmetered c
    exact tryDevice_of_full (alike.countersAvailable.trans (full it depth pos rd dw c skips))
  · intro it start starts
    have harmless : Harmless (call.context it) (.dfs (searchDepth (call.context it)) ⟨0, 0, none, 0⟩) start :=
      fun depth pos x rd dw c reaches skips => full it depth pos rd dw c ⟨start, x, starts, reaches, skips⟩
    exact (agrees_dfs (identified it) unlimited _ (ready_of_starts starts).paired harmless).same.symm

/-! A card whose two devices draw on a counter set each, and one whose partitions share a counter. -/

def twinDevice (name counterSet : String) : Device where
  name
  consumesCounters := Map.ofList [(counterSet, Map.ofList [("units", 1)])]

def twinSlices : List ResourceSlice := [
  { driver := "gpu", pool := "card", resourceSliceCount := 2
    sharedCounters := some [⟨"left", Map.ofList [("units", 1)]⟩, ⟨"right", Map.ofList [("units", 1)]⟩] },
  { driver := "gpu", pool := "card", resourceSliceCount := 2, allNodes := true
    devices := [twinDevice "gpu-0" "left", twinDevice "gpu-1" "right"] }]

def severalClaim (count : Nat) : ResourceClaim where
  namespaceName := "default"
  name := "several"
  requests := [{ name := "gpu", exactly := some { deviceClassName := "gpu", count } }]

/-- No instance type survives, although both devices could be allocated together: the first one exhausts the
pool, and the second is passed over. -/
theorem second_device_passed_over : ∃ call, Allocator.prepare (newAllocator ∅ twinSlices {} ∅ ∅) partitionEnvironment
      { id := "node", instanceTypes := ["small"] } [severalClaim 2] = .ok (.search call) ∧
    (call.searchInstanceTypes call.nodeClaim.instanceTypes call.initialSearch).map (·.1.map (·.1)) = .ok [] ∧
    ¬ call.LosesNothing := by
  refine ⟨_, rfl, by decide +kernel, fun loses => ?_⟩
  have same := loses.survives "small" _ ⟨[], _, .first, rfl, by decide +kernel, rfl⟩
  revert same
  decide +kernel

theorem remainingCounters_partition : (newAllocator ∅ partitionSlices {} ∅ ∅).allocationTracker.remainingCounters =
      Map.ofList [(⟨"gpu", "card"⟩, Map.ofList [("memory", Map.ofList [("gigabytes", 8)])])] := by
  decide +kernel

theorem cacheGathered_partition : CacheGathered (newAllocator ∅ partitionSlices {} ∅ ∅) partitionSlices := by
  intro nodeClaimID pools found
  cases found

/-- Three partitions are asked for, of which two exhaust the card. -/
theorem losesNothing_partitions : ∃ call, Allocator.prepare (newAllocator ∅ partitionSlices {} ∅ ∅) partitionEnvironment
      { id := "node", instanceTypes := ["small"] } [severalClaim 3] = .ok (.search call) ∧ call.LosesNothing := by
  refine ⟨_, rfl, ?_⟩
  have identified := fun it => identified_of_prepare
    (rfl : Allocator.prepare (newAllocator ∅ partitionSlices {} ∅ ∅) partitionEnvironment
      { id := "node", instanceTypes := ["small"] } [severalClaim 3] = _) cacheGathered_partition it it
    (by
      intro d inTemplates
      cases inTemplates)
  refine AllocateCall.losesNothing_of_skipsFull _ identified rfl (AllocateCall.DrawsOnAll.skipsFull ?_ identified rfl)
  intro d inPools _ set name left found
  have gathered := gathered_poolsFor cacheGathered_partition partitionEnvironment
    { id := "node", instanceTypes := ["small"] } Scheduling.Requirements.empty
  obtain ⟨deviceName, same⟩ := device_of_partitionSlices (gathered.published d inPools)
  rw [same]
  rw [remainingCounters_partition, getCounter] at found
  obtain ⟨sets, inTracker, atSet⟩ := Option.bind_eq_some_iff.mp found
  simp only [Map.ofList, List.foldl_cons, List.foldl_nil, Map.lookup_insert_eq] at inTracker
  split at inTracker
  · cases inTracker
    simp only [quantity?, Map.lookup_insert_eq] at atSet
    split at atSet
    · rename_i sameSet
      subst sameSet
      simp only [Option.bind_some, Map.lookup_insert_eq] at atSet
      split at atSet
      · rename_i sameName
        subst sameName
        have amount : amountAt (partitionDevice deviceName).consumesCounters "memory" "gigabytes" = 4 := rfl
        rw [amount]
        decide +kernel
      · cases atSet
    · cases atSet
  · cases inTracker

end Karpenter.DynamicResources
