import Karpenter.DynamicResources.Survivors

/-! The check of counter budgets before a search. It adds up the devices of each All-mode request on its own,
against copies of what is left. A search that succeeds has charged the same devices along with all others and stayed
within what is left, so the check cannot fail. -/
namespace Karpenter.DynamicResources

open Go (Map)
open Resources
open Scheduling (Requirements)
open CloudProvider (CounterSets)

/-- What is left of the counters that devices of one kind, in the cluster or of the template, draw on. -/
def SearchContext.budget (ctx : SearchContext) (template : Bool) (pool : PoolKey) : Option CounterSets :=
  if template then ctx.templateRemainingCounters.bind (·.lookup pool)
  else ctx.tracker.remainingCounters.lookup pool

/-- What a search has charged to devices of one kind. -/
def Search.charged (a : Search) (template : Bool) : PoolCounters :=
  if template then a.templateAllocatingCounters else a.allocatingCounters

/-- What an allocation draws from a counter that serves devices of one kind. -/
def DeviceAllocationMetadata.drawn (template : Bool) (pool : PoolKey) (set name : String)
    (m : DeviceAllocationMetadata) : Quantity :=
  if template = m.deviceWithID.id.template then consumes m.deviceWithID pool set name else 0

open DeviceAllocationMetadata

/-- A copy of a budget from which at most `taken` has been deducted. -/
structure ShadowOf (left : CounterSets) (taken : String → String → Quantity) (shadow : CounterSets) : Prop where
  sets : ∀ set, (left.lookup set).isSome = true → (shadow.lookup set).isSome = true
  amounts : ∀ set name q, quantity? left set name = some q →
    ∃ r, quantity? shadow set name = some r ∧ q - taken set name ≤ r

theorem ShadowOf.self (nonneg : ∀ set name, 0 ≤ taken set name) : ShadowOf left taken left where
  sets := fun _ present => present
  amounts := fun set name q found => ⟨q, found, sub_le_self q (nonneg set name)⟩

theorem ShadowOf.mono (copy : ShadowOf left taken shadow) (larger : ∀ set name, taken set name ≤ more set name) :
    ShadowOf left more shadow where
  sets := copy.sets
  amounts := fun set name q found => by
    obtain ⟨r, here, bound⟩ := copy.amounts set name q found
    exact ⟨r, here, (sub_le_sub_left (larger set name) q).trans bound⟩

/-- Deducting a device from the copy charges it once more. -/
theorem ShadowOf.deduct (copy : ShadowOf left taken shadow) (consumed : CounterSets) :
    ShadowOf left (fun set name => taken set name + amountAt consumed set name)
      (deductKeyed shadow consumed) where
  sets := fun set present => by
    have before := copy.sets set present
    rw [deductKeyed, Map.lookup_mergePresent]
    split
    · exact before
    · rwa [Option.isSome_map]
  amounts := fun set name q found => by
    obtain ⟨r, here, bound⟩ := copy.amounts set name q found
    refine ⟨r - amountAt consumed set name, ?_, ?_⟩
    · rw [quantity?_deductKeyed, here, Option.map_some]
    · linarith

theorem isSome_of_checkCounters {allocating : CounterSets} {set : String}
    (passed : checkCounters allocating device (some left) = true)
    (consumed : device.consumesCounters.lookup set = some counters) : (left.lookup set).isSome = true := by
  have entry := Map.mem_entries_iff.mpr consumed
  rw [checkCounters] at passed
  split at passed
  · rename_i empty
    rw [List.isEmpty_iff.mp empty] at entry
    cases entry
  · have atSet := List.all_eq_true.mp passed _ entry
    split at atSet
    · cases atSet
    · rename_i found
      rw [found]
      rfl

/-- A device is deducted from the copy if it fits the budget along with what is taken. -/
theorem ShadowOf.deductShadow {consumed : CounterSets} (copy : ShadowOf left taken shadow)
    (sets : ∀ set counters, consumed.lookup set = some counters → (left.lookup set).isSome = true)
    (room : ∀ set name q, quantity? consumed set name = some q →
      ∃ l, quantity? left set name = some l ∧ taken set name + q ≤ l) :
    deductShadow shadow consumed = some (deductKeyed shadow consumed) := by
  rw [DynamicResources.deductShadow, if_pos]
  rw [List.all_eq_true]
  rintro ⟨set, counters⟩ inDevice
  have foundSet := Map.mem_entries_iff.mp inDevice
  obtain ⟨available, inShadow⟩ := Option.isSome_iff_exists.mp (copy.sets set (sets set counters foundSet))
  rw [inShadow]
  rw [List.all_eq_true]
  rintro ⟨name, q⟩ inCounters
  have consumed : quantity? consumed set name = some q := by
    rw [quantity?, foundSet, Option.bind_some, Map.mem_entries_iff.mp inCounters]
  obtain ⟨l, foundLeft, fits⟩ := room set name q consumed
  obtain ⟨r, foundShadow, bound⟩ := copy.amounts set name l foundLeft
  rw [quantity?, inShadow, Option.bind_some] at foundShadow
  rw [foundShadow]
  rw [decide_eq_true_eq]
  linarith

/-- Every quantity of a counter that a search reads is a whole number; only a budget may be overdrawn. -/
structure SearchContext.WholeCounters (ctx : SearchContext) (home : List Pool) : Prop where
  budgets : ∀ template pool set name q, (ctx.budget template pool).bind (quantity? · set name) = some q →
    Integral q
  inCluster : ∀ d ∈ offered home, ∀ set name, Whole (amountAt d.device.consumesCounters set name)
  templates : ∀ d ∈ ctx.templateDevices, ∀ set name, Whole (amountAt d.device.consumesCounters set name)
  requests : ∀ cd ∈ ctx.claimData, ∀ req ∈ cd.requests, ∀ rd ∈ req.alternatives,
    ∀ d ∈ ctx.allModeDevices rd, ∀ set name, Whole (amountAt d.device.consumesCounters set name)

section Counters

variable {ctx : SearchContext} {dw : DeviceWithID}

theorem checkCounters_of_countersAvailable (passed : countersAvailable ctx a dw = true)
    (consumes_ : ¬ dw.device.consumesCounters.entries.isEmpty = true) :
    ∃ left, ctx.budget dw.id.template dw.id.poolKey = some left ∧
      checkCounters (((a.charged dw.id.template).lookup dw.id.poolKey).getD ∅) dw.device (some left) = true := by
  have checked : checkCounters (((a.charged dw.id.template).lookup dw.id.poolKey).getD ∅) dw.device
      (ctx.budget dw.id.template dw.id.poolKey) = true := by
    rw [countersAvailable, if_neg consumes_] at passed
    rw [Search.charged, SearchContext.budget]
    split at passed
    · rename_i template
      rwa [if_pos template, if_pos template]
    · rename_i published
      rw [if_neg published, if_neg published]
      split at passed
      · exact passed
      · cases passed
  cases found : ctx.budget dw.id.template dw.id.poolKey with
  | none =>
    rw [found, checkCounters, if_neg consumes_] at checked
    cases checked
  | some left => exact ⟨left, rfl, found ▸ checked⟩

/-- What a device asks of a counter is left, up to the rounding of what is left, charged and asked for. -/
theorem left_of_countersAvailable (passed : countersAvailable ctx a dw = true) {set name : String}
    (drawnOn : quantity? dw.device.consumesCounters set name = some q) :
    ∃ left, (ctx.budget dw.id.template dw.id.poolKey).bind (quantity? · set name) = some left ∧
      value q ≤ value left - value (counterAmount (a.charged dw.id.template) dw.id.poolKey set name) := by
  have consumes_ : ¬ dw.device.consumesCounters.entries.isEmpty = true := by
    intro empty
    rw [quantity?, Map.lookup_of_isEmpty empty] at drawnOn
    cases drawnOn
  obtain ⟨sets, budget, checked⟩ := checkCounters_of_countersAvailable passed consumes_
  obtain ⟨left, found, fits⟩ := checkCounters_spec checked drawnOn
  rw [amountAt_getD_lookup] at fits
  exact ⟨left, budget ▸ found, fits⟩

/-- A recorded device is charged to the counters of its own kind. -/
theorem counterAmount_charged (records : Records ctx pos rd dw a consumed b) (template : Bool) (pool : PoolKey)
    (set name : String) : counterAmount (b.charged template) pool set name =
      counterAmount (a.charged template) pool set name +
        if template = dw.id.template then consumes dw pool set name else 0 := by
  obtain ⟨counters, templateCounters, -, -⟩ := charges_of_records records
  rw [Search.charged, Search.charged, counters, templateCounters]
  cases template <;> cases kind : dw.id.template <;>
    simp [counterAmount_deductAllocatingCounters]

theorem counterAmount_charged_of_undone (same : Undone a b) (template : Bool) (pool : PoolKey)
    (set name : String) : counterAmount (b.charged template) pool set name =
      counterAmount (a.charged template) pool set name := by
  cases template with
  | false => exact same.counters.amounts pool set name
  | true => exact same.templateCounters.amounts pool set name

theorem whole_drawn (whole : ∀ set name, Whole (amountAt m.deviceWithID.device.consumesCounters set name))
    (template : Bool) (pool : PoolKey) (set name : String) : Whole (drawn template pool set name m) := by
  rw [drawn, consumes]
  split
  · split
    · exact whole set name
    · exact Whole.zero
  · exact Whole.zero

/-- A recorded device leaves what it draws on within its budget. -/
theorem room_of_records (records : Records ctx pos rd dw a consumed b) {set name : String} {q : Quantity}
    (drawnOn : quantity? dw.device.consumesCounters set name = some q)
    (whole : ∀ set name, Whole (amountAt dw.device.consumesCounters set name))
    (budgets : ∀ left, (ctx.budget dw.id.template dw.id.poolKey).bind (quantity? · set name) = some left →
      Integral left) (charged : Whole (counterAmount (a.charged dw.id.template) dw.id.poolKey set name)) :
    ∃ left, (ctx.budget dw.id.template dw.id.poolKey).bind (quantity? · set name) = some left ∧
      counterAmount (b.charged dw.id.template) dw.id.poolKey set name ≤ left := by
  obtain ⟨left, found, fits⟩ := left_of_countersAvailable records.passed drawnOn
  have amount : amountAt dw.device.consumesCounters set name = q := by
    rw [amountAt, drawnOn, Option.getD_some]
  have wholeQ : Whole q := amount ▸ whole set name
  have exact_ := (Int.cast_le (R := ℚ)).mpr fits
  refine ⟨left, found, ?_⟩
  rw [Int.cast_sub, wholeQ.cast_value, (budgets left found).cast_value, charged.cast_value] at exact_
  rw [counterAmount_charged records, if_pos rfl, consumes, if_pos rfl, amount]
  linarith

/-- What is drawn from a counter after one more device: nothing more, or what still fits. -/
theorem withinBudget_of_records (records : Records ctx pos rd dw a consumed b) {template : Bool} {pool : PoolKey}
    {set name : String} {left : Quantity} (room : dw.id.template = template → dw.id.poolKey = pool → ∀ q,
      quantity? dw.device.consumesCounters set name = some q → counterAmount (b.charged template) pool set name ≤ left)
    (before : counterAmount (a.charged template) pool set name ≤ left) :
    counterAmount (b.charged template) pool set name ≤ left := by
  by_cases same : template = dw.id.template ∧ dw.id.poolKey = pool
  · obtain ⟨kind, key⟩ := same
    cases drawnOn : quantity? dw.device.consumesCounters set name with
    | some q => exact room kind.symm key q drawnOn
    | none =>
      rw [counterAmount_charged records, if_pos kind, consumes, if_pos key, amountAt, drawnOn, Option.getD_none,
        add_zero]
      exact before
  · have nothing : (if template = dw.id.template then consumes dw pool set name else 0) = 0 := by
      split
      · rename_i kind
        rw [consumes, if_neg fun key => same ⟨kind, key⟩]
      · rfl
    rw [counterAmount_charged records, nothing, add_zero]
    exact before

end Counters

/-- The check of one request: an ExactCount request is not looked at. -/
def RequestData.feasible (ctx : SearchContext) (rd : RequestData) : Bool :=
  decide (rd.allocationMode ≠ .all) || allModeCountersFeasible ctx rd

def ClaimRequest.feasible (ctx : SearchContext) : ClaimRequest → Bool
  | .exactly rd => rd.feasible ctx
  | .firstAvailable _ first others => (first :: others).any (·.feasible ctx)

theorem ClaimRequest.feasible_of_alternative {req : ClaimRequest} (alternative : rd ∈ req.alternatives)
    (feasible : rd.feasible ctx = true) : req.feasible ctx = true := by
  cases req with
  | exactly request => exact List.mem_singleton.mp alternative ▸ feasible
  | firstAvailable name first others => exact List.any_eq_true.mpr ⟨rd, alternative, feasible⟩

theorem countersFeasible_iff (ctx : SearchContext) : countersFeasible ctx = true ↔
    ∀ cd ∈ ctx.claimData, ∀ req ∈ cd.requests, req.feasible ctx = true := by
  have each : countersFeasible ctx = ctx.claimData.all fun cd => cd.requests.all (·.feasible ctx) := by
    rw [countersFeasible]
    congr!
  rw [each]
  simp only [List.all_eq_true]

/-- What a search has charged is what its devices draw, and covered by what is left. -/
structure Drawing (ctx : SearchContext) (home : List Pool) (a : Search) : Prop where
  offers : ∀ m ∈ a.allocatedDevicesMetadata, ctx.Offers home m.deviceWithID
  counted : ∀ template pool set name, counterAmount (a.charged template) pool set name =
    (a.allocatedDevicesMetadata.map (drawn template pool set name)).sum
  covered : ∀ m ∈ a.allocatedDevicesMetadata, ¬ m.deviceWithID.device.consumesCounters.entries.isEmpty = true →
    ∃ left, ctx.budget m.deviceWithID.id.template m.deviceWithID.id.poolKey = some left ∧
      (∀ set counters, m.deviceWithID.device.consumesCounters.lookup set = some counters →
        (left.lookup set).isSome = true) ∧
      ∀ set name q, quantity? m.deviceWithID.device.consumesCounters set name = some q →
        ∃ l, quantity? left set name = some l ∧
          counterAmount (a.charged m.deviceWithID.id.template) m.deviceWithID.id.poolKey set name ≤ l

theorem Drawing.undone (drawing : Drawing ctx home a) (same : Undone a b) : Drawing ctx home b := by
  have charged := counterAmount_charged_of_undone same
  constructor
  all_goals rw [same.toRestores.metadata]
  · exact drawing.offers
  · exact fun template pool set name => (charged template pool set name).trans (drawing.counted template pool set name)
  · simpa only [charged] using drawing.covered

/-- The copies the check has made so far lack at most what the devices before draw. -/
def Shadowed (ctx : SearchContext) (before : List DeviceAllocationMetadata) (shadows : Bool → PoolCounters) : Prop :=
  ∀ template pool shadow, (shadows template).lookup pool = some shadow →
    ∃ left, ctx.budget template pool = some left ∧
      ShadowOf left (fun set name => (before.map (drawn template pool set name)).sum) shadow

section Drawing

variable {ctx : SearchContext} {dw : DeviceWithID} (wholeCounters : ctx.WholeCounters home)
include wholeCounters

theorem SearchContext.WholeCounters.device (offers : ctx.Offers home dw) :
    ∀ set name, Whole (amountAt dw.device.consumesCounters set name) := by
  rcases offers with inPools | inTemplates | ⟨cd, inClaims, req, inRequests, rd, alternative, listed⟩
  · exact wholeCounters.inCluster dw inPools
  · exact wholeCounters.templates dw inTemplates
  · exact wholeCounters.requests cd inClaims req inRequests rd alternative dw listed

theorem Drawing.whole (drawing : Drawing ctx home a) (template : Bool) (pool : PoolKey) (set name : String) :
    ∀ q ∈ a.allocatedDevicesMetadata.map (drawn template pool set name), Whole q := by
  intro q member
  obtain ⟨m, inMetadata, rfl⟩ := List.mem_map.mp member
  exact whole_drawn (wholeCounters.device (drawing.offers m inMetadata)) template pool set name

theorem Drawing.records (drawing : Drawing ctx home a) (offers : ctx.Offers home dw)
    (records : Records ctx pos rd dw a consumed b) : Drawing ctx home b := by
  have listed := metadata_of_records records
  have room {set name : String} {q : Quantity} (drawnOn : quantity? dw.device.consumesCounters set name = some q) :=
    room_of_records records drawnOn (wholeCounters.device offers)
      (wholeCounters.budgets dw.id.template dw.id.poolKey set name)
      (drawing.counted _ _ _ _ ▸ whole_sum (drawing.whole wholeCounters _ _ _ _))
  refine ⟨?_, ?_, ?_⟩
  · intro m member
    rw [listed] at member
    rcases List.mem_append.mp member with before | added
    · exact drawing.offers m before
    · exact List.mem_singleton.mp added ▸ offers
  · intro template pool set name
    rw [listed, List.map_append, List.sum_append, counterAmount_charged records, drawing.counted]
    simp [drawn]
  · intro m member draws
    rw [listed] at member
    rcases List.mem_append.mp member with before | added
    · obtain ⟨left, budget, sets, amounts⟩ := drawing.covered m before draws
      refine ⟨left, budget, sets, fun set name q drawnOn => ?_⟩
      obtain ⟨l, found, within⟩ := amounts set name q drawnOn
      refine ⟨l, found, withinBudget_of_records records (fun kind key q' drawnToo => ?_) within⟩
      obtain ⟨l', found', within'⟩ := room drawnToo
      rw [kind, key, budget, Option.bind_some, found] at found'
      cases found'
      rwa [kind, key] at within'
    · cases List.mem_singleton.mp added
      obtain ⟨left, budget, checked⟩ := checkCounters_of_countersAvailable records.passed draws
      refine ⟨left, budget, fun set counters => isSome_of_checkCounters checked, fun set name q drawnOn => ?_⟩
      have own := room drawnOn
      rwa [budget, Option.bind_some] at own

/-- The check accepts devices that the search has charged one after the other. -/
theorem Drawing.shadowsFeasible (drawing : Drawing ctx home a)
    (inside : (before ++ own).Sublist a.allocatedDevicesMetadata) (shadowed : Shadowed ctx before shadows) :
    shadowsFeasible ctx (own.map (·.deviceWithID)) (shadows false) (shadows true) = true := by
  induction own generalizing before shadows with
  | nil => rfl
  | cons m rest ih =>
    have member : m ∈ a.allocatedDevicesMetadata := inside.subset (by simp)
    have next : ((before ++ [m]) ++ rest).Sublist a.allocatedDevicesMetadata := by simpa using inside
    have sum (template : Bool) (pool : PoolKey) (set name : String) :
        ((before ++ [m]).map (drawn template pool set name)).sum =
          (before.map (drawn template pool set name)).sum + drawn template pool set name m := by simp
    have kept : Shadowed ctx (before ++ [m]) shadows := by
      intro template pool shadow found
      obtain ⟨left, budget, copy⟩ := shadowed template pool shadow found
      refine ⟨left, budget, copy.mono fun set name => ?_⟩
      rw [sum, le_add_iff_nonneg_right]
      exact (whole_drawn (wholeCounters.device (drawing.offers m member)) template pool set name).nonneg
    rw [List.map_cons, DynamicResources.shadowsFeasible]
    split
    · exact ih next kept
    · rename_i draws
      obtain ⟨left, budget, sets, amounts⟩ := drawing.covered m member draws
      -- The copy of the device's pool, fresh from the budget if the check has not touched it before.
      have exists_copy : ∃ shadow, ((shadows m.deviceWithID.id.template).lookup m.deviceWithID.id.poolKey).orElse
          (fun _ => ctx.budget m.deviceWithID.id.template m.deviceWithID.id.poolKey) = some shadow ∧
          ShadowOf left (fun set name => (before.map (drawn m.deviceWithID.id.template m.deviceWithID.id.poolKey
            set name)).sum) shadow := by
        cases found : (shadows m.deviceWithID.id.template).lookup m.deviceWithID.id.poolKey with
        | none =>
          refine ⟨left, budget, ShadowOf.self fun set name => List.sum_nonneg fun q listed => ?_⟩
          exact (drawing.whole wholeCounters _ _ set name q
            (((List.sublist_append_left before _).trans inside).map _ |>.subset listed)).nonneg
        | some shadow =>
          obtain ⟨same, budget', copy⟩ := shadowed _ _ shadow found
          rw [budget] at budget'
          cases budget'
          exact ⟨shadow, rfl, copy⟩
      obtain ⟨shadow, found, copy⟩ := exists_copy
      have own (set name : String) : drawn m.deviceWithID.id.template m.deviceWithID.id.poolKey set name m =
          amountAt m.deviceWithID.device.consumesCounters set name := by
        rw [drawn, if_pos rfl, consumes, if_pos rfl]
      have deducted : deductShadow shadow m.deviceWithID.device.consumesCounters =
          some (deductKeyed shadow m.deviceWithID.device.consumesCounters) := by
        refine copy.deductShadow sets fun set name q drawnOn => ?_
        obtain ⟨l, foundLeft, within⟩ := amounts set name q drawnOn
        refine ⟨l, foundLeft, le_trans ?_ (drawing.counted _ _ _ _ ▸ within)⟩
        have part := ((List.sublist_append_left (before ++ [m]) rest).trans next).map
          (drawn m.deviceWithID.id.template m.deviceWithID.id.poolKey set name)
        have bound := part.sum_le_sum fun q listed => (drawing.whole wholeCounters _ _ _ _ q listed).nonneg
        rwa [sum, own, amountAt, drawnOn, Option.getD_some] at bound
      have deductedToo : Shadowed ctx (before ++ [m]) (Function.update shadows m.deviceWithID.id.template
          ((shadows m.deviceWithID.id.template).insert m.deviceWithID.id.poolKey
            (deductKeyed shadow m.deviceWithID.device.consumesCounters))) := by
        intro template pool other atPool
        by_cases same : template = m.deviceWithID.id.template
        · subst same
          rw [Function.update_self, Map.lookup_insert_eq] at atPool
          split at atPool
          · rename_i samePool
            subst samePool
            cases atPool
            refine ⟨left, budget, (copy.deduct _).mono fun set name => ?_⟩
            rw [sum, own]
          · exact kept _ pool other atPool
        · rw [Function.update_of_ne same] at atPool
          exact kept template pool other atPool
      have accepted := ih next deductedToo
      cases kind : m.deviceWithID.id.template with
      | false =>
        simp only [kind, SearchContext.budget, Bool.false_eq_true, if_false] at found
        rw [kind, Function.update_self, Function.update_of_ne (by decide)] at accepted
        simp only [Bool.false_eq_true, if_false, found, deducted, accepted]
      | true =>
        simp only [kind, SearchContext.budget, if_true] at found
        rw [kind, Function.update_self, Function.update_of_ne (by decide)] at accepted
        simp only [if_true, found, deducted, accepted]

end Drawing

/-- When the check fails, so does the search that would have started from the same state. -/
theorem dfs_fails_of_infeasible (call : AllocateCall) (it : InstanceTypeID) (depth : Nat) (a : Search)
    (wholeCounters : (call.context it).WholeCounters call.initialPools)
    (infeasible : countersFeasible (call.context it) = false) :
    (dfs (call.context it) depth ⟨0, 0, none, 0⟩ (call.restoreState it a)).1 = false := by
  by_contra successful
  let rule := triesRule (call.context it) call.initialPools
  have pre : rule.Pre (.dfs depth ⟨0, 0, none, 0⟩) (call.restoreState it a) :=
    ⟨call.tidied_restoreState it a, List.Subset.refl _, trivial⟩
  obtain ⟨finished, succeeded⟩ : ∃ finished, dfs (call.context it) depth ⟨0, 0, none, 0⟩ (call.restoreState it a) =
      (true, finished) := ⟨_, Prod.ext (Bool.eq_true_of_not_eq_false successful) rfl⟩
  have drawing : Drawing (call.context it) call.initialPools finished := by
    refine rule.also_succeeded (fun same drawing => drawing.undone same)
      (fun pre drawing records => drawing.records wholeCounters pre.2.2.2 records) pre ⟨?_, ?_, ?_⟩ succeeded
    · exact fun m none_ => by cases none_
    · intro template pool set name
      cases template <;> rfl
    · exact fun m none_ => by cases none_
  obtain ⟨new, metadata, serves⟩ := servesAll_of_dfs (fun _ _ => True) rule
    (fun same => same.toRestores.metadata) (fun _ _ => trivial) pre succeeded
  have feasible : countersFeasible (call.context it) = true := by
    rw [countersFeasible_iff]
    intro cd inClaims req inRequests
    obtain ⟨i, claim⟩ := List.mem_iff_getElem?.mp inClaims
    obtain ⟨part, servesClaim, ofNew⟩ := serves.exists_of_mem (List.mk_mem_zipIdx_iff_getElem?.mpr claim)
    obtain ⟨own, ⟨rd, alternative, slots⟩, ofPart⟩ := servesClaim.exists_of_mem inRequests
    refine ClaimRequest.feasible_of_alternative alternative ?_
    rw [RequestData.feasible, Bool.or_eq_true, decide_eq_true_eq]
    refine or_iff_not_imp_left.mpr fun mode => ?_
    have inside : ([] ++ own).Sublist finished.allocatedDevicesMetadata :=
      metadata ▸ (ofPart.trans ofNew).sublist.trans (List.sublist_append_right _ _)
    have start : Shadowed (call.context it) [] fun _ => ∅ := fun template pool shadow found => by cases found
    have accepted := drawing.shadowsFeasible wholeCounters inside start
    rwa [slots.devices (not_not.mp mode)] at accepted
  rw [infeasible] at feasible
  cases feasible

/-! A request for all partitions of a card whose memory is short of them. -/

def scarcePartition (name : String) : DeviceWithID where
  device := { name, consumesCounters := Map.ofList [("memory", Map.ofList [("gigabytes", 4)])] }
  id := { driver := "gpu", pool := "card", device := name }

def scarceSlices : List ResourceSlice := [
  { driver := "gpu", pool := "card", resourceSliceCount := 2
    sharedCounters := some [⟨"memory", Map.ofList [("gigabytes", 6)]⟩] },
  { driver := "gpu", pool := "card", resourceSliceCount := 2, allNodes := true
    devices := ["partition-0", "partition-1"].map fun name => (scarcePartition name).device }]

def scarceCall : AllocateCall where
  allocator := {
    allocationTracker := {
      preallocatedDevices := ∅
      preallocatedConsumedCapacity := ∅
      remainingCounters := Map.ofList [(⟨"gpu", "card"⟩,
        Map.ofList [("memory", Map.ofList [("gigabytes", 6)])])] }
    inClusterSlices := scarceSlices }
  env := sharedEnvironment
  nodeClaim := { id := "node", instanceTypes := ["small"] }
  initialPools := gatherPools ∅ scarceSlices Requirements.empty "" true
  requirements := Requirements.empty
  claimData := [{
    id := ⟨"default", "partitions"⟩
    requests := [.exactly {
      name := ⟨"partitions", ""⟩
      numDevices := 0
      allocationMode := .all
      allDevices := ["partition-0", "partition-1"].map scarcePartition
      selectors := [] }]
    constraints := [] }]

theorem quantity?_memory {set name : String}
    (found : quantity? (Map.ofList [("memory", Map.ofList [("gigabytes", given)])]) set name = some q) : q = given := by
  obtain ⟨counters, atSet, atName⟩ := Option.bind_eq_some_iff.mp found
  cases List.mem_singleton.mp (Map.mem_of_lookup_ofList atSet)
  cases List.mem_singleton.mp (Map.mem_of_lookup_ofList atName)
  rfl

theorem whole_scarcePartition (device set name : String) :
    Whole (amountAt (scarcePartition device).device.consumesCounters set name) := by
  rw [amountAt]
  cases found : quantity? (scarcePartition device).device.consumesCounters set name with
  | none => exact Whole.zero
  | some q => exact ⟨4, quantity?_memory found⟩

theorem wholeCounters_scarceCall : (scarceCall.context "small").WholeCounters scarceCall.initialPools where
  budgets := by
    intro template pool set name q found
    cases template with
    | true => cases found
    | false =>
      obtain ⟨sets, inTracker, atSet⟩ := Option.bind_eq_some_iff.mp found
      cases List.mem_singleton.mp (Map.mem_of_lookup_ofList inTracker)
      exact ⟨6, quantity?_memory atSet⟩
  inCluster := by
    intro d listed
    have offers : offered scarceCall.initialPools = ["partition-0", "partition-1"].map scarcePartition := rfl
    obtain ⟨name, -, rfl⟩ := List.mem_map.mp (offers ▸ listed)
    exact whole_scarcePartition name
  templates := by
    intro d member
    cases member
  requests := by
    intro cd inClaims req inRequests rd inAlternatives d listed
    cases List.mem_singleton.mp inClaims
    cases List.mem_singleton.mp inRequests
    cases List.mem_singleton.mp inAlternatives
    rw [SearchContext.allModeDevices, show AList.lookup _ _ = none from rfl] at listed
    obtain ⟨name, -, rfl⟩ := List.mem_map.mp (List.append_nil _ ▸ listed)
    exact whole_scarcePartition name

theorem dfs_fails_of_infeasible_scarce : countersFeasible (scarceCall.context "small") = false ∧
    (dfs (scarceCall.context "small") (searchDepth (scarceCall.context "small")) ⟨0, 0, none, 0⟩
      (scarceCall.restoreState "small" scarceCall.initialSearch)).1 = false := by
  have infeasible : countersFeasible (scarceCall.context "small") = false := by decide +kernel
  exact ⟨infeasible, dfs_fails_of_infeasible scarceCall "small" _ _ wholeCounters_scarceCall infeasible⟩

end Karpenter.DynamicResources
