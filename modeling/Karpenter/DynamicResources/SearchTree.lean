import Karpenter.DynamicResources.Allocator

/-! The calls one search makes. `Makes` relates a call in a state to the calls it makes and the states it
makes them in, so that a reachable state of the search is one at the end of a chain of calls. `SearchRule`
packages the induction over the recursion: what holds when a call is made, and how the state that a failed
call leaves behind relates to the one it started in. -/
namespace Karpenter.DynamicResources

namespace Position

variable (pos : Position)

def nextSlot : Position := { pos with slotIdx := pos.slotIdx + 1 }

def nextRequest : Position := ⟨pos.claimIdx, pos.reqIdx + 1, none, 0⟩

def nextClaim : Position := ⟨pos.claimIdx + 1, 0, none, 0⟩

def alternative (subReqIdx : Nat) : Position :=
  ⟨pos.claimIdx, pos.reqIdx, some subReqIdx, 0⟩

end Position

/-- A call of the search: going on from a position, or trying one device there. -/
inductive SearchCall
  | dfs (depth : Nat) (pos : Position)
  | tryDevice (depth : Nat) (pos : Position) (rd : RequestData) (dw : DeviceWithID)

def SearchCall.run (ctx : SearchContext) : SearchCall → Search → Bool × Search
  | .dfs depth pos => DynamicResources.dfs ctx depth pos
  | .tryDevice depth pos rd dw =>
    DynamicResources.tryDevice ctx pos rd dw (DynamicResources.dfs ctx depth pos.nextSlot)

namespace Search

def polled (a : Search) : Search := { a with polls := a.polls + 1 }

/-- The way back from a device whose subtree failed. -/
def backtrack (pos : Position) (rd : RequestData) (dw : DeviceWithID) (consumed : Option ConsumedCapacity)
    (a : Search) : Search :=
  ((a.undo dw consumed).widen dw).removeFromConstraints pos.claimIdx rd.name

end Search

/-- Going through the items from one state gets to an item in another, all items before it having failed. -/
inductive Visits (attempt : α → Search → Bool × Search) : List α → Search → α → Search → Prop
  | here : Visits attempt (x :: rest) a x a
  | later : attempt x a = (false, b) → Visits attempt rest b y c → Visits attempt (x :: rest) a y c

section Items

variable {a b : Search}

theorem Visits.mem (visits : Visits attempt items a x b) : x ∈ items := by
  induction visits with
  | here => exact List.mem_cons_self
  | later _ _ ih => exact List.mem_cons_of_mem _ ih

theorem exists_visits_of_firstSuccess (succeeded : firstSuccess attempt items a = (true, b)) :
    ∃ x c, Visits attempt items a x c ∧ attempt x c = (true, b) := by
  induction items generalizing a with
  | nil => cases succeeded
  | cons x rest ih =>
    rw [firstSuccess] at succeeded
    split at succeeded
    · rename_i c attempted
      exact ⟨x, a, .here, attempted.trans succeeded⟩
    · rename_i c attempted
      obtain ⟨y, d, visits, finished⟩ := ih succeeded
      exact ⟨y, d, .later attempted visits, finished⟩

section

variable (Failed : Search → Search → Prop) (trans : ∀ {a b c}, Failed a b → Failed b c → Failed a c)

include trans

/-- The items before the one visited have all failed. -/
theorem Visits.failed
    (each : ∀ {x b c}, Visits attempt items a x b → Failed start b → attempt x b = (false, c) → Failed b c)
    (before : Failed start a) (visits : Visits attempt items a x b) : Failed start b := by
  induction visits with
  | here => exact before
  | later attempted _ ih =>
    refine ih (fun visits => each (.later attempted visits)) ?_
    exact trans before (each .here before attempted)

theorem failed_of_firstSuccess
    (each : ∀ {x b c}, Visits attempt items a x b → Failed start b → attempt x b = (false, c) → Failed b c)
    (before : Failed start a) (failed : firstSuccess attempt items a = (false, b)) : Failed start b := by
  induction items generalizing a with
  | nil =>
    cases failed
    exact before
  | cons x rest ih =>
    rw [firstSuccess] at failed
    split at failed
    · cases failed
    · rename_i c attempted
      refine ih (fun visits => each (.later attempted visits)) ?_ failed
      exact trans before (each .here before attempted)

end

end Items

/-- The state in which the checks of a device were made, with its selector result remembered and the
constraints of the claim extended. -/
def Search.constrained (ctx : SearchContext) (pos : Position) (rd : RequestData) (dw : DeviceWithID)
    (a : Search) : Search :=
  let matched := (matchesRequest ctx pos rd dw a).2
  matched.setConstraints pos.claimIdx
    (addConstraints rd.name dw.device dw.id (matched.constraints.getD pos.claimIdx [])).2

/-- Whether every constraint of the claim takes the device. -/
def Search.satisfies (pos : Position) (rd : RequestData) (dw : DeviceWithID) (a : Search) : Bool :=
  (addConstraints rd.name dw.device dw.id (a.constraints.getD pos.claimIdx [])).1

/-- The device is available and its counters have room, so that its selectors are consulted. -/
structure Consulted (ctx : SearchContext) (rd : RequestData) (dw : DeviceWithID) (a : Search)
    (consumed : Option ConsumedCapacity) : Prop where
  accepted : availability ctx a rd dw = some consumed
  passed : countersAvailable ctx a dw = true

/-- The device is turned away in the state `a`, which leaves the state `b`. -/
inductive Rejects (ctx : SearchContext) (pos : Position) (rd : RequestData) (dw : DeviceWithID) (a : Search) :
    Search → Prop
  | unavailable : availability ctx a rd dw = none → Rejects ctx pos rd dw a a
  | counters : countersAvailable ctx a dw = false → Rejects ctx pos rd dw a a
  | selectors : Consulted ctx rd dw a consumed → (matchesRequest ctx pos rd dw a).1 = false →
      Rejects ctx pos rd dw a (matchesRequest ctx pos rd dw a).2
  | constraints : Consulted ctx rd dw a consumed → (matchesRequest ctx pos rd dw a).1 = true →
      (matchesRequest ctx pos rd dw a).2.satisfies pos rd dw = false →
      Rejects ctx pos rd dw a (a.constrained ctx pos rd dw)
  | topology : Consulted ctx rd dw a consumed → (matchesRequest ctx pos rd dw a).1 = true →
      (matchesRequest ctx pos rd dw a).2.satisfies pos rd dw = true →
      (a.constrained ctx pos rd dw).narrow ctx dw = none →
      Rejects ctx pos rd dw a ((a.constrained ctx pos rd dw).removeFromConstraints pos.claimIdx rd.name)

/-- The device passes every check in the state `a` and is recorded in the state `b`. -/
structure Records (ctx : SearchContext) (pos : Position) (rd : RequestData) (dw : DeviceWithID) (a : Search)
    (consumed : Option ConsumedCapacity) (b : Search) : Prop extends Consulted ctx rd dw a consumed where
  matched : (matchesRequest ctx pos rd dw a).1 = true
  satisfied : (matchesRequest ctx pos rd dw a).2.satisfies pos rd dw = true
  recorded : ∃ narrowed, (a.constrained ctx pos rd dw).narrow ctx dw = some narrowed ∧
    b = narrowed.record pos rd dw consumed

section TryDevice

variable {ctx : SearchContext} {pos : Position} {a b c : Search}

theorem tryDevice_of_records (records : Records ctx pos rd dw a consumed b) : tryDevice ctx pos rd dw recurse a =
      if (recurse b).1 then (true, (recurse b).2) else (false, (recurse b).2.backtrack pos rd dw consumed) := by
  obtain ⟨narrowed, found, rfl⟩ := records.recorded
  have matched : matchesRequest ctx pos rd dw a = (true, (matchesRequest ctx pos rd dw a).2) :=
    Prod.ext records.matched rfl
  rw [tryDevice, records.accepted]
  simp only [records.passed, Bool.not_true, Bool.false_eq_true, if_false]
  rw [matched]
  have satisfied := records.satisfied
  rw [Search.satisfies] at satisfied
  simp only [satisfied, Bool.not_true, Bool.false_eq_true, if_false]
  rw [Search.constrained] at found
  rw [found]
  dsimp only
  cases recurse (narrowed.record pos rd dw consumed) with
  | mk succeeded c => cases succeeded <;> rfl

/-- A device is turned away, or it is recorded and the rest of the search decides. -/
theorem tryDevice_cases (ctx : SearchContext) (pos : Position) (rd : RequestData) (dw : DeviceWithID)
    (recurse : Search → Bool × Search) (a : Search) :
    (∃ b, Rejects ctx pos rd dw a b ∧ tryDevice ctx pos rd dw recurse a = (false, b)) ∨
      ∃ consumed b, Records ctx pos rd dw a consumed b := by
  cases accepted : availability ctx a rd dw with
  | none => exact .inl ⟨a, .unavailable accepted, by rw [tryDevice, accepted]⟩
  | some consumed =>
    cases passed : countersAvailable ctx a dw with
    | false => exact .inl ⟨a, .counters passed, by simp [tryDevice, accepted, passed]⟩
    | true =>
      cases matched : (matchesRequest ctx pos rd dw a).1 with
      | false =>
        have whole : matchesRequest ctx pos rd dw a = (false, (matchesRequest ctx pos rd dw a).2) :=
          Prod.ext matched rfl
        refine .inl ⟨_, .selectors ⟨accepted, passed⟩ matched, ?_⟩
        rw [tryDevice, accepted]
        simp only [passed, Bool.not_true, Bool.false_eq_true, if_false]
        rw [whole]
      | true =>
        have whole : matchesRequest ctx pos rd dw a = (true, (matchesRequest ctx pos rd dw a).2) :=
          Prod.ext matched rfl
        cases satisfied : (matchesRequest ctx pos rd dw a).2.satisfies pos rd dw with
        | false =>
          refine .inl ⟨_, .constraints ⟨accepted, passed⟩ matched satisfied, ?_⟩
          rw [tryDevice, accepted]
          simp only [passed, Bool.not_true, Bool.false_eq_true, if_false]
          rw [whole]
          rw [Search.satisfies] at satisfied
          simp only [satisfied, Bool.not_false, if_true]
          rfl
        | true =>
          cases narrowed : (a.constrained ctx pos rd dw).narrow ctx dw with
          | none =>
            refine .inl ⟨_, .topology ⟨accepted, passed⟩ matched satisfied narrowed, ?_⟩
            rw [tryDevice, accepted]
            simp only [passed, Bool.not_true, Bool.false_eq_true, if_false]
            rw [whole]
            rw [Search.satisfies] at satisfied
            simp only [satisfied, Bool.not_true, Bool.false_eq_true, if_false]
            rw [Search.constrained] at narrowed
            rw [narrowed]
            rfl
          | some found => exact .inr ⟨consumed, _, ⟨accepted, passed⟩, matched, satisfied, found, narrowed, rfl⟩

end TryDevice

/-- A device of a pool at a slot: one that consumes counters is passed over when the pool is exhausted. -/
def tryPoolDevice (ctx : SearchContext) (pos : Position) (rd : RequestData) (recurse : Search → Bool × Search)
    (exhausted : Bool) (d : DeviceWithID) (a : Search) : Bool × Search :=
  if exhausted && !d.device.consumesCounters.entries.isEmpty then (false, a)
  else tryDevice ctx pos rd d recurse a

def tryPool (ctx : SearchContext) (pos : Position) (rd : RequestData) (recurse : Search → Bool × Search)
    (pool : Pool) (a : Search) : Bool × Search :=
  if pool.incomplete then (false, a)
  else firstSuccess (tryPoolDevice ctx pos rd recurse (poolCountersExhausted ctx a pool)) pool.devices a

variable (ctx : SearchContext)

def SearchContext.templateDevices : List DeviceWithID :=
  (ctx.templateDevicesByIT.lookup ctx.itID).getD []

/-- The devices of an All-mode request, one for each slot. -/
def SearchContext.allModeDevices (rd : RequestData) : List DeviceWithID :=
  rd.allDevices ++ (rd.allTemplateDevicesByIT.lookup ctx.itID).getD []

theorem dfsExactCount_eq (pos : Position) (rd : RequestData) (recurse : Search → Bool × Search) (a : Search) :
    dfsExactCount ctx pos rd recurse a =
      match firstSuccess (tryPool ctx pos rd recurse) a.pools a with
      | (true, b) => (true, b)
      | (false, b) => firstSuccess (fun d => tryDevice ctx pos rd d recurse) ctx.templateDevices b := rfl

/-- The request a position refers to. -/
def SearchContext.requestAt (pos : Position) : Option RequestData :=
  (ctx.claimData[pos.claimIdx]?).bind fun cd =>
    (cd.requests[pos.reqIdx]?).bind fun req => req.resolve pos.subReqIdx

/-- A position whose request may be served: an All-mode request has devices, and the claim stays within
the limit on its devices. -/
structure Fills (ctx : SearchContext) (pos : Position) (a : Search) (rd : RequestData) : Prop where
  request : ctx.requestAt pos = some rd
  nonempty : ¬ (rd.allocationMode = .all ∧ numSlots ctx rd = 0)
  withinLimit : ¬ (pos.slotIdx = 0 ∧
    allocationResultsMaxSize < claimDeviceCount a pos.claimIdx + numSlots ctx rd)

/-- The calls made from a position in the state `a`, with the states they are made in. -/
inductive Branches (ctx : SearchContext) (depth : Nat) (pos : Position) (a : Search) :
    SearchCall → Search → Prop
  | nextClaim : ctx.claimData[pos.claimIdx]? = some cd → cd.requests[pos.reqIdx]? = none →
      Branches ctx depth pos a (.dfs depth pos.nextClaim) a.polled
  | alternative : ctx.claimData[pos.claimIdx]? = some cd →
      cd.requests[pos.reqIdx]? = some (.firstAvailable name first others) → pos.subReqIdx = none →
      Visits (fun subReqIdx => dfs ctx depth (pos.alternative subReqIdx)) (List.range (others.length + 1))
        a.polled subReqIdx b →
      Branches ctx depth pos a (.dfs depth (pos.alternative subReqIdx)) b
  | nextRequest : Fills ctx pos a rd → numSlots ctx rd ≤ pos.slotIdx →
      Branches ctx depth pos a (.dfs depth pos.nextRequest) a.polled
  | allMode : Fills ctx pos a rd → rd.allocationMode = .all → pos.slotIdx < numSlots ctx rd →
      (ctx.allModeDevices rd)[pos.slotIdx]? = some d →
      Branches ctx depth pos a (.tryDevice depth pos rd d) a.polled
  | pool : Fills ctx pos a rd → rd.allocationMode = .exactCount → pos.slotIdx < numSlots ctx rd →
      Visits (tryPool ctx pos rd (dfs ctx depth pos.nextSlot)) a.pools a.polled pool b →
      pool.incomplete = false →
      Visits (tryPoolDevice ctx pos rd (dfs ctx depth pos.nextSlot) (poolCountersExhausted ctx b pool))
        pool.devices b d c →
      (poolCountersExhausted ctx b pool && !d.device.consumesCounters.entries.isEmpty) = false →
      Branches ctx depth pos a (.tryDevice depth pos rd d) c
  | template : Fills ctx pos a rd → rd.allocationMode = .exactCount → pos.slotIdx < numSlots ctx rd →
      firstSuccess (tryPool ctx pos rd (dfs ctx depth pos.nextSlot)) a.pools a.polled = (false, b) →
      Visits (fun d => tryDevice ctx pos rd d (dfs ctx depth pos.nextSlot)) ctx.templateDevices b d c →
      Branches ctx depth pos a (.tryDevice depth pos rd d) c

theorem Branches.source {ctx : SearchContext} {a b : Search}
    (branches : Branches ctx depth pos a (.tryDevice left pos' rd dw) b) :
    left = depth ∧ pos' = pos ∧ ctx.requestAt pos = some rd ∧ pos.slotIdx < numSlots ctx rd ∧
      ((rd.allocationMode = .all ∧ (ctx.allModeDevices rd)[pos.slotIdx]? = some dw) ∨
        (rd.allocationMode = .exactCount ∧ (dw ∈ offered a.pools ∨ dw ∈ ctx.templateDevices))) := by
  cases branches with
  | allMode fills mode room found => exact ⟨rfl, rfl, fills.request, room, .inl ⟨mode, found⟩⟩
  | pool fills mode room inPools complete inPool =>
    exact ⟨rfl, rfl, fills.request, room, .inr ⟨mode, .inl (List.mem_flatMap.mpr ⟨_, inPools.mem, inPool.mem⟩)⟩⟩
  | template fills mode room exhausted visits =>
    exact ⟨rfl, rfl, fills.request, room, .inr ⟨mode, .inr visits.mem⟩⟩

/-- A call in a state makes another call in another state. -/
inductive Makes (ctx : SearchContext) : SearchCall → Search → SearchCall → Search → Prop
  | branch : ctx.env.isDone a.polls = false → Branches ctx depth pos a child b →
      Makes ctx (.dfs (depth + 1) pos) a child b
  | recurse : Records ctx pos rd dw a consumed b →
      Makes ctx (.tryDevice depth pos rd dw) a (.dfs depth pos.nextSlot) b

inductive Reaches (ctx : SearchContext) : SearchCall → Search → SearchCall → Search → Prop
  | refl : Reaches ctx call a call a
  | tail : Reaches ctx call a parent b → Makes ctx parent b child c → Reaches ctx call a child c

/-- What carries an induction over the calls of a search: `Pre` holds whenever a call is made, and `Failed`
relates the state a failed call leaves behind to the one it started in. -/
structure SearchRule (ctx : SearchContext) where
  Pre : SearchCall → Search → Prop
  Failed : Search → Search → Prop
  refl : ∀ a, Failed a a
  trans : ∀ {a b c}, Failed a b → Failed b c → Failed a c
  polled : ∀ a, Failed a a.polled
  rejected : ∀ {depth pos rd dw a b}, Pre (.tryDevice depth pos rd dw) a → Rejects ctx pos rd dw a b →
    Failed a b
  backtracked : ∀ {depth pos rd dw a consumed b c}, Pre (.tryDevice depth pos rd dw) a →
    Records ctx pos rd dw a consumed b → dfs ctx depth pos.nextSlot b = (false, c) → Failed b c →
      Failed a (c.backtrack pos rd dw consumed)
  recorded : ∀ {depth pos rd dw a consumed b}, Pre (.tryDevice depth pos rd dw) a →
    Records ctx pos rd dw a consumed b → Pre (.dfs depth pos.nextSlot) b
  branch : ∀ {depth pos a child b}, Pre (.dfs (depth + 1) pos) a → ctx.env.isDone a.polls = false →
    Branches ctx depth pos a child b → Failed a b → Pre child b

/-- What going on from a position comes down to: nothing, one further call, or a sequence of them. -/
inductive Step (ctx : SearchContext) (depth : Nat) (pos : Position) (a : Search) : Prop
  | stop : dfs ctx (depth + 1) pos a = (false, a.polled) → Step ctx depth pos a
  | finish : ctx.claimData[pos.claimIdx]? = none → dfs ctx (depth + 1) pos a = (true, a.polled) →
      Step ctx depth pos a
  | single : ctx.env.isDone a.polls = false → Branches ctx depth pos a child a.polled →
      dfs ctx (depth + 1) pos a = child.run ctx a.polled → Step ctx depth pos a
  | alternatives : ctx.env.isDone a.polls = false → ctx.claimData[pos.claimIdx]? = some cd →
      cd.requests[pos.reqIdx]? = some (.firstAvailable name first others) → pos.subReqIdx = none →
      dfs ctx (depth + 1) pos a =
        firstSuccess (fun subReqIdx => dfs ctx depth (pos.alternative subReqIdx))
          (List.range (others.length + 1)) a.polled → Step ctx depth pos a
  | exactCount : ctx.env.isDone a.polls = false → Fills ctx pos a rd → rd.allocationMode = .exactCount →
      pos.slotIdx < numSlots ctx rd →
      dfs ctx (depth + 1) pos a = dfsExactCount ctx pos rd (dfs ctx depth pos.nextSlot) a.polled →
      Step ctx depth pos a

section Calls

variable {ctx : SearchContext} {pos : Position} {a b c : Search}

theorem step_of_slots (running : ctx.env.isDone a.polls = false) (request : ctx.requestAt pos = some rd)
    (whole : dfs ctx (depth + 1) pos a = dfsSlots ctx (dfs ctx depth) pos rd a.polled) : Step ctx depth pos a := by
  rw [dfsSlots] at whole
  split at whole
  · exact .stop whole
  · rename_i nonempty
    split at whole
    · exact .stop whole
    · rename_i withinLimit
      have fills : Fills ctx pos a rd := ⟨request, nonempty, withinLimit⟩
      split at whole
      · rename_i full
        exact .single running (.nextRequest fills full) whole
      · rename_i room
        split at whole
        · rename_i mode
          rw [dfsAllMode] at whole
          split at whole
          · rename_i d found
            exact .single running (.allMode fills mode (Nat.lt_of_not_le room) found) whole
          · exact .stop whole
        · rename_i mode
          exact .exactCount running fills mode (Nat.lt_of_not_le room) whole

theorem step_dfs (ctx : SearchContext) (depth : Nat) (pos : Position) (a : Search) : Step ctx depth pos a := by
  have whole : dfs ctx (depth + 1) pos a = dfsBody ctx (dfs ctx depth) pos a := rfl
  rw [dfsBody] at whole
  cases done : ctx.env.isDone a.polls with
  | true =>
    simp only [done, if_true] at whole
    exact .stop whole
  | false =>
    simp only [done, Bool.false_eq_true, if_false] at whole
    split at whole
    · rename_i none_
      exact .finish none_ whole
    · rename_i cd claim
      split at whole
      · rename_i finished
        exact .single done (.nextClaim claim finished) whole
      · rename_i req found
        split at whole
        · rename_i name first others parent
          exact .alternatives done claim found parent whole
        · split at whole
          · rename_i rd resolved
            refine step_of_slots done ?_ whole
            rw [SearchContext.requestAt, claim, Option.bind_some, found, Option.bind_some, resolved]
          · exact .stop whole

/-- A search that succeeds has filled the last slot, or made a call that succeeds. -/
theorem exists_branch_of_dfs (succeeded : dfs ctx (depth + 1) pos a = (true, c)) :
    (ctx.claimData[pos.claimIdx]? = none ∧ c = a.polled) ∨
      ∃ child b, Makes ctx (.dfs (depth + 1) pos) a child b ∧ Branches ctx depth pos a child b ∧
        child.run ctx b = (true, c) := by
  cases step_dfs ctx depth pos a with
  | stop whole =>
    rw [whole] at succeeded
    cases succeeded
  | finish none_ whole =>
    rw [whole] at succeeded
    cases succeeded
    exact .inl ⟨none_, rfl⟩
  | single running branches whole =>
    exact .inr ⟨_, _, .branch running branches, branches, whole.symm.trans succeeded⟩
  | alternatives running claim found parent whole =>
    obtain ⟨subReqIdx, b, visits, finished⟩ := exists_visits_of_firstSuccess (whole.symm.trans succeeded)
    have branches := Branches.alternative claim found parent visits
    exact .inr ⟨_, _, .branch running branches, branches, finished⟩
  | exactCount running fills mode room whole =>
    rw [whole, dfsExactCount_eq] at succeeded
    split at succeeded
    · rename_i finished
      cases succeeded
      obtain ⟨pool, b, inPools, inPool⟩ := exists_visits_of_firstSuccess finished
      rw [tryPool] at inPool
      split at inPool
      · cases inPool
      · rename_i complete
        obtain ⟨d, e, visits, tried⟩ := exists_visits_of_firstSuccess inPool
        rw [tryPoolDevice] at tried
        split at tried
        · cases tried
        · rename_i kept
          have branches := Branches.pool fills mode room inPools (by simpa using complete) visits
            (Bool.eq_false_iff.mpr kept)
          exact .inr ⟨_, _, .branch running branches, branches, tried⟩
    · rename_i b failed
      obtain ⟨d, e, visits, tried⟩ := exists_visits_of_firstSuccess succeeded
      have branches := Branches.template fills mode room failed visits
      exact .inr ⟨_, _, .branch running branches, branches, tried⟩

end Calls

namespace SearchRule

variable {ctx : SearchContext} (rule : SearchRule ctx) {pos : Position} {a b c : Search}

/-- The statement of the rule for one call. -/
def Holds (call : SearchCall) : Prop :=
  ∀ {a b}, rule.Pre call a → call.run ctx a = (false, b) → rule.Failed a b

theorem holds_tryDevice (recursive : rule.Holds (.dfs depth pos.nextSlot)) :
    rule.Holds (.tryDevice depth pos rd dw) := by
  intro a b pre failed
  rw [SearchCall.run] at failed
  rcases tryDevice_cases ctx pos rd dw (dfs ctx depth pos.nextSlot) a with ⟨left, rejects, whole⟩ | ⟨consumed, e, records⟩
  · rw [whole] at failed
    cases failed
    exact rule.rejected pre rejects
  · rw [tryDevice_of_records records] at failed
    split at failed
    · cases failed
    · rename_i unsuccessful
      have outcome : dfs ctx depth pos.nextSlot e = (false, (dfs ctx depth pos.nextSlot e).2) :=
        Prod.ext (Bool.eq_false_iff.mpr unsuccessful) rfl
      cases failed
      exact rule.backtracked pre records outcome (recursive (rule.recorded pre records) outcome)

section Below

-- The calls one level down obey the rule.
variable (below : ∀ pos, rule.Holds (.dfs depth pos)) (pre : rule.Pre (.dfs (depth + 1) pos) a)
  (running : ctx.env.isDone a.polls = false)

include below pre running

theorem failed_alternatives (claim : ctx.claimData[pos.claimIdx]? = some cd)
    (found : cd.requests[pos.reqIdx]? = some (.firstAvailable name first others)) (parent : pos.subReqIdx = none)
    {subReqIdx : Nat} (visits : Visits (fun subReqIdx => dfs ctx depth (pos.alternative subReqIdx))
      (List.range (others.length + 1)) a.polled subReqIdx b)
    (before : rule.Failed a b) (failed : dfs ctx depth (pos.alternative subReqIdx) b = (false, c)) : rule.Failed b c :=
  below _ (rule.branch pre running (.alternative claim found parent visits) before) failed

section Fills

variable (fills : Fills ctx pos a rd) (mode : rd.allocationMode = .exactCount) (room : pos.slotIdx < numSlots ctx rd)

include fills mode room

theorem failed_poolDevice {pool : Pool} {e : Search}
    (inPools : Visits (tryPool ctx pos rd (dfs ctx depth pos.nextSlot)) a.pools a.polled pool e)
    (complete : pool.incomplete = false)
    (visits : Visits (tryPoolDevice ctx pos rd (dfs ctx depth pos.nextSlot) (poolCountersExhausted ctx e pool))
      pool.devices e dw b) (before : rule.Failed a b)
    (failed : tryPoolDevice ctx pos rd (dfs ctx depth pos.nextSlot) (poolCountersExhausted ctx e pool) dw b =
      (false, c)) : rule.Failed b c := by
  rw [tryPoolDevice] at failed
  split at failed
  · cases failed
    exact rule.refl b
  · rename_i kept
    have branches := Branches.pool fills mode room inPools complete visits (Bool.eq_false_iff.mpr kept)
    exact rule.holds_tryDevice (below _) (rule.branch pre running branches before) failed

theorem failed_pool (inPools : Visits (tryPool ctx pos rd (dfs ctx depth pos.nextSlot)) a.pools a.polled pool b)
    (before : rule.Failed a b) (failed : tryPool ctx pos rd (dfs ctx depth pos.nextSlot) pool b = (false, c)) :
    rule.Failed b c := by
  rw [tryPool] at failed
  split at failed
  · cases failed
    exact rule.refl b
  · rename_i complete
    refine failed_of_firstSuccess rule.Failed rule.trans ?_ (rule.refl b) failed
    intro d e f visits earlier
    exact rule.failed_poolDevice below pre running fills mode room inPools (by simpa using complete) visits
      (rule.trans before earlier)

theorem failed_pools
    (failed : firstSuccess (tryPool ctx pos rd (dfs ctx depth pos.nextSlot)) a.pools a.polled = (false, b)) :
    rule.Failed a b := by
  refine failed_of_firstSuccess rule.Failed rule.trans ?_ (rule.polled a) failed
  intro pool e f visits earlier
  exact rule.failed_pool below pre running fills mode room visits earlier

theorem failed_exactCount (failed : dfsExactCount ctx pos rd (dfs ctx depth pos.nextSlot) a.polled = (false, b)) :
    rule.Failed a b := by
  rw [dfsExactCount_eq] at failed
  split at failed
  · cases failed
  · rename_i e exhausted
    have before := rule.failed_pools below pre running fills mode room exhausted
    refine failed_of_firstSuccess rule.Failed rule.trans ?_ before failed
    intro d f g visits earlier
    have branches := Branches.template fills mode room exhausted visits
    exact rule.holds_tryDevice (below _) (rule.branch pre running branches earlier)

end Fills

/-- Getting to a call fails the calls before it. -/
theorem failed_branches (branches : Branches ctx depth pos a child b) : rule.Failed a b := by
  cases branches with
  | nextClaim => exact rule.polled a
  | alternative claim found parent visits =>
    refine visits.failed rule.Failed rule.trans ?_ (rule.polled a)
    intro subReqIdx c e visits earlier
    exact rule.failed_alternatives below pre running claim found parent visits earlier
  | nextRequest => exact rule.polled a
  | allMode => exact rule.polled a
  | pool fills mode room inPools complete visits =>
    have before := inPools.failed rule.Failed rule.trans
      (fun visits earlier => rule.failed_pool below pre running fills mode room visits earlier) (rule.polled a)
    refine visits.failed rule.Failed rule.trans ?_ before
    intro d e f visits earlier
    exact rule.failed_poolDevice below pre running fills mode room inPools complete visits earlier
  | template fills mode room exhausted visits =>
    refine visits.failed rule.Failed rule.trans ?_
      (rule.failed_pools below pre running fills mode room exhausted)
    intro d e f visits earlier
    have branches := Branches.template fills mode room exhausted visits
    exact rule.holds_tryDevice (below _) (rule.branch pre running branches earlier)

end Below

theorem holds_dfs (depth : Nat) : ∀ pos, rule.Holds (.dfs depth pos) := by
  induction depth with
  | zero =>
    intro pos a b _ failed
    cases failed
    exact rule.refl a
  | succ depth below =>
    intro pos a b pre failed
    rw [SearchCall.run] at failed
    cases step_dfs ctx depth pos a with
    | stop whole =>
      rw [whole] at failed
      cases failed
      exact rule.polled a
    | finish _ whole =>
      rw [whole] at failed
      cases failed
    | @single child running branches whole =>
      have calls : rule.Holds child := by
        cases child with
        | dfs n next => cases branches with
          | nextClaim | nextRequest | alternative => exact below _
        | tryDevice n at_ rd dw => cases branches with
          | allMode | pool | template => exact rule.holds_tryDevice (below _)
      have pre := rule.branch pre running branches (rule.polled a)
      exact rule.trans (rule.polled a) (calls pre (whole.symm.trans failed))
    | alternatives running claim found parent whole =>
      refine failed_of_firstSuccess rule.Failed rule.trans ?_ (rule.polled a) (whole.symm.trans failed)
      intro subReqIdx c e visits earlier
      exact rule.failed_alternatives below pre running claim found parent visits earlier
    | exactCount running fills mode room whole =>
      exact rule.failed_exactCount below pre running fills mode room (whole.symm.trans failed)

/-- A call that fails leaves the state it started in, as far as the rule says. -/
theorem failed (pre : rule.Pre call a) (unsuccessful : call.run ctx a = (false, b)) : rule.Failed a b := by
  cases call with
  | dfs depth pos => exact rule.holds_dfs depth pos pre unsuccessful
  | tryDevice depth pos rd dw => exact rule.holds_tryDevice (rule.holds_dfs depth _) pre unsuccessful

theorem pre_of_makes (pre : rule.Pre call a) (makes : Makes ctx call a child b) : rule.Pre child b := by
  cases makes with
  | branch running branches =>
    exact rule.branch pre running branches (rule.failed_branches (rule.holds_dfs _) pre running branches)
  | recurse records => exact rule.recorded pre records

/-- Every call that the search makes is made in a state for which the rule holds. -/
theorem pre_of_reaches (pre : rule.Pre call a) (reaches : Reaches ctx call a child b) : rule.Pre child b := by
  induction reaches with
  | refl => exact pre
  | tail _ makes ih => exact rule.pre_of_makes ih makes

/-- The rule for the calls that one call makes. -/
def reached (root : SearchCall) (start : Search) : SearchRule ctx where
  Pre := fun call a => rule.Pre call a ∧ Reaches ctx root start call a
  Failed := rule.Failed
  refl := rule.refl
  trans := rule.trans
  polled := rule.polled
  rejected := fun pre rejects => rule.rejected pre.1 rejects
  backtracked := fun pre records failed same => rule.backtracked pre.1 records failed same
  recorded := fun pre records => ⟨rule.recorded pre.1 records, pre.2.tail (.recurse records)⟩
  branch := fun pre running branches same =>
    ⟨rule.branch pre.1 running branches same, pre.2.tail (.branch running branches)⟩

/-- A search that succeeds descends through calls that succeed, from the last slot upwards. -/
theorem succeeded {motive : SearchCall → Search → Search → Prop}
    (finish : ∀ {depth pos a}, rule.Pre (.dfs (depth + 1) pos) a → ctx.claimData[pos.claimIdx]? = none →
      motive (.dfs (depth + 1) pos) a a.polled)
    (branch : ∀ {depth pos a child b c}, rule.Pre (.dfs (depth + 1) pos) a → Branches ctx depth pos a child b →
      rule.Failed a b → rule.Pre child b → motive child b c → motive (.dfs (depth + 1) pos) a c)
    (record : ∀ {depth pos rd dw a consumed b c}, rule.Pre (.tryDevice depth pos rd dw) a →
      Records ctx pos rd dw a consumed b → motive (.dfs depth pos.nextSlot) b c →
      motive (.tryDevice depth pos rd dw) a c)
    (pre : rule.Pre call a) (successful : call.run ctx a = (true, c)) : motive call a c := by
  have recorded {depth : Nat} (below : ∀ {pos a c}, rule.Pre (.dfs depth pos) a →
      dfs ctx depth pos a = (true, c) → motive (.dfs depth pos) a c) {pos rd dw a c}
      (pre : rule.Pre (.tryDevice depth pos rd dw) a)
      (successful : tryDevice ctx pos rd dw (dfs ctx depth pos.nextSlot) a = (true, c)) :
      motive (.tryDevice depth pos rd dw) a c := by
    rcases tryDevice_cases ctx pos rd dw (dfs ctx depth pos.nextSlot) a with ⟨left, _, whole⟩ | ⟨consumed, b, records⟩
    · rw [whole] at successful
      cases successful
    · rw [tryDevice_of_records records] at successful
      split at successful
      · rename_i finished
        cases successful
        exact record pre records (below (rule.recorded pre records) (Prod.ext finished rfl))
      · cases successful
  have descends (depth : Nat) : ∀ {pos a c}, rule.Pre (.dfs depth pos) a →
      dfs ctx depth pos a = (true, c) → motive (.dfs depth pos) a c := by
    induction depth with
    | zero =>
      intro pos a c _ successful
      cases successful
    | succ depth below =>
      intro pos a c pre successful
      rcases exists_branch_of_dfs successful with ⟨none_, rfl⟩ | ⟨child, b, makes, branches, finished⟩
      · exact finish pre none_
      · have before : rule.Failed a b := by
          cases makes with
          | branch running branches => exact rule.failed_branches (rule.holds_dfs _) pre running branches
        have preChild := rule.pre_of_makes pre makes
        refine branch pre branches before preChild ?_
        cases branches with
        | nextClaim | alternative | nextRequest => exact below preChild finished
        | allMode | pool | template => exact recorded below preChild finished
  cases call with
  | dfs depth pos => exact descends depth pre successful
  | tryDevice depth pos rd dw => exact recorded (descends depth) pre successful

/-- The rule with a property of the state that a failed call keeps and a recorded device extends. -/
def also (Inv : Search → Prop) (kept : ∀ {a b}, rule.Failed a b → Inv a → Inv b)
    (recorded : ∀ {depth pos rd dw a consumed b}, rule.Pre (.tryDevice depth pos rd dw) a → Inv a →
      Records ctx pos rd dw a consumed b → Inv b) : SearchRule ctx where
  Pre := fun call a => rule.Pre call a ∧ Inv a
  Failed := rule.Failed
  refl := rule.refl
  trans := rule.trans
  polled := rule.polled
  rejected := fun pre rejects => rule.rejected pre.1 rejects
  backtracked := fun pre records failed same => rule.backtracked pre.1 records failed same
  recorded := fun pre records => ⟨rule.recorded pre.1 records, recorded pre.1 pre.2 records⟩
  branch := fun pre running branches same => ⟨rule.branch pre.1 running branches same, kept same pre.2⟩

/-- The state a successful call ends in has the property as well. -/
theorem also_succeeded {Inv : Search → Prop} (kept : ∀ {a b}, rule.Failed a b → Inv a → Inv b)
    (recorded : ∀ {depth pos rd dw a consumed b}, rule.Pre (.tryDevice depth pos rd dw) a → Inv a →
      Records ctx pos rd dw a consumed b → Inv b) (pre : rule.Pre call a) (inv : Inv a)
    (successful : call.run ctx a = (true, c)) : Inv c := by
  have start : (rule.also Inv kept recorded).Pre call a := ⟨pre, inv⟩
  refine (rule.also Inv kept recorded).succeeded (motive := fun _ _ c => Inv c) ?_ ?_ ?_ start successful
  · exact fun reached _ => kept (rule.polled _) reached.2
  · exact fun _ _ _ _ later => later
  · exact fun _ _ later => later

end SearchRule

end Karpenter.DynamicResources
