import Karpenter.DynamicResources.Backtrack

/-! What a search that succeeds has allocated. The list of its devices falls into consecutive parts, one for
each claim, and these into one part for each request: the slots of the alternative chosen for it. -/
namespace Karpenter.DynamicResources

/-- Consecutive parts of a list, one for each item. -/
inductive Parts (P : α → List β → Prop) : List α → List β → Prop
  | nil : Parts P [] []
  | cons : P x own → Parts P xs rest → Parts P (x :: xs) (own ++ rest)

namespace Parts

variable {P Q : α → List β → Prop}

theorem imp (each : ∀ x ∈ items, ∀ own, P x own → Q x own) (parts : Parts P items list) : Parts Q items list := by
  induction parts with
  | nil => exact .nil
  | cons own _ ih =>
    exact .cons (each _ List.mem_cons_self _ own) (ih fun x member => each x (List.mem_cons_of_mem _ member))

theorem exists_of_mem (parts : Parts P items list) (member : x ∈ items) : ∃ own, P x own ∧ own <:+: list := by
  induction parts with
  | nil => cases member
  | @cons y own ys rest here _ ih =>
    rcases List.mem_cons.mp member with rfl | inRest
    · exact ⟨own, here, (List.prefix_append own rest).isInfix⟩
    · obtain ⟨part, found, inside⟩ := ih inRest
      exact ⟨part, found, inside.trans (List.suffix_append own rest).isInfix⟩

theorem exists_part (parts : Parts P items list) (member : y ∈ list) : ∃ x ∈ items, ∃ own, P x own ∧ y ∈ own := by
  induction parts with
  | nil => cases member
  | cons here _ ih =>
    rcases List.mem_append.mp member with inOwn | inRest
    · exact ⟨_, List.mem_cons_self, _, here, inOwn⟩
    · obtain ⟨x, inItems, part⟩ := ih inRest
      exact ⟨x, List.mem_cons_of_mem _ inItems, part⟩

theorem eq_nil (parts : Parts P [] list) : list = [] := by
  cases parts
  rfl

end Parts

/-- The allocations of one request are those of one of its alternatives. -/
def ServesRequest (P : Nat → RequestData → List DeviceAllocationMetadata → Prop) (claimIdx : Nat)
    (req : ClaimRequest) (own : List DeviceAllocationMetadata) : Prop :=
  ∃ rd ∈ req.alternatives, P claimIdx rd own

def ServesClaim (P : Nat → RequestData → List DeviceAllocationMetadata → Prop) (claim : ClaimData × Nat)
    (own : List DeviceAllocationMetadata) : Prop :=
  Parts (ServesRequest P claim.2) claim.1.requests own

/-- Every request of every claim is served by a part of the allocations. -/
def ServesAll (P : Nat → RequestData → List DeviceAllocationMetadata → Prop) (claimData : List ClaimData)
    (metadata : List DeviceAllocationMetadata) : Prop :=
  Parts (ServesClaim P) claimData.zipIdx metadata

/-- One allocation for each slot of a request from some slot on. Those of an All-mode request are for its own
devices, in order. -/
structure FillsSlots (ctx : SearchContext) (Fits : RequestData → DeviceAllocationMetadata → Prop)
    (slotIdx claimIdx : Nat) (rd : RequestData) (own : List DeviceAllocationMetadata) : Prop where
  count : own.length = numSlots ctx rd - slotIdx
  labelled : ∀ m ∈ own, m.claimIndex = claimIdx ∧ m.requestName = rd.name
  devices : rd.allocationMode = .all → own.map (·.deviceWithID) = (ctx.allModeDevices rd).drop slotIdx
  fits : ∀ m ∈ own, Fits rd m

/-- The requests of the claim after the one of a position. -/
def SearchContext.laterRequests (ctx : SearchContext) (pos : Position) : List ClaimRequest :=
  ((ctx.claimData[pos.claimIdx]?).elim [] (·.requests)).drop (pos.reqIdx + 1)

/-- The request of a position before one of its alternatives is chosen. -/
def SearchContext.parentAt (ctx : SearchContext) (pos : Position) : Option ClaimRequest :=
  (ctx.claimData[pos.claimIdx]?).bind (·.requests[pos.reqIdx]?)

/-- The allocations that the search makes from a position on. -/
structure ServesFrom (ctx : SearchContext) (Fits : RequestData → DeviceAllocationMetadata → Prop)
    (pos : Position) (own later rest : List DeviceAllocationMetadata) : Prop where
  absent : ctx.parentAt pos = none → own = []
  parent : ∀ req, ctx.parentAt pos = some req → pos.subReqIdx = none → pos.slotIdx = 0 →
    ServesRequest (FillsSlots ctx Fits 0) pos.claimIdx req own
  slots : ∀ rd, ctx.requestAt pos = some rd → FillsSlots ctx Fits pos.slotIdx pos.claimIdx rd own
  later : Parts (ServesRequest (FillsSlots ctx Fits 0) pos.claimIdx) (ctx.laterRequests pos) later
  rest : Parts (ServesClaim (FillsSlots ctx Fits 0)) (ctx.claimData.zipIdx.drop (pos.claimIdx + 1)) rest

section

variable {ctx : SearchContext} {Fits : RequestData → DeviceAllocationMetadata → Prop} {pos : Position}
  {own later rest : List DeviceAllocationMetadata} {rd : RequestData}

/-- At the first slot of a request, the requests from it on are served. -/
theorem ServesFrom.requests (serves : ServesFrom ctx Fits pos own later rest) (first : pos.subReqIdx = none)
    (start : pos.slotIdx = 0) : Parts (ServesRequest (FillsSlots ctx Fits 0) pos.claimIdx)
      (((ctx.claimData[pos.claimIdx]?).elim [] (·.requests)).drop pos.reqIdx) (own ++ later) := by
  have laterParts := serves.later
  rw [SearchContext.laterRequests] at laterParts
  cases claim : ctx.claimData[pos.claimIdx]? with
  | none =>
    rw [claim] at laterParts
    rw [serves.absent (by rw [SearchContext.parentAt, claim]; rfl)]
    simpa using laterParts
  | some cd =>
    rw [claim] at laterParts
    rw [Option.elim_some] at laterParts ⊢
    have parentAt : ctx.parentAt pos = cd.requests[pos.reqIdx]? := by
      rw [SearchContext.parentAt, claim, Option.bind_some]
    cases found : cd.requests[pos.reqIdx]? with
    | none =>
      rw [serves.absent (parentAt.trans found)]
      rw [List.getElem?_eq_none_iff] at found
      rw [List.drop_eq_nil_of_le found]
      rw [List.drop_eq_nil_of_le (Nat.le_succ_of_le found)] at laterParts
      exact laterParts
    | some req =>
      rw [List.drop_eq_getElem?_toList_append, found]
      exact .cons (serves.parent req (parentAt.trans found) first start) laterParts

/-- At the first request of a claim, the claims from it on are served. -/
theorem ServesFrom.claims (serves : ServesFrom ctx Fits pos own later rest) (request : pos.reqIdx = 0)
    (first : pos.subReqIdx = none) (start : pos.slotIdx = 0) :
    Parts (ServesClaim (FillsSlots ctx Fits 0)) (ctx.claimData.zipIdx.drop pos.claimIdx) (own ++ later ++ rest) := by
  have requests := serves.requests first start
  rw [request, List.drop_zero] at requests
  rw [List.drop_eq_getElem?_toList_append, List.getElem?_zipIdx]
  cases claim : ctx.claimData[pos.claimIdx]? with
  | none =>
    rw [claim] at requests
    rw [requests.eq_nil]
    exact serves.rest
  | some cd =>
    rw [claim] at requests
    refine .cons ?_ serves.rest
    rw [ServesClaim, Nat.zero_add]
    exact requests

theorem metadata_of_records (records : Records ctx pos rd dw a consumed b) : b.allocatedDevicesMetadata =
      a.allocatedDevicesMetadata ++ [⟨pos.claimIdx, dw, consumed, rd.name⟩] := by
  obtain ⟨cache, requirements, pools, snapshots, rfl⟩ := exists_of_records records
  exact (record_spec _ pos rd dw consumed).2.2.2

theorem requestAt_of_parentAt (found : ctx.parentAt pos = some req) :
    ctx.requestAt pos = req.resolve pos.subReqIdx := by
  obtain ⟨cd, claim, request⟩ := Option.bind_eq_some_iff.mp found
  rw [SearchContext.requestAt, claim, Option.bind_some, request, Option.bind_some]

theorem parentAt_of_requestAt (found : ctx.requestAt pos = some rd) :
    ∃ req, ctx.parentAt pos = some req ∧ rd ∈ req.alternatives := by
  obtain ⟨cd, claim, found⟩ := Option.bind_eq_some_iff.mp found
  obtain ⟨req, request, resolved⟩ := Option.bind_eq_some_iff.mp found
  refine ⟨req, ?_, ClaimRequest.mem_alternatives_of_resolve resolved⟩
  rw [SearchContext.parentAt, claim, Option.bind_some, request]

/-- A position with a resolved request is served by the slots of that request. -/
theorem ServesFrom.of_slots (request : ctx.requestAt pos = some rd)
    (slots : FillsSlots ctx Fits pos.slotIdx pos.claimIdx rd own)
    (laterParts : Parts (ServesRequest (FillsSlots ctx Fits 0) pos.claimIdx) (ctx.laterRequests pos) later)
    (restParts : Parts (ServesClaim (FillsSlots ctx Fits 0)) (ctx.claimData.zipIdx.drop (pos.claimIdx + 1)) rest) :
    ServesFrom ctx Fits pos own later rest := by
  obtain ⟨req, parentAt, alternative⟩ := parentAt_of_requestAt request
  refine ⟨?_, ?_, ?_, laterParts, restParts⟩
  · intro absent
    rw [parentAt] at absent
    cases absent
  · intro other found _ start
    rw [parentAt] at found
    cases found
    rw [start] at slots
    exact ⟨rd, alternative, slots⟩
  · intro other found
    rw [request] at found
    cases found
    exact slots

theorem ServesFrom.finish (none_ : ctx.claimData[pos.claimIdx]? = none) : ServesFrom ctx Fits pos [] [] [] := by
  have outside := List.getElem?_eq_none_iff.mp none_
  refine ⟨fun _ => rfl, ?_, ?_, ?_, ?_⟩
  · intro req found
    rw [SearchContext.parentAt, none_] at found
    cases found
  · intro rd found
    rw [SearchContext.requestAt, none_] at found
    cases found
  · rw [SearchContext.laterRequests, none_, Option.elim_none, List.drop_nil]
    exact .nil
  · rw [List.drop_eq_nil_of_le (by rw [List.length_zipIdx]; omega)]
    exact .nil

theorem ServesFrom.nextClaim (claim : ctx.claimData[pos.claimIdx]? = some cd)
    (finished : cd.requests[pos.reqIdx]? = none) (ahead : ServesFrom ctx Fits pos.nextClaim own later rest) :
    ServesFrom ctx Fits pos [] [] (own ++ later ++ rest) := by
  have outside := List.getElem?_eq_none_iff.mp finished
  refine ⟨fun _ => rfl, ?_, ?_, ?_, ahead.claims rfl rfl rfl⟩
  · intro req found
    rw [SearchContext.parentAt, claim, Option.bind_some, finished] at found
    cases found
  · intro rd found
    rw [SearchContext.requestAt, claim, Option.bind_some, finished] at found
    cases found
  · rw [SearchContext.laterRequests, claim, Option.elim_some,
      List.drop_eq_nil_of_le (Nat.le_succ_of_le outside)]
    exact .nil

theorem length_allModeDevices (mode : rd.allocationMode = .all) : (ctx.allModeDevices rd).length = numSlots ctx rd := by
  rw [SearchContext.allModeDevices, List.length_append, numSlots, mode]

theorem ServesFrom.nextRequest (fills : Fills ctx pos a rd) (full : numSlots ctx rd ≤ pos.slotIdx)
    (ahead : ServesFrom ctx Fits pos.nextRequest own later rest) : ServesFrom ctx Fits pos [] (own ++ later) rest := by
  have slots : FillsSlots ctx Fits pos.slotIdx pos.claimIdx rd [] := by
    refine ⟨?_, by simp, fun mode => ?_, by simp⟩
    · rw [List.length_nil, Nat.sub_eq_zero_of_le full]
    · rw [List.map_nil, List.drop_eq_nil_of_le (by rw [length_allModeDevices mode]; exact full)]
  exact .of_slots fills.request slots (ahead.requests rfl rfl) ahead.rest

theorem ServesFrom.alternative (claim : ctx.claimData[pos.claimIdx]? = some cd)
    (found : cd.requests[pos.reqIdx]? = some (.firstAvailable name first others))
    (parent : pos.subReqIdx = none) (inRange : subReqIdx ∈ List.range (others.length + 1))
    (ahead : ServesFrom ctx Fits (pos.alternative subReqIdx) own later rest) :
    ServesFrom ctx Fits pos own later rest := by
  have parentAt : ctx.parentAt pos = some (.firstAvailable name first others) := by
    rw [SearchContext.parentAt, claim, Option.bind_some, found]
  have inside : subReqIdx < (first :: others).length := List.mem_range.mp inRange
  have chosen : ctx.requestAt (pos.alternative subReqIdx) = some ((first :: others).get ⟨subReqIdx, inside⟩) := by
    have sameParent : ctx.parentAt (pos.alternative subReqIdx) = some (.firstAvailable name first others) := parentAt
    rw [requestAt_of_parentAt sameParent]
    exact List.getElem?_eq_getElem inside
  refine ⟨?_, ?_, ?_, ahead.later, ahead.rest⟩
  · intro absent
    rw [parentAt] at absent
    cases absent
  · intro req same _ _
    rw [parentAt] at same
    cases same
    exact ⟨_, List.getElem_mem inside, ahead.slots _ chosen⟩
  · intro rd resolved
    rw [requestAt_of_parentAt parentAt, parent] at resolved
    cases resolved

/-- A recorded device fills the slot before those that the rest of the search fills. -/
theorem ServesFrom.record (request : ctx.requestAt pos = some rd) (room : pos.slotIdx < numSlots ctx rd)
    (listed : rd.allocationMode = .all → (ctx.allModeDevices rd)[pos.slotIdx]? = some dw)
    (fits : Fits rd ⟨pos.claimIdx, dw, consumed, rd.name⟩) (ahead : ServesFrom ctx Fits pos.nextSlot own later rest) :
    ServesFrom ctx Fits pos (⟨pos.claimIdx, dw, consumed, rd.name⟩ :: own) later rest := by
  obtain ⟨count, labelled, devices, fitting⟩ := ahead.slots rd request
  refine .of_slots request ⟨?_, ?_, ?_, ?_⟩ ahead.later ahead.rest
  · rw [List.length_cons, count, Position.nextSlot]
    dsimp only
    omega
  · intro m member
    rcases List.mem_cons.mp member with rfl | inOwn
    · exact ⟨rfl, rfl⟩
    · exact labelled m inOwn
  · intro mode
    rw [List.map_cons, devices mode]
    refine Eq.symm (List.drop_eq_getElem?_toList_append.trans ?_)
    rw [listed mode]
    rfl
  · intro m member
    rcases List.mem_cons.mp member with rfl | inOwn
    · exact fits
    · exact fitting m inOwn

/-- The allocations that a successful call adds. -/
def ServesAhead (ctx : SearchContext) (Fits : RequestData → DeviceAllocationMetadata → Prop) :
    SearchCall → Search → Search → Prop
  | .dfs _ pos, a, c => ∃ own later rest, c.allocatedDevicesMetadata =
      a.allocatedDevicesMetadata ++ (own ++ later ++ rest) ∧ ServesFrom ctx Fits pos own later rest
  | .tryDevice _ pos rd dw, a, c => ctx.requestAt pos = some rd → pos.slotIdx < numSlots ctx rd →
      (rd.allocationMode = .all → (ctx.allModeDevices rd)[pos.slotIdx]? = some dw) →
      ∃ own later rest, c.allocatedDevicesMetadata =
        a.allocatedDevicesMetadata ++ (own ++ later ++ rest) ∧ ServesFrom ctx Fits pos own later rest

theorem servesAhead_branch (branches : Branches ctx depth pos a child b)
    (same : b.allocatedDevicesMetadata = a.allocatedDevicesMetadata) (ahead : ServesAhead ctx Fits child b c) :
    ServesAhead ctx Fits (.dfs (depth + 1) pos) a c := by
  rw [ServesAhead, ← same]
  have tried {left : Nat} {rd : RequestData} {dw : DeviceWithID}
      (branches : Branches ctx depth pos a (.tryDevice left pos rd dw) b)
      (ahead : ServesAhead ctx Fits (.tryDevice left pos rd dw) b c) : ∃ own later rest,
        c.allocatedDevicesMetadata = b.allocatedDevicesMetadata ++ (own ++ later ++ rest) ∧
          ServesFrom ctx Fits pos own later rest := by
    obtain ⟨-, -, request, room, ⟨-, listed⟩ | ⟨exact_, -⟩⟩ := branches.source
    · exact ahead request room fun _ => listed
    · refine ahead request room fun all => ?_
      rw [exact_] at all
      cases all
  cases branches with
  | nextClaim claim finished =>
    obtain ⟨own, later, rest, metadata, serves⟩ := ahead
    exact ⟨[], [], own ++ later ++ rest, metadata, .nextClaim claim finished serves⟩
  | alternative claim found parent visits =>
    obtain ⟨own, later, rest, metadata, serves⟩ := ahead
    exact ⟨own, later, rest, metadata, .alternative claim found parent visits.mem serves⟩
  | nextRequest fills full =>
    obtain ⟨own, later, rest, metadata, serves⟩ := ahead
    exact ⟨[], own ++ later, rest, metadata, .nextRequest fills full serves⟩
  | allMode fills mode room listed => exact tried (.allMode fills mode room listed) ahead
  | pool fills mode room inPools complete inPool kept =>
    exact tried (.pool fills mode room inPools complete inPool kept) ahead
  | template fills mode room exhausted visits =>
    exact tried (.template fills mode room exhausted visits) ahead

variable (Fits) in
/-- A search that succeeds from the first claim serves every request of every claim. -/
theorem servesAll_of_dfs (rule : SearchRule ctx)
    (keeps : ∀ {a b}, rule.Failed a b → b.allocatedDevicesMetadata = a.allocatedDevicesMetadata)
    (fits : ∀ {depth pos rd dw a consumed b}, rule.Pre (.tryDevice depth pos rd dw) a →
      Records ctx pos rd dw a consumed b → Fits rd ⟨pos.claimIdx, dw, consumed, rd.name⟩)
    {a c : Search} (pre : rule.Pre (.dfs depth ⟨0, 0, none, 0⟩) a)
    (succeeded : dfs ctx depth ⟨0, 0, none, 0⟩ a = (true, c)) :
    ∃ new, c.allocatedDevicesMetadata = a.allocatedDevicesMetadata ++ new ∧
      ServesAll (FillsSlots ctx Fits 0) ctx.claimData new := by
  have ahead : ServesAhead ctx Fits (.dfs depth ⟨0, 0, none, 0⟩) a c := by
    refine rule.succeeded (motive := ServesAhead ctx Fits) ?_ ?_ ?_ pre succeeded
    · intro depth pos a _ none_
      exact ⟨[], [], [], by simp [Search.polled], .finish none_⟩
    · exact fun _ branches same _ ahead => servesAhead_branch branches (keeps same) ahead
    · intro depth pos rd dw a consumed b c pre records ahead request room listed
      obtain ⟨own, later, rest, metadata, serves⟩ := ahead
      refine ⟨⟨pos.claimIdx, dw, consumed, rd.name⟩ :: own, later, rest, ?_,
        .record request room listed (fits pre records) serves⟩
      rw [metadata, metadata_of_records records]
      simp
  obtain ⟨own, later, rest, metadata, serves⟩ := ahead
  refine ⟨own ++ later ++ rest, metadata, ?_⟩
  have claims := serves.claims rfl rfl rfl
  rwa [List.drop_zero] at claims

end

namespace AllocateCall

variable {call : AllocateCall}

/-- The state after one instance type has been searched, whatever came of it. -/
def afterSearch (call : AllocateCall) (it : InstanceTypeID) (a : Search) : Search :=
  if !countersFeasible (call.context it) then call.restoreState it a.polled
  else match dfs (call.context it) (searchDepth (call.context it)) ⟨0, 0, none, 0⟩ (call.restoreState it a.polled) with
    | (false, failed) => failed
    | (true, finished) => { finished with requirements := finished.requirements.add (contributed finished).values }

/-- The turns of the loop over the instance types: those still to be searched, and the state before them. -/
inductive Turn (call : AllocateCall) : List InstanceTypeID → Search → Prop
  | first : Turn call call.nodeClaim.instanceTypes call.initialSearch
  | next : Turn call (it :: rest) a → call.env.isDone a.polls = false → Turn call rest (call.afterSearch it a)

/-- An instance type is searched from a state. -/
def Starts (call : AllocateCall) (it : InstanceTypeID) (start : Search) : Prop :=
  ∃ rest a, call.Turn (it :: rest) a ∧ call.env.isDone a.polls = false ∧
    countersFeasible (call.context it) = true ∧ start = call.restoreState it a.polled

/-- The search of an instance type that survives has succeeded. -/
theorem exists_start_of_survivor (turn : call.Turn its a)
    (searched : call.searchInstanceTypes its a = .ok (survivors, last)) (survives : (it, finished) ∈ survivors) :
    ∃ start, call.Starts it start ∧
      dfs (call.context it) (searchDepth (call.context it)) ⟨0, 0, none, 0⟩ start = (true, finished) := by
  induction its generalizing a survivors last with
  | nil =>
    cases searched
    cases survives
  | cons first rest ih =>
    rw [searchInstanceTypes] at searched
    split at searched
    · cases searched
    · rename_i running
      rw [Bool.not_eq_true] at running
      have turns := turn.next running
      dsimp only at searched
      split at searched
      · rename_i infeasible
        rw [afterSearch, if_pos infeasible] at turns
        exact ih turns searched survives
      · rename_i feasible
        rw [afterSearch, if_neg feasible] at turns
        split at searched
        · rename_i failed outcome
          rw [show dfs _ _ _ (call.restoreState first a.polled) = _ from outcome] at turns
          exact ih turns searched survives
        · rename_i found outcome
          rw [show dfs _ _ _ (call.restoreState first a.polled) = _ from outcome] at turns
          split at searched
          · cases searched
          · rename_i more last' later
            cases searched
            rcases List.mem_cons.mp survives with here | inMore
            · cases here
              exact ⟨_, ⟨rest, a, turn, running, by simpa using feasible, rfl⟩, outcome⟩
            · exact ih turns later inMore

/-- The allocations of a survivor fill the slots of one alternative for each request. -/
theorem servesAll_of_survivor
    (searched : call.searchInstanceTypes call.nodeClaim.instanceTypes call.initialSearch = .ok (survivors, last))
    (survives : (it, finished) ∈ survivors) :
    ServesAll (FillsSlots (call.context it) (fun _ _ => True) 0) call.claimData
      finished.allocatedDevicesMetadata := by
  obtain ⟨start, ⟨rest, a, -, -, -, rfl⟩, succeeded⟩ := exists_start_of_survivor .first searched survives
  obtain ⟨new, metadata, serves⟩ := servesAll_of_dfs (fun _ _ => True)
    (undoneRule (call.context it) (fun _ _ => True) (fun _ _ => trivial) (fun _ _ _ => trivial))
    (fun same => same.toRestores.metadata) (fun _ _ => trivial) ⟨call.tidied_restoreState it _, trivial⟩ succeeded
  rw [metadata]
  exact serves

end AllocateCall

end Karpenter.DynamicResources
