import Karpenter.DynamicResources.AllMode

/-! The remembered selector results. They are kept under the identifier of a device and the request, for the
whole call, while the devices of a template are local to its instance type. A result is right for the device it
is read for exactly when the selectors judge that device like the one the result was stored for. -/
namespace Karpenter.DynamicResources

open Go (Map)

/-- The key under which the result for a device at a position is remembered. -/
def matchKey (pos : Position) (dw : DeviceWithID) : MatchKey :=
  ⟨dw.id, pos.claimIdx, pos.reqIdx, pos.subReqIdx⟩

section Cache

variable {rd : RequestData} {a b : Search}

theorem matchesRequest_of_stored (found : a.deviceMatchesRequest.lookup (matchKey pos dw) = some verdict) :
    matchesRequest ctx pos rd dw a = (verdict, a) := by
  rw [matchKey] at found
  rw [matchesRequest, found]

theorem matchesRequest_of_absent (absent : a.deviceMatchesRequest.lookup (matchKey pos dw) = none) :
    (matchesRequest ctx pos rd dw a).1 = true ↔ Matches ctx.env rd.selectors dw := by
  rw [matchKey] at absent
  rw [matchesRequest, absent, Matches]
  cases deviceMatchesSelectors ctx.env dw.device dw.id rd.selectors with
  | error err => simp
  | ok verdict => simp

/-- A lookup either leaves the results alone or stores what the selectors say. -/
theorem lookup_matchesRequest
    (found : (matchesRequest ctx pos rd dw a).2.deviceMatchesRequest.lookup key = some verdict) :
    a.deviceMatchesRequest.lookup key = some verdict ∨
      (key = matchKey pos dw ∧ a.deviceMatchesRequest.lookup key = none ∧
        deviceMatchesSelectors ctx.env dw.device dw.id rd.selectors = .ok verdict) := by
  rw [matchesRequest] at found
  split at found
  · exact .inl found
  · rename_i absent
    split at found
    · exact .inl found
    · rename_i stored decided
      rw [Map.lookup_insert_eq] at found
      split at found
      · rename_i same
        cases found
        exact .inr ⟨same, same ▸ absent, decided⟩
      · exact .inl found

theorem deviceMatchesRequest_constrained : (a.constrained ctx pos rd dw).deviceMatchesRequest =
    (matchesRequest ctx pos rd dw a).2.deviceMatchesRequest := rfl

theorem deviceMatchesRequest_backtrack (a : Search) :
    (a.backtrack pos rd dw consumed).deviceMatchesRequest = a.deviceMatchesRequest := by
  rw [Search.backtrack, Search.removeFromConstraints, Search.setConstraints, Search.widen, Search.undo]
  split <;> split <;> rfl

theorem deviceMatchesRequest_of_records (records : Records ctx pos rd dw a consumed b) :
    b.deviceMatchesRequest = (matchesRequest ctx pos rd dw a).2.deviceMatchesRequest := by
  obtain ⟨narrowed, found, rfl⟩ := records.recorded
  have kept : narrowed.deviceMatchesRequest = (a.constrained ctx pos rd dw).deviceMatchesRequest := by
    rw [Search.narrow] at found
    split at found
    · cases found
      rfl
    · split at found
      · cases found
        rfl
      · cases found
  rw [← deviceMatchesRequest_constrained, ← kept, Search.record]
  split <;> rfl

end Cache

namespace AllocateCall

/-- While the call searches an instance type, the selectors of a request are consulted for a device. -/
def Consults (call : AllocateCall) (it : InstanceTypeID) (pos : Position) (rd : RequestData) (dw : DeviceWithID)
    (b : Search) : Prop :=
  ∃ start depth consumed, call.Starts it start ∧
    Reaches (call.context it) (.dfs (searchDepth (call.context it)) ⟨0, 0, none, 0⟩) start
      (.tryDevice depth pos rd dw) b ∧
    Consulted (call.context it) rd dw b consumed

/-- The selectors are evaluated for the device, and the result is remembered. -/
structure Stores (call : AllocateCall) (it : InstanceTypeID) (pos : Position) (rd : RequestData)
    (dw : DeviceWithID) (b : Search) (verdict : Bool) : Prop where
  consults : call.Consults it pos rd dw b
  absent : b.deviceMatchesRequest.lookup (matchKey pos dw) = none
  evaluated : deviceMatchesSelectors call.env dw.device dw.id rd.selectors = .ok verdict

/-- A remembered result is used for the device. -/
structure Reads (call : AllocateCall) (it : InstanceTypeID) (pos : Position) (rd : RequestData)
    (dw : DeviceWithID) (b : Search) (verdict : Bool) : Prop where
  consults : call.Consults it pos rd dw b
  found : b.deviceMatchesRequest.lookup (matchKey pos dw) = some verdict

/-- Every result that is used is what the selectors say about the device it is used for, and so every survivor
has devices that match. -/
structure Memoised (call : AllocateCall) : Prop where
  faithful : ∀ it pos rd dw b, call.Consults it pos rd dw b →
    ((matchesRequest (call.context it) pos rd dw b).1 = true ↔ Matches call.env rd.selectors dw)
  survivors : ∀ survivors last,
    call.searchInstanceTypes call.nodeClaim.instanceTypes call.initialSearch = .ok (survivors, last) →
      ∀ it finished, (it, finished) ∈ survivors →
        ServesAll (FillsSlots (call.context it) (fun rd m => Matches call.env rd.selectors m.deviceWithID) 0)
          call.claimData finished.allocatedDevicesMetadata

/-- A device for which a result is read is judged like the one for which it was stored. -/
def SharesVerdicts (call : AllocateCall) : Prop :=
  ∀ it pos rd dw b it' pos' rd' dw' b' verdict, call.Stores it pos rd dw b verdict →
    call.Reads it' pos' rd' dw' b' verdict → matchKey pos dw = matchKey pos' dw' →
      (Matches call.env rd.selectors dw ↔ Matches call.env rd'.selectors dw')

/-- Every remembered result was stored for some device. -/
def Provenance (call : AllocateCall) (results : Map MatchKey Bool) : Prop :=
  ∀ key verdict, results.lookup key = some verdict →
    ∃ it pos rd dw b, call.Stores it pos rd dw b verdict ∧ matchKey pos dw = key

section

variable {call : AllocateCall} {it : InstanceTypeID} {start : Search}

theorem Provenance.matchesRequest (known : call.Provenance b.deviceMatchesRequest)
    (consults : call.Consults it pos rd dw b) :
    call.Provenance (matchesRequest (call.context it) pos rd dw b).2.deviceMatchesRequest := by
  intro key verdict found
  rcases lookup_matchesRequest found with before | ⟨rfl, absent, evaluated⟩
  · exact known key verdict before
  · exact ⟨it, pos, rd, dw, b, ⟨consults, absent, evaluated⟩, rfl⟩

/-- A search only adds results that it has stored for a device. -/
def provenanceRule (starts : call.Starts it start) : SearchRule (call.context it) where
  Pre := fun made b => Reaches (call.context it) (.dfs (searchDepth (call.context it)) ⟨0, 0, none, 0⟩) start made b ∧
    call.Provenance b.deviceMatchesRequest
  Failed := fun b c => call.Provenance b.deviceMatchesRequest → call.Provenance c.deviceMatchesRequest
  refl := fun _ known => known
  trans := fun first second known => second (first known)
  polled := fun _ known => known
  rejected := by
    intro depth pos rd dw b c pre rejects known
    have stored {consumed : Option ConsumedCapacity} (consulted : Consulted (call.context it) rd dw b consumed) :=
      known.matchesRequest ⟨start, depth, consumed, starts, pre.1, consulted⟩
    cases rejects with
    | unavailable => exact known
    | counters => exact known
    | selectors consulted => exact stored consulted
    | constraints consulted => exact stored consulted
    | topology consulted => exact stored consulted
  backtracked := by
    intro depth pos rd dw b consumed c d pre records _ same known
    rw [deviceMatchesRequest_backtrack]
    apply same
    rw [deviceMatchesRequest_of_records records]
    exact known.matchesRequest ⟨start, depth, consumed, starts, pre.1, records.toConsulted⟩
  recorded := by
    intro depth pos rd dw b consumed c pre records
    refine ⟨pre.1.tail (.recurse records), ?_⟩
    rw [deviceMatchesRequest_of_records records]
    exact pre.2.matchesRequest ⟨start, depth, consumed, starts, pre.1, records.toConsulted⟩
  branch := fun pre running branches same => ⟨pre.1.tail (.branch running branches), same pre.2⟩

theorem provenance_of_succeeded (starts : call.Starts it start) (known : call.Provenance start.deviceMatchesRequest)
    (outcome : dfs (call.context it) (searchDepth (call.context it)) ⟨0, 0, none, 0⟩ start = (true, finished)) :
    call.Provenance finished.deviceMatchesRequest := by
  have pre : (provenanceRule starts).Pre (.dfs (searchDepth (call.context it)) ⟨0, 0, none, 0⟩) start :=
    ⟨.refl, known⟩
  refine (provenanceRule starts).succeeded (motive := fun _ _ c => call.Provenance c.deviceMatchesRequest)
    ?_ ?_ ?_ pre outcome
  · exact fun reached _ => reached.2
  · exact fun _ _ _ _ later => later
  · exact fun _ _ later => later

theorem provenance_of_turn (turn : call.Turn its a) : call.Provenance a.deviceMatchesRequest := by
  induction turn with
  | first =>
    intro key verdict found
    cases found
  | @next it rest a turn running known =>
    rw [afterSearch]
    split
    · exact known
    · rename_i feasible
      have starts : call.Starts it (call.restoreState it a.polled) :=
        ⟨rest, a, turn, running, by simpa using feasible, rfl⟩
      split
      · rename_i failed outcome
        have pre : (provenanceRule starts).Pre (.dfs (searchDepth (call.context it)) ⟨0, 0, none, 0⟩) _ :=
          ⟨.refl, known⟩
        exact (provenanceRule starts).failed pre outcome known
      · rename_i finished outcome
        exact (provenance_of_succeeded starts known outcome :)

theorem Consults.provenance (consults : call.Consults it pos rd dw b) : call.Provenance b.deviceMatchesRequest := by
  obtain ⟨start, depth, consumed, starts, reaches, -⟩ := consults
  have known : call.Provenance start.deviceMatchesRequest := by
    obtain ⟨rest, a, turn, -, -, rfl⟩ := starts
    exact (provenance_of_turn turn :)
  have pre : (provenanceRule starts).Pre (.dfs (searchDepth (call.context it)) ⟨0, 0, none, 0⟩) start :=
    ⟨.refl, known⟩
  exact ((provenanceRule starts).pre_of_reaches pre reaches).2

theorem Stores.matches_iff (stores : call.Stores it pos rd dw b verdict) :
    Matches call.env rd.selectors dw ↔ verdict = true := by
  rw [Matches, stores.evaluated, Except.ok.injEq]

theorem Reads.matchesRequest (reads : call.Reads it pos rd dw b verdict) :
    (matchesRequest (call.context it) pos rd dw b).1 = verdict := by
  rw [matchesRequest_of_stored reads.found]

theorem SharesVerdicts.faithful (shares : call.SharesVerdicts) (consults : call.Consults it pos rd dw b) :
    (DynamicResources.matchesRequest (call.context it) pos rd dw b).1 = true ↔ Matches call.env rd.selectors dw := by
  cases found : b.deviceMatchesRequest.lookup (matchKey pos dw) with
  | none => exact matchesRequest_of_absent found
  | some verdict =>
    obtain ⟨it', pos', rd', dw', b', stores, sameKey⟩ := consults.provenance _ _ found
    have reads : call.Reads it pos rd dw b verdict := ⟨consults, found⟩
    rw [reads.matchesRequest, ← stores.matches_iff]
    exact shares _ _ _ _ _ _ _ _ _ _ _ stores reads sameKey

/-- Devices that match are all that a survivor is given, once every consultation is right. -/
theorem servesMatching_of_survivor (faithful : ∀ it pos rd dw b, call.Consults it pos rd dw b →
      ((matchesRequest (call.context it) pos rd dw b).1 = true ↔ Matches call.env rd.selectors dw))
    (searched : call.searchInstanceTypes call.nodeClaim.instanceTypes call.initialSearch = .ok (survivors, last))
    (survives : (it, finished) ∈ survivors) :
    ServesAll (FillsSlots (call.context it) (fun rd m => Matches call.env rd.selectors m.deviceWithID) 0)
      call.claimData finished.allocatedDevicesMetadata := by
  obtain ⟨start, starts, succeeded⟩ := exists_start_of_survivor .first searched survives
  have plain : Tidied start ∧ True := by
    obtain ⟨rest, a, -, -, -, rfl⟩ := starts
    exact ⟨call.tidied_restoreState it _, trivial⟩
  let rule := undoneRule (call.context it) (fun _ _ => True) (fun _ _ => trivial) (fun _ _ _ => trivial)
  obtain ⟨new, metadata, serves⟩ := servesAll_of_dfs (fun rd m => Matches call.env rd.selectors m.deviceWithID)
    (rule.reached (.dfs (searchDepth (call.context it)) ⟨0, 0, none, 0⟩) start)
    (fun same => same.toRestores.metadata)
    (fun pre records => (faithful _ _ _ _ _ ⟨start, _, _, starts, pre.2, records.toConsulted⟩).mp records.matched)
    ⟨plain, .refl⟩ succeeded
  have empty : start.allocatedDevicesMetadata = [] := by
    obtain ⟨rest, a, -, -, -, rfl⟩ := starts
    rfl
  rw [metadata, empty, List.nil_append]
  exact serves

theorem Consults.request (consults : call.Consults it pos rd dw b) : (call.context it).requestAt pos = some rd := by
  obtain ⟨start, depth, consumed, -, reaches, -⟩ := consults
  cases reaches with
  | tail _ makes =>
    cases makes with
    | branch _ branches =>
      obtain ⟨-, rfl, request, -⟩ := branches.source
      exact request

/-- It is enough that an ID names one device throughout the call. -/
theorem sharesVerdicts_of_devices (same : ∀ it pos rd dw b it' pos' rd' dw' b', call.Consults it pos rd dw b →
    call.Consults it' pos' rd' dw' b' → dw.id = dw'.id → dw.device = dw'.device) : call.SharesVerdicts := by
  intro it pos rd dw b it' pos' rd' dw' b' verdict stores reads key
  obtain ⟨id, claimIdx, reqIdx, subReqIdx⟩ := MatchKey.mk.inj key
  have request := stores.consults.request
  rw [SearchContext.requestAt, claimIdx, reqIdx, subReqIdx] at request
  obtain rfl := Option.some.inj (request.symm.trans reads.consults.request)
  rw [Matches, Matches, same _ _ _ _ _ _ _ _ _ _ stores.consults reads.consults id, id]

/-- The remembered results stand for the selectors exactly when no device reads the result of another one that
the selectors judge differently. -/
theorem memoised_iff (call : AllocateCall) : call.Memoised ↔ call.SharesVerdicts := by
  constructor
  · intro memoised it pos rd dw b it' pos' rd' dw' b' verdict stores reads _
    rw [stores.matches_iff, ← memoised.faithful _ _ _ _ _ reads.consults, reads.matchesRequest]
  · intro shares
    refine ⟨fun _ _ _ _ _ consults => shares.faithful consults, fun _ _ searched _ _ survives => ?_⟩
    exact servesMatching_of_survivor (fun _ _ _ _ _ consults => shares.faithful consults) searched survives

end

end AllocateCall

/-! Two instance types whose devices have one name. The claim asks for memory, which only the first device has. -/

def reusedEnvironment : Environment where
  wellKnownLabels := ∅
  getDeviceClass := fun name => .ok { name }
  compile := fun _ => none
  deviceMatches := fun _ device => .ok (device.capacity.lookup "memory").isSome
  deadline := none
  arrange := fun pools => pools
  arrange_perm := fun pools => List.Perm.refl pools

def reusedNodeClaim : NodeClaim where
  id := "node"
  instanceTypes := ["large", "small"]
  resourceSlices := Map.ofList [
    ("large", [{ template := {
      driver := "gpu", pool := "local~0"
      devices := [{ name := "gpu-0", capacity := Map.ofList [("memory", { value := 80 })] }] } }]),
    ("small", [{ template := { driver := "gpu", pool := "local~0", devices := [{ name := "gpu-0" }] } }])]

def reusedClaim : ResourceClaim where
  namespaceName := "default"
  name := "memory"
  requests := [{ name := "gpu", exactly := some { deviceClassName := "gpu", selectors := [⟨some "memory"⟩] } }]

/-- The second instance type survives on the result that was stored for the device of the first. -/
theorem small_survives_without_memory : ∃ call survivors last finished,
    Allocator.prepare (newAllocator ∅ [] {} ∅ ∅) reusedEnvironment reusedNodeClaim [reusedClaim] =
      .ok (.search call) ∧
    call.searchInstanceTypes call.nodeClaim.instanceTypes call.initialSearch = .ok (survivors, last) ∧
    ("small", finished) ∈ survivors ∧ ¬ call.Memoised := by
  refine ⟨_, _, _, _, rfl, rfl, List.mem_cons_of_mem _ List.mem_cons_self, fun memoised => ?_⟩
  have serves := memoised.survivors _ _ rfl _ _ (List.mem_cons_of_mem _ List.mem_cons_self)
  obtain ⟨claim, inClaims, own, claimServed, inOwn⟩ := serves.exists_part List.mem_cons_self
  obtain ⟨req, inRequests, part, ⟨rd, alternative, slots⟩, inPart⟩ := Parts.exists_part claimServed inOwn
  have fits := slots.fits _ inPart
  cases List.mem_singleton.mp inClaims
  cases List.mem_singleton.mp inRequests
  cases List.mem_singleton.mp alternative
  have evaluated : (Except.ok false : Except String Bool) = .ok true := fits
  cases evaluated

end Karpenter.DynamicResources
