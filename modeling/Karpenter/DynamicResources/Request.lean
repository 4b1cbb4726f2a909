import Karpenter.DynamicResources.Constraint
import Karpenter.DynamicResources.Capacity
import Karpenter.Go.Errors

/-! Parsing and validating the requests of a claim. What lies outside the repository is a parameter: the
device classes the API server returns, the CEL expressions of the selectors and the deadline of the
call. A request of a claim is either one request or a non-empty list of prioritised alternatives, so the
parent of alternatives never carries fields of its own. -/
namespace Karpenter.DynamicResources

open Go (Map)
open CloudProvider (Device DeviceAttribute DeviceCapacity)

structure CelDevice where
  driver : String
  attributes : Map String DeviceAttribute
  capacity : Map String DeviceCapacity
  allowMultipleAllocations : Bool

/-- What one call of the allocator reads from outside: the well-known labels, the API server, the CEL
library, the number of times the call may poll its context before the deadline passes, and the order in
which Go ranges over the gathered pools. -/
structure Environment where
  wellKnownLabels : Finset String
  getDeviceClass : String → Except String DeviceClass
  compile : String → Option String
  deviceMatches : String → CelDevice → Except String Bool
  deadline : Option Nat
  arrange : List Pool → List Pool
  arrange_perm : ∀ pools, (arrange pools).Perm pools

def deviceMatchesSelectors (env : Environment) (device : Device) (deviceID : DeviceID) :
    List DeviceSelector → Except String Bool
  | [] => .ok true
  | s :: rest =>
    match s.cel with
    | none => deviceMatchesSelectors env device deviceID rest
    | some expression =>
      match env.compile expression with
      | some err => .error ("CEL expression " ++ expression.quote ++ " failed to compile: " ++ err)
      | none =>
        match env.deviceMatches expression
            ⟨deviceID.driver, device.attributes, device.capacity, device.allowMultipleAllocations⟩ with
        | .error err => .error ("CEL expression " ++ expression.quote ++ " evaluation failed: " ++ err)
        | .ok false => .ok false
        | .ok true => deviceMatchesSelectors env device deviceID rest

structure RequestData where
  name : RequestName
  numDevices : Nat
  allocationMode : DeviceAllocationMode
  allDevices : List DeviceWithID := []
  allTemplateDevicesByIT : Map InstanceTypeID (List DeviceWithID) := ∅
  selectors : List DeviceSelector
  capacityRequests : ConsumedCapacity := ∅

inductive ClaimRequest where
  | exactly (request : RequestData)
  | firstAvailable (name : RequestName) (first : RequestData) (others : List RequestData)

/-- The requests that can be satisfied in place of this one. -/
def ClaimRequest.alternatives : ClaimRequest → List RequestData
  | .exactly request => [request]
  | .firstAvailable _ first others => first :: others

def ClaimRequest.mapAlternatives (change : RequestData → RequestData) : ClaimRequest → ClaimRequest
  | .exactly request => .exactly (change request)
  | .firstAvailable name first others => .firstAvailable name (change first) (others.map change)

/-- The smallest value over the alternatives. -/
def ClaimRequest.minOver (measure : RequestData → Nat) : ClaimRequest → Nat
  | .exactly request => measure request
  | .firstAvailable _ first others => others.foldl (fun least sub => min least (measure sub)) (measure first)

structure ClaimData where
  id : ResourceClaimID
  requests : List ClaimRequest
  constraints : List MatchAttributeConstraint

/-- The most devices one claim may be allocated. -/
def allocationResultsMaxSize : Nat := 32

def collectAllModeFromDevices (env : Environment) (selectors : List DeviceSelector) :
    List DeviceWithID → Except String (List DeviceWithID)
  | [] => .ok []
  | d :: rest =>
    match deviceMatchesSelectors env d.device d.id selectors with
    | .error err => .error err
    | .ok isMatching =>
      match collectAllModeFromDevices env selectors rest with
      | .error err => .error err
      | .ok matched => .ok (if isMatching then d :: matched else matched)

def collectAllModePoolDevices (env : Environment) (selectors : List DeviceSelector) :
    List Pool → Except String (List DeviceWithID)
  | [] => .ok []
  | pool :: rest =>
    if pool.invalid then
      .error ("pool " ++ pool.key.driver ++ "/" ++ pool.key.pool ++ " is invalid (duplicate device names)")
    else if pool.incomplete then
      .error ("pool " ++ pool.key.driver ++ "/" ++ pool.key.pool ++ " is incomplete (missing slices)")
    else
      match collectAllModeFromDevices env selectors pool.devices with
      | .error err => .error err
      | .ok matched =>
        match collectAllModePoolDevices env selectors rest with
        | .error err => .error err
        | .ok devices => .ok (matched ++ devices)

/-- An instance type stays listed if it offers a match or if the pools do. -/
def collectAllModeTemplates (env : Environment) (selectors : List DeviceSelector)
    (inCluster : List DeviceWithID) :
    List (Sigma fun _ : InstanceTypeID => List DeviceWithID) →
      Except String (Map InstanceTypeID (List DeviceWithID))
  | [] => .ok ∅
  | ⟨itID, templateDevices⟩ :: rest =>
    match collectAllModeFromDevices env selectors templateDevices with
    | .error err => .error err
    | .ok matched =>
      match collectAllModeTemplates env selectors inCluster rest with
      | .error err => .error err
      | .ok byIT =>
        .ok (if !matched.isEmpty || !inCluster.isEmpty then byIT.insert itID matched else byIT)

/-- The combined selectors of the class and of the request, all of them CEL and compilable. -/
def combineSelectors (env : Environment) (context : String) (deviceClass : DeviceClass)
    (selectors : List DeviceSelector) : Except String (List DeviceSelector) :=
  if deviceClass.selectors.any (·.cel.isNone) then
    .error (context ++ ": DeviceClass " ++ deviceClass.name.quote ++
      " has unsupported selector type (only CEL is supported)")
  else if selectors.any (·.cel.isNone) then
    .error (context ++ ": unsupported selector type (only CEL is supported)")
  else
    let combined := deviceClass.selectors ++ selectors
    match combined.findSome? fun s => s.cel.bind fun expression =>
        (env.compile expression).map fun err => (expression, err) with
    | some (expression, err) =>
      .error (context ++ ": CEL expression " ++ expression.quote ++ " failed to compile: " ++ err)
    | none => .ok combined

def buildRequestData (env : Environment) (claimName requestName : String) (req : ExactDeviceRequest)
    (pools : List Pool) (templateDevicesByIT : Map InstanceTypeID (List DeviceWithID)) :
    Except String RequestData :=
  let context := "claim " ++ claimName.quote ++ " request " ++ requestName.quote
  match env.getDeviceClass req.deviceClassName with
  | .error err =>
    .error (context ++ ": DeviceClass " ++ req.deviceClassName.quote ++ " not found: " ++ err)
  | .ok deviceClass =>
    match combineSelectors env context deviceClass req.selectors with
    | .error err => .error err
    | .ok selectors =>
      let rd : RequestData := {
        name := ⟨requestName, ""⟩
        numDevices := req.count
        allocationMode := .exactCount
        selectors
        capacityRequests := req.capacity.getD ∅ }
      match req.allocationMode with
      | .exactCount => .ok rd
      | .all =>
        match collectAllModePoolDevices env selectors pools with
        | .error err => .error (context ++ ": " ++ err)
        | .ok inCluster =>
          match collectAllModeTemplates env selectors inCluster templateDevicesByIT.entries with
          | .error err => .error (context ++ ": " ++ err)
          | .ok byIT => .ok { rd with
              allocationMode := .all, numDevices := 0, allDevices := inCluster
              allTemplateDevicesByIT := byIT }

def validateExactRequest (env : Environment) (claimName requestName : String) (req : ExactDeviceRequest)
    (pools : List Pool) (templateDevicesByIT : Map InstanceTypeID (List DeviceWithID)) :
    Except String ClaimRequest :=
  (buildRequestData env claimName requestName req pools templateDevicesByIT).map .exactly

def validateSubRequest (env : Environment) (claimName parentName : String) (sub : DeviceSubRequest)
    (pools : List Pool) (templateDevicesByIT : Map InstanceTypeID (List DeviceWithID)) :
    Except String RequestData :=
  (buildRequestData env claimName sub.name sub.toExactDeviceRequest pools templateDevicesByIT).map
    fun rd => { rd with name := ⟨parentName, rd.name.parent⟩ }

def validateFirstAvailableRequest (env : Environment) (claimName parentName : String)
    (first : DeviceSubRequest) (others : List DeviceSubRequest) (pools : List Pool)
    (templateDevicesByIT : Map InstanceTypeID (List DeviceWithID)) : Except String ClaimRequest :=
  match validateSubRequest env claimName parentName first pools templateDevicesByIT with
  | .error err => .error err
  | .ok rd =>
    (others.mapM fun sub => validateSubRequest env claimName parentName sub pools templateDevicesByIT).map
      fun rest => .firstAvailable ⟨parentName, ""⟩ rd rest

def validateRequest (env : Environment) (claimName : String) (pools : List Pool)
    (templateDevicesByIT : Map InstanceTypeID (List DeviceWithID)) (req : DeviceRequest) :
    Except String ClaimRequest :=
  match req.exactly, req.firstAvailable with
  | some exact, _ => validateExactRequest env claimName req.name exact pools templateDevicesByIT
  | none, first :: others =>
    validateFirstAvailableRequest env claimName req.name first others pools templateDevicesByIT
  | none, [] => .error ("claim " ++ claimName.quote ++ " request " ++ req.name.quote ++
      ": only Exactly and FirstAvailable requests are supported")

def validateConstraint (claimName : String) (c : DeviceConstraint) :
    Except String MatchAttributeConstraint :=
  match c.matchAttribute, c.distinctAttribute with
  | some attributeName, _ => .ok { requestNames := c.requests.toFinset, attributeName }
  | none, some _ =>
    .error ("claim " ++ claimName.quote ++ ": DistinctAttribute constraints not done yet")
  | none, none => .error ("claim " ++ claimName.quote ++ ": unsupported constraint type")

/-- Devices the claim needs on every instance type; of alternatives the cheapest counts. -/
def baseTotalDevices (requests : List ClaimRequest) : Nat :=
  (requests.map (·.minOver fun rd => rd.numDevices + rd.allDevices.length)).sum

def templateCount (requests : List ClaimRequest) (itID : InstanceTypeID) : Nat :=
  (requests.map (·.minOver fun rd => ((rd.allTemplateDevicesByIT.lookup itID).getD []).length)).sum

/-- The instance types any all-devices request lists template devices for. -/
def allTemplateITs (requests : List ClaimRequest) : List InstanceTypeID :=
  (requests.flatMap fun req => req.alternatives.flatMap fun rd => rd.allTemplateDevicesByIT.keys).dedup

def prunedITs (requests : List ClaimRequest) : List InstanceTypeID :=
  (allTemplateITs requests).filter fun itID =>
    allocationResultsMaxSize < baseTotalDevices requests + templateCount requests itID

def pruneRequest (pruned : List InstanceTypeID) (req : ClaimRequest) : ClaimRequest :=
  req.mapAlternatives fun rd =>
    { rd with allTemplateDevicesByIT := rd.allTemplateDevicesByIT.deleteAll pruned }

def validateClaimRequest (env : Environment) (claim : ResourceClaim) (pools : List Pool)
    (templateDevicesByIT : Map InstanceTypeID (List DeviceWithID)) : Except String ClaimData :=
  match claim.constraints.mapM (validateConstraint claim.name) with
  | .error err => .error err
  | .ok constraints =>
    match claim.requests.mapM (validateRequest env claim.name pools templateDevicesByIT) with
    | .error err => .error err
    | .ok requests =>
      if allocationResultsMaxSize < baseTotalDevices requests then
        .error ("claim " ++ claim.name.quote ++ " requests " ++ toString (baseTotalDevices requests) ++
          " total devices, exceeding maximum of " ++ toString allocationResultsMaxSize)
      else if !(allTemplateITs requests).isEmpty && prunedITs requests = allTemplateITs requests then
        .error ("claim " ++ claim.name.quote ++ ": all instance types pruned, no instance type can " ++
          "satisfy this claim without exceeding the maximum of " ++ toString allocationResultsMaxSize ++
          " devices")
      else
        .ok { id := resourceClaimID claim, constraints
              requests := requests.map (pruneRequest (prunedITs requests)) }

/-- The device meets all selectors. -/
def Matches (env : Environment) (selectors : List DeviceSelector) (d : DeviceWithID) : Prop :=
  deviceMatchesSelectors env d.device d.id selectors = .ok true

theorem mem_collectAllModeFromDevices (done : collectAllModeFromDevices env selectors devices = .ok matched) :
    d ∈ matched ↔ d ∈ devices ∧ Matches env selectors d := by
  induction devices generalizing matched with
  | nil =>
    cases done
    simp
  | cons first rest ih =>
    rw [collectAllModeFromDevices] at done
    split at done
    · cases done
    · rename_i isMatching decided
      split at done
      · cases done
      · rename_i tail later
        cases done
        have head : d = first ∧ Matches env selectors d ↔ d = first ∧ isMatching = true :=
          and_congr_right fun same => by simp [same, Matches, decided]
        rw [List.mem_cons, or_and_right, ← ih later, head]
        cases isMatching <;> simp

theorem mem_collectAllModePoolDevices (done : collectAllModePoolDevices env selectors pools = .ok devices) :
    d ∈ devices ↔ d ∈ offered pools ∧ Matches env selectors d := by
  induction pools generalizing devices with
  | nil =>
    cases done
    simp [offered]
  | cons pool rest ih =>
    rw [collectAllModePoolDevices] at done
    split at done
    · cases done
    · split at done
      · cases done
      · split at done
        · cases done
        · rename_i matched here
          split at done
          · cases done
          · rename_i tail later
            cases done
            rw [List.mem_append, mem_collectAllModeFromDevices here, ih later, offered, offered,
              List.flatMap_cons, List.mem_append, or_and_right]

theorem lookup_collectAllModeTemplates (distinct : entries.NodupKeys)
    (done : collectAllModeTemplates env selectors inCluster entries = .ok byIT) (it : InstanceTypeID) :
    d ∈ (byIT.lookup it).getD [] ↔ d ∈ (entries.dlookup it).getD [] ∧ Matches env selectors d := by
  induction entries generalizing byIT with
  | nil =>
    cases done
    simp
  | cons entry rest ih =>
    obtain ⟨itID, templateDevices⟩ := entry
    rw [List.nodupKeys_cons] at distinct
    rw [collectAllModeTemplates] at done
    split at done
    · cases done
    · rename_i matched here
      split at done
      · cases done
      · rename_i tail later
        cases done
        have others := ih distinct.2 later
        by_cases same : it = itID
        · subst same
          have absent : rest.dlookup it = none := List.dlookup_eq_none.mpr distinct.1
          rw [List.dlookup_cons_eq]
          rw [absent] at others
          have listed := mem_collectAllModeFromDevices (d := d) here
          split
          · rw [Map.lookup_insert_eq, if_pos rfl]
            exact listed
          · rename_i nothing
            have empty : matched = [] := by
              cases matched with
              | nil => rfl
              | cons => simp at nothing
            rw [empty] at listed
            exact others.trans (by simpa using listed)
        · rw [List.dlookup_cons_ne _ _ same]
          split
          · rw [Map.lookup_insert_eq, if_neg same]
            exact others
          · exact others

/-- An All-mode request lists every matching device, and no other request lists template devices. -/
structure RequestData.ListsAll (rd : RequestData) (env : Environment) (pools : List Pool)
    (templateDevicesByIT : Map InstanceTypeID (List DeviceWithID)) : Prop where
  inCluster : rd.allocationMode = .all → ∀ d, d ∈ rd.allDevices ↔ d ∈ offered pools ∧ Matches env rd.selectors d
  templates : rd.allocationMode = .all → ∀ it d, d ∈ (rd.allTemplateDevicesByIT.lookup it).getD [] ↔
    d ∈ (templateDevicesByIT.lookup it).getD [] ∧ Matches env rd.selectors d
  none_ : rd.allocationMode = .exactCount → ∀ it, rd.allTemplateDevicesByIT.lookup it = none
  unlisted : rd.allocationMode = .exactCount → rd.allDevices = []

/-- The instance types that parsing a claim prunes. -/
def ResourceClaim.pruned (claim : ResourceClaim) (env : Environment) (pools : List Pool)
    (templateDevicesByIT : Map InstanceTypeID (List DeviceWithID)) : List InstanceTypeID :=
  match claim.requests.mapM (validateRequest env claim.name pools templateDevicesByIT) with
  | .error _ => []
  | .ok requests => prunedITs requests

theorem buildRequestData_listsAll
    (done : buildRequestData env claimName requestName req pools templateDevicesByIT = .ok rd) :
    rd.ListsAll env pools templateDevicesByIT := by
  simp only [buildRequestData] at done
  split at done
  · cases done
  · split at done
    · cases done
    · split at done
      · cases done
        exact ⟨nofun, nofun, fun _ _ => rfl, fun _ => rfl⟩
      · split at done
        · cases done
        · rename_i inCluster collected
          split at done
          · cases done
          · rename_i byIT templated
            cases done
            refine ⟨fun _ d => mem_collectAllModePoolDevices collected, fun _ it d => ?_, nofun, nofun⟩
            exact lookup_collectAllModeTemplates templateDevicesByIT.nodupKeys templated it

theorem validateRequest_listsAll (done : validateRequest env claimName pools templateDevicesByIT req = .ok parsed) :
    ∀ rd ∈ parsed.alternatives, rd.ListsAll env pools templateDevicesByIT := by
  intro rd member
  have sub {sub : DeviceSubRequest} {rd : RequestData}
      (done : validateSubRequest env claimName req.name sub pools templateDevicesByIT = .ok rd) :
      rd.ListsAll env pools templateDevicesByIT := by
    obtain ⟨built, found, rfl⟩ := Go.map_eq_ok done
    obtain ⟨inCluster, templates, none_, unlisted⟩ := buildRequestData_listsAll found
    exact ⟨inCluster, templates, none_, unlisted⟩
  rw [validateRequest] at done
  split at done
  · obtain ⟨built, found, rfl⟩ := Go.map_eq_ok done
    rcases List.mem_singleton.mp member with rfl
    exact buildRequestData_listsAll found
  · rw [validateFirstAvailableRequest] at done
    split at done
    · cases done
    · rename_i head headFound
      obtain ⟨rest, restFound, rfl⟩ := Go.map_eq_ok done
      rcases List.mem_cons.mp member with rfl | inRest
      · exact sub headFound
      · obtain ⟨other, -, found⟩ := (Go.mapM_ok restFound).2 _ inRest
        exact sub found
  · cases done

theorem validateClaimRequest_spec (done : validateClaimRequest env claim pools templateDevicesByIT = .ok data) :
    data.id = resourceClaimID claim ∧ ∃ requests : List ClaimRequest,
      claim.pruned env pools templateDevicesByIT = prunedITs requests ∧
      data.requests = requests.map (pruneRequest (prunedITs requests)) ∧
      baseTotalDevices requests ≤ allocationResultsMaxSize ∧
      ∀ req ∈ requests, ∀ rd ∈ req.alternatives, rd.ListsAll env pools templateDevicesByIT := by
  rw [validateClaimRequest] at done
  split at done
  · cases done
  · split at done
    · cases done
    · rename_i requests parsed
      split at done
      · cases done
      · rename_i within
        split at done
        · cases done
        · cases done
          refine ⟨rfl, requests, by rw [ResourceClaim.pruned, parsed], rfl, Nat.le_of_not_lt within, ?_⟩
          intro req member
          obtain ⟨raw, -, found⟩ := (Go.mapM_ok parsed).2 _ member
          exact validateRequest_listsAll found

theorem ClaimRequest.mem_alternatives_mapAlternatives {req : ClaimRequest} :
    rd ∈ (req.mapAlternatives change).alternatives ↔ ∃ original ∈ req.alternatives, change original = rd := by
  cases req with
  | exactly request => simp [mapAlternatives, alternatives, eq_comm]
  | firstAvailable name first others => simp [mapAlternatives, alternatives, eq_comm]

/-- What a request lists is offered by the pools or comes with an instance type, after the pruning as well. -/
theorem listed_of_validateClaimRequest (done : validateClaimRequest env claim pools templateDevicesByIT = .ok data)
    {req : ClaimRequest} (inRequests : req ∈ data.requests) (alternative : rd ∈ req.alternatives) :
    rd.allDevices ⊆ offered pools ∧
      ∀ it, (rd.allTemplateDevicesByIT.lookup it).getD [] ⊆ (templateDevicesByIT.lookup it).getD [] := by
  obtain ⟨-, requests, -, same, -, listsAll⟩ := validateClaimRequest_spec done
  rw [same] at inRequests
  obtain ⟨parsed, inParsed, rfl⟩ := List.mem_map.mp inRequests
  obtain ⟨original, inOriginal, rfl⟩ := ClaimRequest.mem_alternatives_mapAlternatives.mp alternative
  have lists := listsAll parsed inParsed original inOriginal
  cases mode : original.allocationMode with
  | exactCount =>
    rw [lists.unlisted mode]
    refine ⟨List.nil_subset _, fun it => ?_⟩
    rw [Map.lookup_deleteAll, lists.none_ mode, ite_self]
    exact List.nil_subset _
  | all =>
    refine ⟨fun d member => ((lists.inCluster mode d).mp member).1, fun it d member => ?_⟩
    rw [Map.lookup_deleteAll] at member
    split at member
    · cases member
    · exact ((lists.templates mode it d).mp member).1

end Karpenter.DynamicResources
