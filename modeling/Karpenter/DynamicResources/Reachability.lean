import Karpenter.DynamicResources.SharedClaims
import Karpenter.DynamicResources.Survivors

/-! Which nodes the devices of a shared claim can be reached from. A record remembers that template devices
were used, and the topology of the other devices through the requirements of their slices. Slices pinned to a
node by its name contribute nothing to it, so nothing keeps a claim with such a device from being used
elsewhere; the theorem at the end says which devices the record does vouch for. -/
namespace Karpenter.DynamicResources

open Go (Map)
open Scheduling (Requirement Requirements)
open Scheduling.Requirements (get?_add_values get?_empty get?_newRequirements_meets)

/-- The slice lists the device. -/
def ResourceSlice.Lists (s : ResourceSlice) (id : DeviceID) : Prop :=
  ∃ device ∈ s.devices, id = { driver := s.driver, pool := s.pool, device := device.name }

/-- Pools made up of the slices of the cluster. -/
def Sliced (slices : List ResourceSlice) (pools : List Pool) : Prop :=
  ∀ pool ∈ pools, ∀ s ∈ pool.slices, s ∈ slices ∧ pool.key = ⟨s.driver, s.pool⟩

theorem Sliced.filter (sliced : Sliced slices pools) :
    Sliced slices (filterPools wellKnown pools requirements nodeName superposed) := by
  intro narrowed member s inSlices
  obtain ⟨pool, inPools, kept⟩ := List.mem_filterMap.mp member
  simp only [filterPool] at kept
  split at kept
  · cases kept
  · cases kept
    exact sliced pool inPools s (List.mem_of_mem_filter inSlices)

theorem Sliced.gather : Sliced slices (gatherPools wellKnown slices requirements nodeName superposed) := by
  intro pool member s inSlices
  obtain ⟨entry, inEntries, built⟩ := List.mem_filterMap.mp member
  have found := Map.mem_entries_iff.mp inEntries
  rw [PoolBuilder.build] at built
  split at built
  · cases built
    cases inSlices
  · split at built
    · cases built
    · cases built
      obtain ⟨e, kept, rfl⟩ := List.mem_map.mp inSlices
      exact slice_of_gatherBuilders found (List.mem_of_mem_filter kept)

theorem Sliced.source (sliced : Sliced slices pools) (member : d ∈ offered pools) :
    ∃ s ∈ slices, s.Lists d.id ∧ d.topologyRequirements = sliceTopologyRequirements s := by
  obtain ⟨pool, inPools, inPool⟩ := List.mem_flatMap.mp member
  rw [pool.flattened] at inPool
  obtain ⟨s, inSlices, inSlice⟩ := List.mem_flatMap.mp inPool
  obtain ⟨listed, key⟩ := sliced pool inPools s inSlices
  obtain ⟨device, inDevices, rfl⟩ := List.mem_map.mp inSlice
  refine ⟨s, listed, ⟨device, inDevices, ?_⟩, rfl⟩
  rw [key]
  rfl

/-- Every key of the second map is kept, within its values, and stays concrete where it was. -/
def Covers (r reqs : Requirements) : Prop :=
  ∀ key requirement, reqs.get? key = some requirement → ∃ q, r.get? key = some q ∧
    (∀ value, q.has value = true → requirement.has value = true) ∧
    (requirement.complement = false → q.complement = false)

section Covering

variable {r middle reqs added : Requirements}

theorem Covers.trans (first : Covers r middle) (second : Covers middle reqs) : Covers r reqs := by
  intro key requirement found
  obtain ⟨p, here, within, concrete⟩ := second key requirement found
  obtain ⟨q, there, narrower, concrete'⟩ := first key p here
  exact ⟨q, there, fun value inside => within value (narrower value inside), fun kind => concrete' (concrete kind)⟩

theorem covers_add (r added : Requirements) : Covers (r.add added.values) r := by
  intro key requirement found
  rw [get?_add_values]
  cases incoming : added.get? key with
  | none => exact ⟨requirement, found, fun _ inside => inside, fun kind => kind⟩
  | some other =>
    rw [found]
    exact ⟨_, rfl, fun value inside => ((Requirement.has_intersection _ _ value).mp inside).2,
      fun concrete => Requirement.concrete_intersection (.inr concrete)⟩

theorem covers_added (r added : Requirements) : Covers (r.add added.values) added := by
  intro key requirement found
  rw [get?_add_values, found]
  cases existing : r.get? key with
  | none => exact ⟨_, rfl, fun _ inside => inside, fun kind => kind⟩
  | some other =>
    exact ⟨_, rfl, fun value inside => ((Requirement.has_intersection _ _ value).mp inside).1,
      fun concrete => Requirement.concrete_intersection (.inl concrete)⟩

theorem narrows_add_of (first : r.Narrows reqs) (second : r.Narrows added) : r.Narrows (reqs.add added.values) := by
  intro key requirement found
  rw [get?_add_values] at found
  cases incoming : added.get? key with
  | none =>
    rw [incoming] at found
    exact first key requirement found
  | some other =>
    rw [incoming] at found
    obtain ⟨q, here, within⟩ := second key other incoming
    refine ⟨q, here, fun value inside => ?_⟩
    cases existing : reqs.get? key with
    | none =>
      rw [existing] at found
      cases found
      exact within value inside
    | some base =>
      rw [existing] at found
      cases found
      obtain ⟨q', here', within'⟩ := first key base existing
      rw [here] at here'
      cases here'
      exact (Requirement.has_intersection _ _ value).mpr ⟨within value inside, within' value inside⟩

end Covering

/-- What the metadata of a claim keeps of the uses it was built from. -/
structure Summarizes (uses : List (InstanceTypeID × DeviceAllocationMetadata))
    (claim : ResourceClaimAllocationMetadata) : Prop where
  listed : ∀ it results, claim.devices.lookup it = some results → ∀ r ∈ results,
    ∃ da, (it, da) ∈ uses ∧ r.deviceID = da.deviceWithID.id
  template : ∀ use ∈ uses, use.2.deviceWithID.id.template = true → claim.usedTemplateDevices = true
  contributes : ∀ use ∈ uses, ∀ reqs, use.2.deviceWithID.topologyRequirements = some reqs →
    ∃ c, claim.contributedRequirements.lookup use.1 = some c ∧ Covers c reqs
  explained : ∀ r : Requirements, (∀ use ∈ uses, Carries r use.2.deviceWithID) →
    ∀ it c, claim.contributedRequirements.lookup it = some c → r.Narrows c

theorem Summarizes.empty (nodeClaimID : NodeClaimID) : Summarizes [] { nodeClaimID } where
  listed := by
    intro it results found
    cases found
  template := by simp
  contributes := by simp
  explained := by
    intro r _ it c found
    cases found

theorem Summarizes.contribute (summary : Summarizes uses claim) (it : InstanceTypeID) (da : DeviceAllocationMetadata) :
    Summarizes (uses ++ [(it, da)]) (AllocateCall.contribute it claim da) where
  listed := by
    intro other results found r member
    rw [AllocateCall.contribute] at found
    rw [Map.lookup_insert_eq] at found
    split at found
    · rename_i same
      cases same
      cases found
      rcases List.mem_append.mp member with before | now
      · obtain ⟨old, stored, inOld⟩ := Map.exists_of_mem_getD_lookup before
        obtain ⟨source, inUses, same⟩ := summary.listed it old stored r inOld
        exact ⟨source, List.mem_append_left _ inUses, same⟩
      · rw [List.mem_singleton.mp now]
        exact ⟨da, List.mem_append_right _ (List.mem_singleton_self _), rfl⟩
    · obtain ⟨source, inUses, same⟩ := summary.listed other results found r member
      exact ⟨source, List.mem_append_left _ inUses, same⟩
  template := by
    intro use member isTemplate
    rw [AllocateCall.contribute, Bool.or_eq_true]
    rcases List.mem_append.mp member with before | now
    · exact .inl (summary.template use before isTemplate)
    · rw [List.mem_singleton.mp now] at isTemplate
      exact .inr isTemplate
  contributes := by
    intro use member reqs topology
    rw [AllocateCall.contribute]
    rcases List.mem_append.mp member with before | now
    · obtain ⟨c, found, covers⟩ := summary.contributes use before reqs topology
      cases own : da.deviceWithID.topologyRequirements with
      | none => exact ⟨c, found, covers⟩
      | some added =>
        rw [Map.lookup_insert_eq]
        split
        · rename_i same
          rw [← same, found]
          exact ⟨_, rfl, (covers_add c added).trans covers⟩
        · exact ⟨c, found, covers⟩
    · rw [List.mem_singleton.mp now] at topology ⊢
      rw [topology]
      rw [Map.lookup_insert_eq, if_pos rfl]
      exact ⟨_, rfl, covers_added _ reqs⟩
  explained := by
    intro r carried other c found
    have before := summary.explained r fun use member => carried use (List.mem_append_left _ member)
    rw [AllocateCall.contribute] at found
    cases own : da.deviceWithID.topologyRequirements with
    | none =>
      rw [own] at found
      exact before other c found
    | some added =>
      rw [own] at found
      rw [Map.lookup_insert_eq] at found
      split at found
      · rename_i same
        cases found
        apply narrows_add_of
        · cases stored : claim.contributedRequirements.lookup it with
          | none =>
            intro key requirement absent
            rw [Option.getD_none, get?_empty] at absent
            cases absent
          | some old => exact before it old stored
        · exact (carried (it, da) (List.mem_append_right _ (List.mem_singleton_self _))).narrows added own
      · exact before other c found

theorem Summarizes.foldl (summary : Summarizes before claim) : Summarizes (before ++ uses)
      (uses.foldl (fun claim use => AllocateCall.contribute use.1 claim use.2) claim) := by
  induction uses generalizing before claim with
  | nil =>
    rw [List.append_nil]
    exact summary
  | cons use rest ih =>
    rw [List.append_cons]
    exact ih (summary.contribute use.1 use.2)

/-- A record over the slices of the cluster. The requirements of its instance types all leave room for one
choice of values, and its total requirements are their meet. -/
structure Record (slices : List ResourceSlice) (room : Requirements) (m : ResourceClaimAllocationMetadata) :
    Prop where
  template : ∀ it results, m.devices.lookup it = some results → ∀ r ∈ results,
    r.deviceID.template = true → m.usedTemplateDevices = true
  source : ∀ it results, m.devices.lookup it = some results → ∀ r ∈ results, r.deviceID.template = false →
    ∃ s ∈ slices, s.Lists r.deviceID ∧ ∀ reqs, sliceTopologyRequirements s = some reqs →
      (∃ c, m.contributedRequirements.lookup it = some c ∧ Covers c reqs) ∧
      ∀ key requirement, reqs.get? key = some requirement → Definite requirement → Fixed room key
  explained : ∀ it c, m.contributedRequirements.lookup it = some c → room.Narrows c
  total : ∀ it c, m.contributedRequirements.lookup it = some c → Covers m.totalRequirements c
  least : ∀ key t, m.totalRequirements.get? key = some t → ∀ value,
    (∀ it c, m.contributedRequirements.lookup it = some c → ∀ q, c.get? key = some q → q.has value = true) →
      t.has value = true

/-- Merging the requirements of all instance types gives their meet. -/
theorem totals (contributed : Map InstanceTypeID Requirements) :
    let total := Requirements.newRequirements (contributed.entries.flatMap fun entry => entry.2.values)
    (∀ it c, contributed.lookup it = some c → Covers total c) ∧
    ∀ key t, total.get? key = some t → ∀ value,
      (∀ it c, contributed.lookup it = some c → ∀ q, c.get? key = some q → q.has value = true) →
        t.has value = true := by
  intro total
  constructor
  · intro it c found key q here
    have keyed := Requirements.get?_keyed c here
    have member : q ∈ contributed.entries.flatMap fun entry => entry.2.values :=
      List.mem_flatMap.mpr ⟨⟨it, c⟩, Map.mem_entries_iff.mpr found,
        (Requirements.mem_values c q).mpr (by rw [keyed, here])⟩
    cases merged : total.get? key with
    | none => exact absurd keyed ((Requirements.get?_newRequirements_eq_none ..).mp merged q member)
    | some t =>
      have meets := get?_newRequirements_meets _ key merged
      have part := List.mem_filter (p := fun r => decide (r.key = key)) |>.mpr ⟨member, decide_eq_true keyed⟩
      refine ⟨t, rfl, fun value inside => (meets.has_iff value).mp inside q part, fun concrete => ?_⟩
      rw [Bool.eq_false_iff]
      intro complement
      rw [meets.complements complement q part] at concrete
      cases concrete
  · intro key t merged value each
    rw [(get?_newRequirements_meets _ key merged).has_iff]
    intro part member
    obtain ⟨listed, same⟩ := List.mem_filter.mp member
    obtain ⟨⟨it, c⟩, inEntries, inValues⟩ := List.mem_flatMap.mp listed
    apply each it c (Map.mem_entries_iff.mp inEntries) part
    rw [← of_decide_eq_true same]
    exact (Requirements.mem_values c part).mp inValues

/-- A record limits a key to the values that a device of it asks for. -/
theorem Record.fixed (record : Record slices room m) (contributed : m.contributedRequirements.lookup it = some c)
    (covers : Covers c reqs) (found : reqs.get? key = some requirement) (definite : Definite requirement)
    (fixed : Fixed room key) : ∃ t, m.totalRequirements.get? key = some t ∧ Definite t ∧
      ∀ value, t.has value = true → requirement.has value = true := by
  obtain ⟨t, here, within, concrete⟩ := (record.total it c contributed).trans covers key requirement found
  refine ⟨t, here, ⟨concrete definite.1, ?_⟩, within⟩
  obtain ⟨q, inRoom, -, value, inside⟩ := fixed
  refine ⟨value, record.least key t here value ?_⟩
  intro other c' listed p inC
  obtain ⟨q', same, wider⟩ := record.explained other c' listed key p inC
  rw [inRoom] at same
  cases same
  exact wider value inside

theorem Record.release (record : Record slices room m) (instanceTypeIDs : List InstanceTypeID) :
    Record slices room (Allocator.releaseFromClaim instanceTypeIDs m) := by
  have kept {α : Type} {it : InstanceTypeID} {value : α} {values : Map InstanceTypeID α}
      (found : (values.deleteAll instanceTypeIDs).lookup it = some value) :
      it ∉ instanceTypeIDs ∧ values.lookup it = some value := by
    rwa [Map.lookup_deleteAll, Option.ite_none_left_eq_some] at found
  have recomputed := totals (m.contributedRequirements.deleteAll instanceTypeIDs)
  rw [Allocator.releaseFromClaim]
  refine ⟨?_, ?_, ?_, ?_, ?_⟩
  · exact fun it results found => record.template it results (kept found).2
  · intro it results found r member published
    obtain ⟨s, listed, lists, topology⟩ := record.source it results (kept found).2 r member published
    refine ⟨s, listed, lists, fun reqs given => ?_⟩
    obtain ⟨⟨c, here, covers⟩, fixed⟩ := topology reqs given
    refine ⟨⟨c, ?_, covers⟩, fixed⟩
    rw [Map.lookup_deleteAll, if_neg (kept found).1, here]
  · exact fun it c found => record.explained it c (kept found).2
  · intro it c found
    split
    · exact recomputed.1 it c found
    · exact record.total it c (kept found).2
  · intro key t here value each
    split at here
    · exact recomputed.2 key t here value each
    · rename_i unneeded
      apply record.least key t here value
      intro it c found q inC
      by_cases gone : it ∈ instanceTypeIDs
      · -- A released instance type that contributed nothing leaves the total as it was.
        exfalso
        apply unneeded
        rw [List.any_eq_true]
        refine ⟨it, gone, ?_⟩
        rw [found]
        have key : key ∈ c.keys := (Requirements.mem_keys c key).mpr (by rw [inC]; rfl)
        simpa using List.ne_nil_of_mem key
      · refine each it c ?_ q inC
        rw [Map.lookup_deleteAll, if_neg gone, found]

/-- Every list of pools kept between calls is made up of the slices of the cluster. -/
def SlicesCached (a : Allocator) : Prop :=
  ∀ nodeClaimID pools, a.poolCache.lookup nodeClaimID = some pools → Sliced a.inClusterSlices pools

section Calls

variable {a : Allocator} {nodeClaim : NodeClaim}

theorem sliced_poolsFor (cached : SlicesCached a) (env : Environment) (nodeClaim : NodeClaim)
    (requirements : Requirements) : Sliced a.inClusterSlices (a.poolsFor env nodeClaim requirements) := by
  rw [Allocator.poolsFor]
  split
  · rename_i pools found
    exact (cached _ pools found).filter
  · intro pool member
    exact Sliced.gather pool ((env.arrange_perm _).mem_iff.mp member)

/-- What a call that gets to its search has settled. -/
theorem prepare_search_spec (cached : SlicesCached a) (prepared : a.prepare env nodeClaim claims = .ok (.search call)) :
    call.nodeClaim = nodeClaim ∧ call.env = env ∧ Sliced a.inClusterSlices call.initialPools ∧
    (∀ it, (call.context it).Draws call.initialPools) ∧ ∃ unallocated, unallocated ≠ [] ∧
      a.classifyClaims env nodeClaim claims = .ok (unallocated, call.requirements) := by
  obtain ⟨first, others, requirements, claimData, classified, validated, rfl⟩ := Allocator.exists_of_prepare prepared
  refine ⟨rfl, rfl, sliced_poolsFor cached env nodeClaim requirements, ?_, _, List.cons_ne_nil _ _, classified⟩
  intro it
  refine ⟨?_, ?_⟩
  · intro d member
    obtain ⟨devices, found, inDevices⟩ := Map.exists_of_mem_getD_lookup member
    exact .inl (template_of_templateDevices found d inDevices)
  · intro cd inData req inRequests rd alternative d member
    obtain ⟨claim, -, parsed⟩ := (Go.mapM_ok validated).2 _ inData
    obtain ⟨offers, templates⟩ := listed_of_validateClaimRequest (Go.mapError_ok.mp parsed) inRequests alternative
    rcases List.mem_append.mp member with inCluster | inTemplates
    · exact .inr (offers inCluster)
    · obtain ⟨devices, found, inDevices⟩ := Map.exists_of_mem_getD_lookup (templates _ inTemplates)
      exact .inl (template_of_templateDevices found d inDevices)

/-- The devices of the survivors come from the pools or the templates, and the requirements carry them. -/
theorem devices_of_survivors {call : AllocateCall} (draws : ∀ it, (call.context it).Draws call.initialPools)
    (searched : call.searchInstanceTypes call.nodeClaim.instanceTypes call.initialSearch = .ok (survivors, last)) :
    ∀ survivor ∈ survivors, ∀ m ∈ survivor.2.allocatedDevicesMetadata,
      Candidate call.initialPools m.deviceWithID ∧ Carries last.requirements m.deviceWithID := by
  intro survivor member m listed
  have offers := AllocateCall.offers_of_survivor searched member m listed
  exact ⟨(draws survivor.1).candidate offers,
    (AllocateCall.carries_of_searchInstanceTypes searched).2 survivor member m listed⟩

/-- A finished call records, for each of its claims, what its searches found. -/
theorem record_of_call {call : AllocateCall} {survivors : List (InstanceTypeID × Search)} {last : Search}
    {slices : List ResourceSlice} (sliced : Sliced slices call.initialPools)
    (carried : ∀ survivor ∈ survivors, ∀ m ∈ survivor.2.allocatedDevicesMetadata,
      Candidate call.initialPools m.deviceWithID ∧ Carries last.requirements m.deviceWithID) (claimIdx : Nat) :
    Record slices last.requirements (call.claimMetadata survivors claimIdx) := by
  simp only [AllocateCall.claimMetadata]
  generalize uses_eq : survivors.flatMap (fun survivor =>
    (survivor.2.allocatedDevicesMetadata.filter (·.claimIndex = claimIdx)).map fun da => (survivor.1, da)) = uses
  have inUses : ∀ use ∈ uses, Candidate call.initialPools use.2.deviceWithID ∧
      Carries last.requirements use.2.deviceWithID := by
    intro use member
    rw [← uses_eq] at member
    obtain ⟨survivor, inSurvivors, listed⟩ := List.mem_flatMap.mp member
    obtain ⟨da, kept, rfl⟩ := List.mem_map.mp listed
    exact carried survivor inSurvivors da (List.mem_of_mem_filter kept)
  have summary : Summarizes uses _ := (Summarizes.empty call.nodeClaim.id).foldl
  have merged := totals (uses.foldl (fun claim use => AllocateCall.contribute use.1 claim use.2)
    { nodeClaimID := call.nodeClaim.id }).contributedRequirements
  refine ⟨?_, ?_, ?_, merged.1, merged.2⟩
  · intro it results found r member template
    obtain ⟨da, listed, same⟩ := summary.listed it results found r member
    exact summary.template _ listed (same ▸ template)
  · intro it results found r member published
    obtain ⟨da, listed, same⟩ := summary.listed it results found r member
    obtain ⟨candidate, carries⟩ := inUses _ listed
    rw [same] at published ⊢
    obtain ⟨s, inSlices, lists, topology⟩ := sliced.source (candidate.resolve_left (by simp [published]))
    refine ⟨s, inSlices, lists, fun reqs given => ?_⟩
    rw [← topology] at given
    exact ⟨summary.contributes _ listed reqs given, carries.fixed reqs given⟩
  · exact summary.explained last.requirements fun use member => (inUses use member).2

end Calls

structure Loop.Keeps (slices : List ResourceSlice) (l : Loop) : Prop where
  published : l.allocator.inClusterSlices = slices
  cached : SlicesCached l.allocator
  records : ∀ id m, l.allocator.claimAllocationMetadata.lookup id = some m → ∃ room, Record slices room m

theorem Loop.Keeps.step (keeps : l.Keeps slices) (step : Loop.Step l next) : next.Keeps slices := by
  cases step with
  | @commit env nodeClaim claims result alloc after allocated handle committed =>
    obtain ⟨call, last, prepared, searched, rfl⟩ := handle_of_allocate allocated handle
    obtain ⟨-, -, sliced, draws, -⟩ := prepare_search_spec keeps.cached prepared
    have carried := devices_of_survivors draws searched
    rw [Allocator.commit] at committed
    obtain ⟨tracker, -, rest⟩ := Option.bind_eq_some_iff.mp committed
    split at rest
    · cases rest
    · cases rest
      refine ⟨keeps.published, ?_, ?_⟩
      · intro nodeClaimID pools found
        rw [Map.lookup_insert_eq] at found
        split at found
        · cases found
          exact sliced.filter
        · exact keeps.cached nodeClaimID pools found
      · intro id m found
        rw [Map.lookup_mergeAll] at found
        cases own : (call.allocation (l.allocator.survivors env nodeClaim claims) last).claimMetadata.lookup id with
        | none =>
          rw [own] at found
          exact keeps.records id m found
        | some fresh =>
          rw [own] at found
          cases found
          obtain ⟨⟨cd, claimIdx⟩, -, same⟩ := List.mem_map.mp (Map.mem_of_lookup_ofList own)
          cases same
          exact ⟨last.requirements, record_of_call (keeps.published ▸ sliced) carried claimIdx⟩
  | @release nodeClaimID instanceTypes after done =>
    rw [Allocator.releaseInstanceType] at done
    obtain ⟨tracker, -, rfl⟩ := Option.map_eq_some_iff.mp done
    refine ⟨keeps.published, keeps.cached, ?_⟩
    intro id m found
    rw [Map.lookup_mapValues] at found
    obtain ⟨before, stored, rfl⟩ := Option.map_eq_some_iff.mp found
    obtain ⟨room, record⟩ := keeps.records id before stored
    split
    · exact ⟨room, record⟩
    · exact ⟨room, record.release instanceTypes⟩

theorem Loop.Keeps.reaches (keeps : l.Keeps slices) (run : Relation.ReflTransGen Loop.Step l next) : next.Keeps slices := by
  induction run with
  | refl => exact keeps
  | tail _ step ih => exact ih.step step

theorem Loop.Keeps.start (wellKnownLabels : Finset String) (slices : List ResourceSlice)
    (allocatedState : AllocatedDeviceState) (attributeBindings : AttributeBindings)
    (deletingPodUIDs : Finset String) : Loop.Keeps slices
      { allocator := newAllocator wellKnownLabels slices allocatedState attributeBindings deletingPodUIDs } where
  published := rfl
  cached := by
    intro nodeClaimID pools found
    cases found
  records := by
    intro id m found
    cases found

section Classification

variable {a : Allocator} {nodeClaim : NodeClaim}

/-- What the record of a claim has to do with the requirements that a call goes on with. -/
def Respects (nodeClaim : NodeClaim) (m : ResourceClaimAllocationMetadata) (requirements : Requirements) : Prop :=
  (m.usedTemplateDevices = true → nodeClaim.id = m.nodeClaimID) ∧
  (m.usedTemplateDevices = false → requirements.Narrows m.totalRequirements ∧
    ∀ key t, m.totalRequirements.get? key = some t → Definite t → Fixed requirements key)

theorem Respects.tighten (respects : Respects nodeClaim m original) (tightens : Tightens r original) :
    Respects nodeClaim m r :=
  ⟨respects.1, fun published => ⟨tightens.narrows.trans (respects.2 published).1,
    fun key t found definite => tightens.fixed key ((respects.2 published).2 key t found definite)⟩⟩

theorem classifyClaim_spec (stepped : a.classifyClaim env nodeClaim result claim = .ok after) :
    Tightens after.2 result.2 ∧ ∀ m, claim.allocation = none →
      a.claimAllocationMetadata.lookup (resourceClaimID claim) = some m → Respects nodeClaim m after.2 := by
  simp only [Allocator.classifyClaim] at stepped
  cases allocation : claim.allocation with
  | some allocated =>
    rw [allocation] at stepped
    refine ⟨?_, fun _ impossible => by cases impossible⟩
    dsimp only at stepped
    split at stepped
    · cases stepped
      exact .refl _
    · split at stepped
      · cases stepped
        exact .refl _
      · split at stepped
        · rename_i compatible
          cases stepped
          exact tightens_add compatible
        · cases stepped
  | none =>
    rw [allocation] at stepped
    cases found : a.claimAllocationMetadata.lookup (resourceClaimID claim) with
    | none =>
      rw [found] at stepped
      cases stepped
      exact ⟨.refl _, fun _ _ impossible => by cases impossible⟩
    | some m =>
      rw [found] at stepped
      suffices both : Tightens after.2 result.2 ∧ Respects nodeClaim m after.2 from
        ⟨both.1, fun m' _ same => Option.some.inj same ▸ both.2⟩
      dsimp only at stepped
      split at stepped
      · rename_i template
        split at stepped
        · cases stepped
        · rename_i same
          cases stepped
          refine ⟨.refl _, fun _ => (not_not.mp same).symm, fun published => ?_⟩
          rw [template] at published
          cases published
      · rename_i published
        split at stepped
        · rename_i empty
          cases stepped
          have undefined {key : String} {t : Requirement} (here : m.totalRequirements.get? key = some t) : False := by
            have member := (Requirements.mem_keys m.totalRequirements key).mpr (by rw [here]; rfl)
            rw [List.isEmpty_iff.mp empty] at member
            cases member
          exact ⟨.refl _, fun template => absurd template published,
            fun _ => ⟨fun key t here => (undefined here).elim, fun key t here => (undefined here).elim⟩⟩
        · split at stepped
          · rename_i compatible
            cases stepped
            exact ⟨tightens_add compatible, fun template => absurd template published,
              fun _ => ⟨Requirements.add_narrows_values _ _, fun key t here definite => fixed_add compatible here definite⟩⟩
          · cases stepped

theorem classifyClaims_spec (done : a.classifyClaims env nodeClaim claims = .ok (unallocated, requirements)) :
    Tightens requirements nodeClaim.requirements ∧ ∀ claim ∈ claims, ∀ m, claim.allocation = none →
      a.claimAllocationMetadata.lookup (resourceClaimID claim) = some m → Respects nodeClaim m requirements := by
  refine Go.foldlM_ok (fun result rest after => Tightens after.2 result.2 ∧ ∀ claim ∈ rest, ∀ m,
    claim.allocation = none → a.claimAllocationMetadata.lookup (resourceClaimID claim) = some m →
      Respects nodeClaim m after.2) ?_ ?_ done
  · exact fun result => ⟨.refl _, by simp⟩
  · rintro result claim rest next after stepped ⟨further, others⟩
    obtain ⟨tightens, own⟩ := classifyClaim_spec stepped
    refine ⟨further.trans tightens, ?_⟩
    intro other member m unallocated recorded
    rcases List.mem_cons.mp member with rfl | later
    · exact (own m unallocated recorded).tighten further
    · exact others other later m unallocated recorded

end Classification

/-- The requirements a node claim ends up with once the claims are placed on it. -/
def NodeClaim.tightened (nodeClaim : NodeClaim) (result : AllocationResult) : Requirements :=
  nodeClaim.requirements.add result.requirements.values

/-- What an accepted call has settled on lies within what the node claim ends up with, and respects the records
of the claims that were answered from them. -/
theorem allocate_spec {l : Loop} (keeps : l.Keeps slices)
    (allocated : l.allocator.allocate env nodeClaim claims = .ok result) (given : claims ≠ []) :
    ∃ settled : Requirements, settled.Narrows (nodeClaim.tightened result) ∧
      (∀ claim ∈ claims, ∀ m, claim.allocation = none →
        l.allocator.claimAllocationMetadata.lookup (resourceClaimID claim) = some m →
          Respects nodeClaim m settled) ∧
      (l.allocator.searched env nodeClaim claims = [] → ∀ key, (settled.get? key).isSome = true →
        ((nodeClaim.tightened result).get? key).isSome = true) := by
  rw [Allocator.allocate] at allocated
  split at allocated
  · cases allocated
  · rename_i settledResult prepared
    cases allocated
    rw [Allocator.prepare, if_neg (by simpa using given)] at prepared
    split at prepared
    · cases prepared
    · rename_i requirements classified
      cases prepared
      obtain ⟨tightens, respects⟩ := classifyClaims_spec classified
      refine ⟨requirements, narrows_add_of tightens.narrows (.refl _), respects, ?_⟩
      intro _ key defined
      obtain ⟨q, found⟩ := Option.isSome_iff_exists.mp defined
      rw [NodeClaim.tightened, get?_add_values, found]
      rfl
    · dsimp only at prepared
      split at prepared
      · cases prepared
      · cases prepared
  · rename_i call prepared
    obtain ⟨sameClaim, -, sliced, draws, unallocated, nonempty, classified⟩ :=
      prepare_search_spec keeps.cached prepared
    obtain ⟨tightens, respects⟩ := classifyClaims_spec classified
    rw [AllocateCall.allocate] at allocated
    split at allocated
    · cases allocated
    · cases allocated
    · rename_i survivor others last searched
      cases allocated
      have further := (AllocateCall.carries_of_searchInstanceTypes searched).1
      have carried := devices_of_survivors draws searched
      have whole : Tightens last.requirements nodeClaim.requirements := further.trans tightens
      refine ⟨last.requirements, ?_, ?_, ?_⟩
      · apply narrows_add_of whole.narrows
        apply narrows_newRequirements
        intro part member
        obtain ⟨⟨cd, claimIdx⟩, -, inClaim⟩ := List.mem_flatMap.mp member
        obtain ⟨⟨it, c⟩, inEntries, inValues⟩ := List.mem_flatMap.mp inClaim
        have record : Record l.allocator.inClusterSlices last.requirements _ := record_of_call sliced carried claimIdx
        exact record.explained it c (Map.mem_entries_iff.mp inEntries) part.key part
          ((Requirements.mem_values c part).mp inValues)
      · intro claim member m unallocated recorded
        exact (respects claim member m unallocated recorded).tighten further
      · intro none
        rw [Allocator.searched, classified] at none
        exact absurd none nonempty

theorem get?_oneTerm (one : ns.nodeSelectorTerms = [term])
    (topology : nodeSelectorsToRequirements (some ns) = some reqs) (key : String) :
    reqs.get? key = (Requirements.newNodeSelectorRequirements term.matchExpressions).get? key := by
  rw [nodeSelectorsToRequirements, Option.map_some, one] at topology
  cases topology
  rw [List.foldl_cons, List.foldl_nil, get?_add_values, get?_empty]
  cases (Requirements.newNodeSelectorRequirements term.matchExpressions).get? key <;> rfl

/-- The slice is for all nodes, for the node by its name, or for nodes like the node claim. -/
def ResourceSlice.AccessibleFrom (s : ResourceSlice) (wellKnown : Finset String) (nodeClaim : NodeClaim)
    (requirements : Requirements) : Prop :=
  s.allNodes = true ∨ (s.nodeName ≠ "" ∧ s.nodeName = nodeClaim.nodeName) ∨
    ∃ ns, s.nodeSelector = some ns ∧ nodeSelectorsMatch wellKnown ns requirements nodeClaim.superposed = true

/-- A template device is there on its own node claim only, a published one where its slice says. -/
def AccessibleFrom (slices : List ResourceSlice) (wellKnown : Finset String) (nodeClaim : NodeClaim)
    (requirements : Requirements) (source : NodeClaimID) (id : DeviceID) : Prop :=
  (id.template = true ∧ nodeClaim.id = source) ∨
    ∃ s ∈ slices, s.Lists id ∧ s.AccessibleFrom wellKnown nodeClaim requirements

/-- The devices a record vouches for when it answers for a claim: those of templates, those of slices for all
nodes, and, unless template devices are used as well, those of slices whose selector asks for some values of
each of its labels. If the call also searches for other claims, the node claim has to define these labels or
may leave them open. -/
def Loop.Vouches (l : Loop) (env : Environment) (nodeClaim : NodeClaim) (claims : List ResourceClaim)
    (claim : ResourceClaim) (m : ResourceClaimAllocationMetadata) (id : DeviceID) : Prop :=
  claim.allocation = none ∧ (id.template = true ∨ ∀ s ∈ l.allocator.inClusterSlices, s.Lists id →
    s.allNodes = true ∨ (m.usedTemplateDevices = false ∧ ∃ reqs, sliceTopologyRequirements s = some reqs ∧
      ∀ key requirement, reqs.get? key = some requirement → Definite requirement ∧
        (l.allocator.searched env nodeClaim claims = [] ∨ nodeClaim.requirements.has key = true ∨
          key ∈ compatibilityOptions env.wellKnownLabels nodeClaim.superposed)))

/-- A device that the record vouches for is accessible. -/
theorem accessible_of_vouches {l : Loop} (keeps : l.Keeps slices)
    (oneTerm : ∀ s ∈ slices, ∀ ns, s.nodeSelector = some ns → ns.nodeSelectorTerms.length = 1)
    (allocated : l.allocator.allocate env nodeClaim claims = .ok result) (listed : claim ∈ claims)
    (recorded : l.allocator.claimAllocationMetadata.lookup (resourceClaimID claim) = some m)
    (found : m.devices.lookup it = some results) (member : r ∈ results)
    (vouches : l.Vouches env nodeClaim claims claim m r.deviceID) :
    AccessibleFrom slices env.wellKnownLabels nodeClaim (nodeClaim.tightened result) m.nodeClaimID r.deviceID := by
  obtain ⟨unallocated, kind⟩ := vouches
  obtain ⟨room, record⟩ := keeps.records _ m recorded
  obtain ⟨settled, narrows, respects, defined⟩ := allocate_spec keeps allocated (List.ne_nil_of_mem listed)
  have respected := respects claim listed m unallocated recorded
  cases template : r.deviceID.template with
  | true => exact .inl ⟨template, respected.1 (record.template it results found r member template)⟩
  | false =>
    obtain ⟨s, inSlices, lists, topology⟩ := record.source it results found r member template
    refine .inr ⟨s, inSlices, lists, ?_⟩
    rcases kind.resolve_left (by simp [template]) s (keeps.published ▸ inSlices) lists with
      allNodes | ⟨published, reqs, given, keys⟩
    · exact .inl allNodes
    · obtain ⟨⟨c, contributed, covers⟩, fixed⟩ := topology reqs given
      rw [sliceTopologyRequirements] at given
      split at given
      · cases given
      · cases selector : s.nodeSelector with
        | none =>
          rw [selector] at given
          cases given
        | some ns =>
          rw [selector] at given
          obtain ⟨term, one⟩ := List.length_eq_one_iff.mp (oneTerm s inSlices ns selector)
          refine .inr (.inr ⟨ns, selector, ?_⟩)
          rw [nodeSelectorsMatch, one, List.any_cons, Bool.or_eq_true, Requirements.isCompatible_iff_admitsKey]
          left
          intro key requirement wanted
          rw [← get?_oneTerm one given] at wanted
          obtain ⟨definite, usable⟩ := keys key requirement wanted
          obtain ⟨t, inTotal, definiteTotal, within⟩ := record.fixed contributed covers wanted definite
            (fixed key requirement wanted definite)
          obtain ⟨narrowsTotal, fixes⟩ := respected.2 published
          obtain ⟨q, here, -, value, inside⟩ := fixes key t inTotal definiteTotal
          have wantedValue : requirement.has value = true := by
            obtain ⟨q', same, narrower⟩ := narrowsTotal key t inTotal
            rw [here] at same
            cases same
            exact within value (narrower value inside)
          cases final : (nodeClaim.tightened result).get? key with
          | some f =>
            obtain ⟨q', same, wider⟩ := narrows key f final
            rw [here] at same
            cases same
            left
            rw [Requirement.hasIntersection_iff_exists]
            exact ⟨value, wider value inside, wantedValue⟩
          | none =>
            left
            rcases usable with alone | own | open_
            · have there := defined alone key (by rw [here]; rfl)
              rw [final] at there
              cases there
            · obtain ⟨base, inBase⟩ := Option.isSome_iff_exists.mp own
              obtain ⟨kept, there, -⟩ := Requirements.narrows_add nodeClaim.requirements
                result.requirements.values key base inBase
              rw [NodeClaim.tightened, there] at final
              cases final
            · exact open_

/-- What has to be known of a recorded device before the call: the record vouches for it, or it is in a slice for
all nodes or for the node of the node claim. -/
def Loop.Covered (l : Loop) (env : Environment) (nodeClaim : NodeClaim) (claims : List ResourceClaim)
    (claim : ResourceClaim) (m : ResourceClaimAllocationMetadata) (id : DeviceID) : Prop :=
  l.Vouches env nodeClaim claims claim m id ∨ ∃ s ∈ l.allocator.inClusterSlices, s.Lists id ∧
    (s.allNodes = true ∨ s.nodeName ≠ "" ∧ s.nodeName = nodeClaim.nodeName)

/-- Devices of a shared claim. Whenever a call is accepted that references a claim with a record, all devices on
record are accessible from its node claim if each is vouched for, or in a slice for all nodes or for this node. -/
theorem shared_devices_reachable {wellKnownLabels : Finset String} {slices : List ResourceSlice}
    {allocatedState : AllocatedDeviceState} {attributeBindings : AttributeBindings}
    {deletingPodUIDs : Finset String} {l : Loop}
    (oneTerm : ∀ s ∈ slices, ∀ ns, s.nodeSelector = some ns → ns.nodeSelectorTerms.length = 1)
    (run : Relation.ReflTransGen Loop.Step
      { allocator := newAllocator wellKnownLabels slices allocatedState attributeBindings deletingPodUIDs } l)
    {env : Environment} {nodeClaim : NodeClaim} {claims : List ResourceClaim} {result : AllocationResult}
    {claim : ResourceClaim} {m : ResourceClaimAllocationMetadata}
    (allocated : l.allocator.allocate env nodeClaim claims = .ok result) (listed : claim ∈ claims)
    (recorded : l.allocator.claimAllocationMetadata.lookup (resourceClaimID claim) = some m)
    (covered : ∀ it results, m.devices.lookup it = some results → ∀ r ∈ results,
      l.Covered env nodeClaim claims claim m r.deviceID) :
    ∀ it results, m.devices.lookup it = some results → ∀ r ∈ results,
      AccessibleFrom slices env.wellKnownLabels nodeClaim (nodeClaim.tightened result) m.nodeClaimID r.deviceID := by
  have keeps := (Loop.Keeps.start wellKnownLabels slices allocatedState attributeBindings deletingPodUIDs).reaches run
  intro it results found r member
  rcases covered it results found r member with vouches | ⟨s, inSlices, lists, reachable⟩
  · exact accessible_of_vouches keeps oneTerm allocated listed recorded found member vouches
  · rw [keeps.published] at inSlices
    exact .inr ⟨s, inSlices, lists, reachable.imp_right .inl⟩

/-- A node claim that may go to either of two zones. -/
def flexibleNodeClaim (id : NodeClaimID) : NodeClaim where
  id
  requirements := Requirements.newRequirements [Scheduling.newRequirement "zone" .opIn ["a", "b"]]
  instanceTypes := ["small"]

/-- A card for the nodes of one zone. -/
def zoneSlices : List ResourceSlice :=
  [{ driver := "gpu", pool := "zone", devices := [{ name := "card" }]
     nodeSelector := some ⟨[⟨[{ key := "zone", operator := .opIn, values := ["a"] }]⟩]⟩ }]

theorem zoneSlices_oneTerm : ∀ s ∈ zoneSlices, ∀ ns, s.nodeSelector = some ns → ns.nodeSelectorTerms.length = 1 := by
  intro s listed ns selector
  cases List.mem_singleton.mp listed
  cases selector
  rfl

theorem zoneSlices_definite (topology : zoneSlices.head?.bind sliceTopologyRequirements = some reqs)
    (found : reqs.get? key = some requirement) : Definite requirement := by
  rw [get?_oneTerm rfl topology] at found
  simp only [Requirements.newNodeSelectorRequirements, List.map_cons, List.map_nil, Requirements.newRequirements,
    Requirements.add, List.foldl_cons, List.foldl_nil, Requirements.get?_addOne, get?_empty] at found
  split at found
  · cases found
    exact ⟨rfl, "a", by decide +kernel⟩
  · cases found

/-- Another node claim with the same claim is kept to the zone of the card. -/
theorem shared_devices_reachable_zone : ∃ l m result, Relation.ReflTransGen Loop.Step
    { allocator := newAllocator ∅ zoneSlices {} ∅ ∅ } l ∧
    l.allocator.allocate partitionEnvironment (flexibleNodeClaim "second") [partitionClaim] = .ok result ∧
    l.allocator.claimAllocationMetadata.lookup (resourceClaimID partitionClaim) = some m ∧
    ∀ it results, m.devices.lookup it = some results → ∀ r ∈ results,
      AccessibleFrom zoneSlices ∅ (flexibleNodeClaim "second") ((flexibleNodeClaim "second").tightened result)
        m.nodeClaimID r.deviceID := by
  have commit := Loop.Step.commit (l := { allocator := newAllocator ∅ zoneSlices {} ∅ ∅ })
    (rfl : Allocator.allocate _ partitionEnvironment (flexibleNodeClaim "first") [partitionClaim] = .ok _) rfl rfl
  obtain ⟨l, m, result, path, allocated, recorded, published, untemplated, settled⟩ :
      ∃ l m result, Relation.ReflTransGen Loop.Step { allocator := newAllocator ∅ zoneSlices {} ∅ ∅ } l ∧
        l.allocator.allocate partitionEnvironment (flexibleNodeClaim "second") [partitionClaim] = .ok result ∧
        l.allocator.claimAllocationMetadata.lookup (resourceClaimID partitionClaim) = some m ∧
        l.allocator.inClusterSlices = zoneSlices ∧ m.usedTemplateDevices = false ∧
        l.allocator.searched partitionEnvironment (flexibleNodeClaim "second") [partitionClaim] = [] :=
    ⟨_, _, _, .single commit, rfl, rfl, rfl, rfl, rfl⟩
  refine ⟨l, m, result, path, allocated, recorded, ?_⟩
  refine shared_devices_reachable zoneSlices_oneTerm path allocated (List.mem_singleton_self _) recorded ?_
  intro it results found r member
  refine .inl ⟨rfl, .inr ?_⟩
  intro s listed _
  rw [published] at listed
  cases List.mem_singleton.mp listed
  exact .inr ⟨untemplated, _, rfl, fun key requirement wanted => ⟨zoneSlices_definite rfl wanted, .inl settled⟩⟩

/-- A card of one node only. -/
def localSlices : List ResourceSlice :=
  [{ driver := "gpu", pool := "local", devices := [{ name := "card" }], nodeName := "first" }]

/-- The claim gets the card of the first node and is then accepted for a node claim without a node. -/
theorem shared_devices_reachable_pinned : ∃ l m result, Relation.ReflTransGen Loop.Step
    { allocator := newAllocator ∅ localSlices {} ∅ ∅ } l ∧
    l.allocator.claimAllocationMetadata.lookup (resourceClaimID partitionClaim) = some m ∧
    l.allocator.allocate partitionEnvironment (flexibleNodeClaim "second") [partitionClaim] = .ok result ∧
    ∃ results r, m.devices.lookup "small" = some results ∧ r ∈ results ∧
      ¬ AccessibleFrom localSlices ∅ (flexibleNodeClaim "second") ((flexibleNodeClaim "second").tightened result)
        m.nodeClaimID r.deviceID := by
  have commit := Loop.Step.commit (l := { allocator := newAllocator ∅ localSlices {} ∅ ∅ })
    (rfl : Allocator.allocate _ partitionEnvironment
      { id := "first", nodeName := "first", superposed := false, instanceTypes := ["small"] } [partitionClaim] =
        .ok _) rfl rfl
  refine ⟨_, _, _, .single commit, rfl, rfl, _, _, rfl, List.mem_singleton_self _, ?_⟩
  rintro (⟨template, -⟩ | ⟨s, listed, -, allNodes | ⟨-, named⟩ | ⟨ns, selector, -⟩⟩)
  · cases template
  · cases List.mem_singleton.mp listed
    cases allNodes
  · cases List.mem_singleton.mp listed
    exact absurd named (by decide)
  · cases List.mem_singleton.mp listed
    cases selector

end Karpenter.DynamicResources
