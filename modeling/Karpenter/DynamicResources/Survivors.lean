import Karpenter.DynamicResources.Solution

/-! What holds of every instance type that survives. It is enough that recording a device keeps it and that a
failed branch gives it back: so the devices of a survivor are among those the call offers, and the requirements
that are left in the end carry the topology of all devices of all survivors. -/
namespace Karpenter.DynamicResources

open Scheduling (Requirement Requirements)

/-- Requirements that lie within every topology lie within their union. -/
theorem narrows_newRequirements {r : Requirements}
    (each : ∀ part ∈ parts, ∃ q, r.get? part.key = some q ∧ ∀ value, q.has value = true → part.has value = true) :
    r.Narrows (Requirements.newRequirements parts) := by
  intro key requirement found
  have meets := Requirements.get?_newRequirements_meets _ key found
  have some : ∃ part ∈ parts, part.key = key := by
    by_contra none
    rw [(Requirements.get?_newRequirements_eq_none parts key).mpr fun part member same =>
      none ⟨part, member, same⟩] at found
    cases found
  obtain ⟨part, member, rfl⟩ := some
  obtain ⟨q, here, -⟩ := each part member
  refine ⟨q, here, ?_⟩
  intro value inside
  rw [meets.has_iff]
  intro other kept
  obtain ⟨listed, same⟩ := List.mem_filter.mp kept
  obtain ⟨q', here', within⟩ := each other listed
  rw [of_decide_eq_true same, here] at here'
  cases here'
  exact within value inside

theorem Carries.part {r : Requirements} {dw : DeviceWithID} (carries : Carries r dw) {part : Requirement}
    (member : part ∈ (dw.topologyRequirements.map (·.values)).getD []) :
    ∃ q, r.get? part.key = some q ∧ ∀ value, q.has value = true → part.has value = true := by
  cases topology : dw.topologyRequirements with
  | none =>
    rw [topology] at member
    cases member
  | some reqs =>
    rw [topology] at member
    exact carries.narrows reqs topology part.key part ((Requirements.mem_values reqs part).mp member)

theorem tightens_contributed {a : Search}
    (carried : ∀ m ∈ a.allocatedDevicesMetadata, Carries a.requirements m.deviceWithID) :
    Tightens (a.requirements.add (AllocateCall.contributed a).values) a.requirements := by
  apply tightens_add_implied
  apply narrows_newRequirements
  intro part member
  obtain ⟨m, listed, inside⟩ := List.mem_flatMap.mp member
  exact (carried m listed).part inside

section

variable {ctx : SearchContext} {a b c : Search}

theorem carries_of_records (records : Records ctx pos rd dw a consumed b) :
    Tightens b.requirements a.requirements ∧ Carries b.requirements dw := by
  obtain ⟨cache, cached⟩ := exists_cache ctx pos rd dw a
  obtain ⟨narrowed, found, rfl⟩ := records.recorded
  rw [Search.constrained, cached] at found
  obtain ⟨tightens, carries, -⟩ := narrow_spec found
  rw [(record_spec narrowed pos rd dw consumed).1]
  exact ⟨tightens, carries⟩

/-- The requirements of a search lie within those it started from and carry the devices allocated so far. -/
structure CarriesAll (start : Requirements) (a : Search) : Prop where
  tightens : Tightens a.requirements start
  devices : ∀ m ∈ a.allocatedDevicesMetadata, Carries a.requirements m.deviceWithID

theorem CarriesAll.undone (carries : CarriesAll start a) (same : Undone a b) : CarriesAll start b := by
  refine ⟨same.toRestores.requirements ▸ carries.tightens, ?_⟩
  rw [same.toRestores.requirements, same.toRestores.metadata]
  exact carries.devices

theorem CarriesAll.records (carries : CarriesAll start a) (records : Records ctx pos rd dw a consumed b) :
    CarriesAll start b := by
  obtain ⟨tightens, own⟩ := carries_of_records records
  refine ⟨tightens.trans carries.tightens, ?_⟩
  rw [metadata_of_records records]
  intro m member
  rcases List.mem_append.mp member with before | added
  · exact (carries.devices m before).tighten tightens
  · rw [List.mem_singleton.mp added]
    exact own

end

/-- A device that the search may try. -/
def SearchContext.Offers (ctx : SearchContext) (home : List Pool) (dw : DeviceWithID) : Prop :=
  dw ∈ offered home ∨ dw ∈ ctx.templateDevices ∨
    ∃ cd ∈ ctx.claimData, ∃ req ∈ cd.requests, ∃ rd ∈ req.alternatives, dw ∈ ctx.allModeDevices rd

/-- The candidates of every slot come from the pools of the call or are template devices. -/
structure SearchContext.Draws (ctx : SearchContext) (home : List Pool) : Prop where
  templates : ∀ d ∈ (ctx.templateDevicesByIT.lookup ctx.itID).getD [], Candidate home d
  requests : ∀ cd ∈ ctx.claimData, ∀ req ∈ cd.requests, ∀ rd ∈ req.alternatives,
    ∀ d ∈ rd.allDevices ++ (rd.allTemplateDevicesByIT.lookup ctx.itID).getD [], Candidate home d

/-- What a search may rely on in any state. -/
structure Ready (home : List Pool) (a : Search) : Prop where
  tidied : Tidied a
  pools : offered a.pools ⊆ offered home

/-- The device of a call is one of those the search may try, for the request of its position. -/
def SearchCall.Tries (ctx : SearchContext) (home : List Pool) : SearchCall → Prop
  | .dfs _ _ => True
  | .tryDevice _ pos rd dw => ctx.requestAt pos = some rd ∧ ctx.Offers home dw

section

variable {ctx : SearchContext} {a b : Search}

theorem Ready.undone (ready : Ready home a) (same : Undone a b) : Ready home b :=
  ⟨ready.tidied.undone same, same.toRestores.pools ▸ ready.pools⟩

theorem Ready.records (ready : Ready home a) (records : Records ctx pos rd dw a consumed b) : Ready home b :=
  ⟨ready.tidied.records records, List.Subset.trans (pools_of_records records) ready.pools⟩

theorem Ready.recorded (ctx : SearchContext) (home : List Pool) : ∀ {depth pos rd dw a consumed b},
    Ready home a ∧ (SearchCall.tryDevice depth pos rd dw).Tries ctx home → Records ctx pos rd dw a consumed b →
      Ready home b ∧ (SearchCall.dfs depth pos.nextSlot).Tries ctx home :=
  fun pre records => ⟨pre.1.records records, trivial⟩

theorem tries_of_branches (pools : offered a.pools ⊆ offered home) (branches : Branches ctx depth pos a child b) :
    child.Tries ctx home := by
  cases child with
  | dfs => trivial
  | tryDevice left pos' rd dw =>
    obtain ⟨-, rfl, request, -, source⟩ := branches.source
    refine ⟨request, ?_⟩
    rcases source with ⟨-, listed⟩ | ⟨-, inPools | inTemplates⟩
    · obtain ⟨cd, inClaims, req, inRequests, alternative⟩ := mem_of_requestAt request
      exact .inr (.inr ⟨cd, inClaims, req, inRequests, rd, alternative, List.mem_of_getElem? listed⟩)
    · exact .inl (pools inPools)
    · exact .inr (.inl inTemplates)

theorem SearchContext.Draws.candidate (draws : ctx.Draws home) (offers : ctx.Offers home dw) : Candidate home dw := by
  rcases offers with inPools | inTemplates | ⟨cd, inClaims, req, inRequests, rd, alternative, listed⟩
  · exact .inr inPools
  · exact draws.templates dw inTemplates
  · exact draws.requests cd inClaims req inRequests rd alternative dw listed

end

/-- A failed call undoes its changes, and the devices tried are those the search may try. -/
def triesRule (ctx : SearchContext) (home : List Pool) : SearchRule ctx :=
  undoneRule ctx (fun made a => offered a.pools ⊆ offered home ∧ made.Tries ctx home)
    (fun inv records => ⟨List.Subset.trans (pools_of_records records) inv.1, trivial⟩)
    (fun inv branches same => ⟨same.toRestores.pools ▸ inv.1, tries_of_branches inv.1 branches⟩)

namespace AllocateCall

variable {call : AllocateCall} {a last finished : Search}

theorem pre_triesRule (call : AllocateCall) (it : InstanceTypeID) (a : Search) :
    (triesRule (call.context it) call.initialPools).Pre (.dfs (searchDepth (call.context it)) ⟨0, 0, none, 0⟩)
      (call.restoreState it a) :=
  ⟨call.tidied_restoreState it a, List.Subset.refl _, trivial⟩

section Invariants

variable (Inv : Search → Prop) (kept : ∀ {a b}, Undone a b → Inv a → Inv b)
  (recorded : ∀ {pos rd dw a consumed b}, (call.context it).requestAt pos = some rd →
    (call.context it).Offers call.initialPools dw → Inv a → Records (call.context it) pos rd dw a consumed b → Inv b)

include kept recorded

theorem kept_of_dfs (start : Inv (call.restoreState it a))
    (succeeded : dfs (call.context it) (searchDepth (call.context it)) ⟨0, 0, none, 0⟩ (call.restoreState it a) =
      (true, finished)) : Inv finished :=
  (triesRule (call.context it) call.initialPools).also_succeeded kept
    (fun pre inv records => recorded pre.2.2.1 pre.2.2.2 inv records) (call.pre_triesRule it a) start succeeded

theorem kept_of_survivor (start : ∀ a, Inv (call.restoreState it a))
    (searched : call.searchInstanceTypes call.nodeClaim.instanceTypes call.initialSearch = .ok (survivors, last))
    (survives : (it, finished) ∈ survivors) : Inv finished := by
  obtain ⟨_, ⟨rest, a, -, -, -, rfl⟩, succeeded⟩ := exists_start_of_survivor .first searched survives
  exact kept_of_dfs Inv kept recorded (start _) succeeded

end Invariants

/-- The devices of a survivor are among those the search may try. -/
theorem offers_of_survivor
    (searched : call.searchInstanceTypes call.nodeClaim.instanceTypes call.initialSearch = .ok (survivors, last))
    (survives : (it, finished) ∈ survivors) :
    ∀ m ∈ finished.allocatedDevicesMetadata, (call.context it).Offers call.initialPools m.deviceWithID := by
  refine kept_of_survivor
    (fun a => ∀ m ∈ a.allocatedDevicesMetadata, (call.context it).Offers call.initialPools m.deviceWithID)
    (fun same offers => same.toRestores.metadata ▸ offers) ?_ ?_ searched survives
  · intro pos rd dw a consumed b _ own offers records m member
    rw [metadata_of_records records] at member
    rcases List.mem_append.mp member with before | added
    · exact offers m before
    · rw [List.mem_singleton.mp added]
      exact own
  · intro a m none_
    cases none_

/-- After all instance types have been searched, the requirements carry the topology of every device that a
finished search allocated. -/
theorem carries_of_searchInstanceTypes (searched : call.searchInstanceTypes its a = .ok (survivors, last)) :
    Tightens last.requirements a.requirements ∧ ∀ survivor ∈ survivors,
      ∀ m ∈ survivor.2.allocatedDevicesMetadata, Carries last.requirements m.deviceWithID := by
  induction its generalizing a survivors last with
  | nil =>
    cases searched
    exact ⟨.refl _, by simp⟩
  | cons it rest ih =>
    rw [AllocateCall.searchInstanceTypes] at searched
    split at searched
    · cases searched
    · dsimp only at searched
      split at searched
      · exact (ih searched :)
      · split at searched
        · rename_i failed outcome
          have same : failed.requirements = a.requirements :=
            ((triesRule _ _).failed (call.pre_triesRule it a.polled) outcome).toRestores.requirements
          exact same ▸ ih searched
        · rename_i finished outcome
          have start : CarriesAll a.requirements (call.restoreState it a.polled) :=
            ⟨.refl _, fun m none_ => by cases none_⟩
          have own : CarriesAll a.requirements finished :=
            kept_of_dfs (CarriesAll a.requirements) (fun same carries => carries.undone same)
              (fun _ _ carries records => carries.records records) start outcome
          have contributed := tightens_contributed own.devices
          split at searched
          · cases searched
          · rename_i more last' later
            cases searched
            obtain ⟨further, others⟩ := ih later
            have whole : Tightens last.requirements finished.requirements := further.trans contributed
            refine ⟨whole.trans own.tightens, ?_⟩
            intro survivor member
            rcases List.mem_cons.mp member with rfl | inMore
            · exact fun m listed => (own.devices m listed).tighten whole
            · exact others survivor inMore

end AllocateCall

end Karpenter.DynamicResources
