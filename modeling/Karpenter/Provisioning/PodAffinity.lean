import Karpenter.Provisioning.Placement

/-! Pods with an affinity to themselves. The first of them may go anywhere, and what it is recorded under is where
all others have to go. It is recorded only when its host is left with a single domain, and the search for a first
domain offers up to two: one that the host admits too, and the first one that the pod admits. The pods end up
together exactly when one of the offered domains survives on the host each time. -/
namespace Karpenter.Provisioning

open Scheduling

namespace Simulation

variable (settings : Settings)

/-- Every host with a pod is left with the same single domain. -/
def CoLocated (key : String) (s : Simulation) : Prop :=
  ∃ domain, ∀ h ∈ s.hosts, h.pods ≠ [] → ∀ other, (h.requirements.get key).has other = true ↔ other = domain

/-- Whatever else decides about the key lets the domain through: the host itself and all other groups. -/
def OthersAdmit (s : Simulation) (id : UInt64) (key : String) (h : Host) (p : PodPlacement) (narrowed : Requirements)
    (domain : String) : Prop :=
  (narrowed.get key).has domain = true ∧
    ∀ entry ∈ (s.topology.without id).getMatchingTopologies settings.toleratesTaint p.pod h.taints narrowed,
      normalizeKey entry.2.key = key →
        (Topology.domainsFor p.orders p.pod p.podRequirements narrowed entry).has domain = true

/-- A pod that goes through finds exactly one of the offered domains admitted by everything else, under a key
that is not an alias of another one. -/
def Settles (id : UInt64) (s : Simulation) (attempt : Nat × PodPlacement) : Prop :=
  ∀ tg h requirements narrowed, s.topology.topologyGroups.lookup id = some tg →
    s.accepts settings attempt.1 attempt.2 = some (h, requirements) →
    h.narrowFor settings attempt.2 = some narrowed →
    normalizeKey tg.key = tg.key ∧
      ∃! domain, domain ∈ tg.affinityDomains (attempt.2.orders id).first (attempt.2.orders id).second attempt.2.pod
          (attempt.2.podRequirements.get tg.key) (narrowed.get tg.key) ∧
        s.OthersAdmit settings id tg.key h attempt.2 narrowed domain

variable {settings}

section Step

variable {g tg : TopologyGroup} {id : UInt64} {s : Simulation} {podDomains : Requirement} {index : Nat}
  {p : PodPlacement} {h : Host} {narrowed requirements : Requirements}

variable (kind : g.type = .podAffinity) (elsewhere : g.key ≠ labelHostname) (affinity : Follows g tg id s)
include kind elsewhere affinity

theorem has_iff_offered (affine : SelfSelecting g podDomains p)
    (accepted : Accepted settings s index p h narrowed requirements) (normal : normalizeKey tg.key = tg.key)
    (domain : String) : (requirements.get tg.key).has domain = true ↔
      domain ∈ tg.affinityDomains (p.orders id).first (p.orders id).second p.pod (p.podRequirements.get tg.key)
          (narrowed.get tg.key) ∧ s.OthersAdmit settings id tg.key h p narrowed domain := by
  have owned : tg.isOwnedBy p.pod.uid = true := (affinity.same.isOwnedBy _).trans affine.owned
  have own : Topology.domainsFor p.orders p.pod p.podRequirements narrowed ⟨id, tg⟩ = tg.options
      (tg.affinityDomains (p.orders id).first (p.orders id).second p.pod (p.podRequirements.get tg.key)
        (narrowed.get tg.key)) :=
    TopologyGroup.get_of_affinity (affinity.same.type.trans kind) (affinity.same.key ▸ elsewhere)
  rw [accepted.has_iff, OthersAdmit]
  constructor
  · rintro ⟨onHost, each⟩
    have offered := each ⟨id, tg⟩ ((Topology.mem_matching_of_owned affinity.found owned).mpr (.inl rfl)) normal
    rw [own, TopologyGroup.has_options] at offered
    exact ⟨offered, onHost, fun entry member =>
      each entry ((Topology.mem_matching_of_owned affinity.found owned).mpr (.inr member))⟩
  · rintro ⟨offered, onHost, each⟩
    refine ⟨onHost, fun entry member onKey => ?_⟩
    rcases (Topology.mem_matching_of_owned affinity.found owned).mp member with rfl | other
    · rw [own, TopologyGroup.has_options]
      exact offered
    · exact each entry other onKey

/-- No owner has been placed and nothing is counted. -/
def Unstarted (tg : TopologyGroup) (s : Simulation) : Prop :=
  (∀ h ∈ s.hosts, h.pods = []) ∧ ∀ domain, tg.count domain = 0

/-- All owners are placed under one domain, which is the only one that counts pods. -/
structure SettledOn (tg : TopologyGroup) (podDomains : Requirement) (s : Simulation) (domain : String) : Prop where
  counted : 0 < tg.count domain
  only : ∀ other, other ≠ domain → tg.count other = 0
  admitted : podDomains.has domain = true
  hosts : ∀ h ∈ s.hosts, h.pods ≠ [] → ∀ other, (h.requirements.get tg.key).has other = true ↔ other = domain

omit kind elsewhere affinity in
/-- Once the owners have settled, theirs is the only domain that is offered. -/
theorem SettledOn.offered (settled : SettledOn tg podDomains s domain)
    (admits : ∀ d, podRequirement.has d = podDomains.has d)
    (member : other ∈ tg.affinityDomains first second pod podRequirement nodeDomains) : other = domain := by
  have closed : tg.mayBootstrap pod podRequirement = false :=
    TopologyGroup.mayBootstrap_eq_false settled.counted ((admits domain).trans settled.admitted)
  unfold TopologyGroup.affinityDomains at member
  split at member
  · have counted := (TopologyGroup.mem_occupiedDomains member).2
    by_contra different
    have := settled.only other different
    omega
  · rw [closed] at member
    simp at member

/-- The host with its new pod is left with the domain, and the domain is counted once more. -/
theorem place_settles (affine : SelfSelecting g podDomains p)
    (accepted : Accepted settings s index p h narrowed requirements) (normal : normalizeKey tg.key = tg.key)
    (single : ∀ other, (requirements.get tg.key).has other = true ↔ other = domain) :
    (s.place settings index h p requirements).topology.topologyGroups.lookup id = some (tg.record [domain]) := by
  have owned : tg.isOwnedBy p.pod.uid = true := (affinity.same.isOwnedBy _).trans affine.owned
  have type : tg.type = .podAffinity := affinity.same.type.trans kind
  have listed := accepted.listed ⟨id, tg⟩ ((Topology.mem_matching_of_owned affinity.found owned).mpr (.inl rfl))
  rw [normal] at listed
  have values : (requirements.get tg.key).values = {domain} := by
    ext other
    rw [← Requirement.has_concrete _ listed, single, Finset.mem_singleton]
  have counted : tg.counts settings.toleratesTaint p.pod h.taints requirements = true := by
    rw [TopologyGroup.counts_of_unfiltered (by rw [type]; decide), affinity.same.selects, affine.selected]
  rw [lookup_place elsewhere affinity, if_pos counted,
    TopologyGroup.recordFor_single (by rw [type]; decide) ⟨listed, values⟩]

/-- Owners that have gathered stay together. -/
theorem gathered_step (affine : SelfSelecting g podDomains attempt.2) (settles : s.Settles settings id attempt)
    (gathered : Unstarted tg s ∨ ∃ domain, SettledOn tg podDomains s domain) :
    ∃ after, Follows g after id (s.step settings attempt) ∧
      (Unstarted after (s.step settings attempt) ∨
        ∃ domain, SettledOn after podDomains (s.step settings attempt) domain) := by
  unfold step
  split
  · exact ⟨tg, affinity, gathered⟩
  rename_i h requirements ok
  obtain ⟨narrowed, accepted⟩ := accepts_spec ok
  obtain ⟨normal, domain, ⟨offered, others⟩, unique⟩ :=
    settles tg h requirements narrowed affinity.found ok accepted.narrowing
  have single : ∀ other, (requirements.get tg.key).has other = true ↔ other = domain := by
    intro other
    rw [has_iff_offered kind elsewhere affinity affine accepted normal]
    refine ⟨unique other, ?_⟩
    rintro rfl
    exact ⟨offered, others⟩
  have recorded := place_settles kind elsewhere affinity affine accepted normal single
  have rule := (tg.record_sameRule [domain]).trans affinity.same
  have admits : ∀ d, (attempt.2.podRequirements.get tg.key).has d = podDomains.has d := by
    rw [affinity.same.key]
    exact affine.admits
  refine ⟨_, ⟨recorded, rule⟩, .inr ⟨domain, ?_⟩⟩
  have before : (∀ other, other ≠ domain → tg.count other = 0) ∧
      ∀ host ∈ s.hosts, host.pods ≠ [] → ∀ other, (host.requirements.get tg.key).has other = true ↔ other = domain := by
    rcases gathered with ⟨empty, zero⟩ | ⟨settledDomain, settled⟩
    · exact ⟨fun other _ => zero other, fun host member some => absurd (empty host member) some⟩
    · have same := settled.offered admits offered
      subst same
      exact ⟨settled.only, settled.hosts⟩
  constructor
  · exact tg.count_pos_record (List.mem_singleton_self domain)
  · intro other different
    rw [TopologyGroup.count_record, before.1 other different, List.count_eq_zero.mpr (by simpa using different)]
  · rw [← admits]
    exact TopologyGroup.has_of_mem_affinityDomains offered
  · intro host member some other
    rw [(tg.record_sameRule [domain]).key]
    rcases List.mem_or_eq_of_mem_set member with earlier | rfl
    · exact before.2 host earlier some other
    · exact single other

/-- If the pods are together after a step, the step has settled. -/
theorem settles_of_coLocated (affine : SelfSelecting g podDomains attempt.2)
    (together : (s.step settings attempt).CoLocated g.key) : s.Settles settings id attempt := by
  intro found h requirements narrowed here ok narrowing
  obtain rfl : tg = found := Option.some.inj (affinity.found.symm.trans here)
  obtain ⟨left, accepted⟩ := accepts_spec ok
  obtain rfl : left = narrowed := Option.some.inj (accepted.narrowing.symm.trans narrowing)
  obtain ⟨domain, each⟩ := together
  have placed : s.step settings attempt = s.place settings attempt.1 h attempt.2 requirements := by
    rw [step, ok]
  have inside : attempt.1 < s.hosts.length := (List.getElem?_eq_some_iff.mp accepted.host).1
  have single : ∀ other, (requirements.get tg.key).has other = true ↔ other = domain := by
    rw [placed] at each
    rw [affinity.same.key]
    exact each _ (List.mem_set inside _) (by simp)
  have normal : normalizeKey tg.key = tg.key := by
    by_contra aliased
    rw [Requirements.get_of_alias requirements aliased] at single
    have first := (single "a").mp (Requirements.has_exists _ _)
    have second := (single "b").mp (Requirements.has_exists _ _)
    exact absurd (first.trans second.symm) (by decide)
  have offered := has_iff_offered kind elsewhere affinity affine accepted normal
  refine ⟨normal, domain, (offered domain).mp ((single domain).mpr rfl), fun other found => ?_⟩
  exact (single other).mp ((offered other).mpr found)

/-- Owners that settle at every placement have gathered after every part of the run. -/
theorem gathered_run (gathered : Unstarted tg s ∨ ∃ domain, SettledOn tg podDomains s domain)
    (attempts : List (Nat × PodPlacement)) (affine : ∀ attempt ∈ attempts, SelfSelecting g podDomains attempt.2)
    (settles : ∀ done next, done ++ [next] <+: attempts → (s.run settings done).Settles settings id next) :
    ∃ after, Follows g after id (s.run settings attempts) ∧
      (Unstarted after (s.run settings attempts) ∨
        ∃ domain, SettledOn after podDomains (s.run settings attempts) domain) := by
  induction attempts using List.reverseRecOn with
  | nil => exact ⟨tg, affinity, gathered⟩
  | append_singleton done next ih =>
    obtain ⟨before, kept, together⟩ := ih (fun attempt member => affine attempt (List.mem_append_left _ member))
      fun earlier last part => settles earlier last (part.trans (List.prefix_append done [next]))
    rw [run_concat]
    exact gathered_step kind elsewhere kept (affine next (by simp)) (settles done next List.prefix_rfl) together

end Step

theorem coLocated_of_gathered {g tg : TopologyGroup} {id : UInt64} (affinity : Follows g tg id s)
    (gathered : Unstarted tg s ∨ ∃ domain, SettledOn tg podDomains s domain) : s.CoLocated g.key := by
  rcases gathered with ⟨empty, -⟩ | ⟨domain, settled⟩
  · exact ⟨"", fun h member some => absurd (empty h member) some⟩
  · exact ⟨domain, affinity.same.key ▸ settled.hosts⟩

/-- The owners of a required affinity that select themselves and have the same domains are together after every
placement exactly when every placement settles. -/
theorem self_affine_pods_coLocated_iff (settings : Settings) (start : Simulation) (id : UInt64) (g : TopologyGroup)
    (podDomains : Requirement) (attempts : List (Nat × PodPlacement))
    (found : start.topology.topologyGroups.lookup id = some g) (kind : g.type = .podAffinity)
    (elsewhere : g.key ≠ labelHostname) (unmatched : ∀ domain, g.count domain = 0)
    (empty : ∀ h ∈ start.hosts, h.pods = []) (affine : ∀ attempt ∈ attempts, SelfSelecting g podDomains attempt.2) :
    (∀ done, done <+: attempts → (start.run settings done).CoLocated g.key) ↔
      ∀ done next, done ++ [next] <+: attempts → (start.run settings done).Settles settings id next := by
  have affinity : Follows g g id start := ⟨found, .refl g⟩
  constructor
  · intro together done next part
    obtain ⟨before, kept⟩ := affinity.run elsewhere done
    have member : next ∈ attempts := part.subset (by simp)
    exact settles_of_coLocated kind elsewhere kept (affine next member)
      (run_concat start done next ▸ together _ part)
  · intro settles done part
    obtain ⟨after, kept, gathered⟩ := gathered_run kind elsewhere affinity (.inl ⟨empty, unmatched⟩) done
      (fun attempt member => affine attempt (part.subset member))
      fun earlier last inside => settles earlier last (inside.trans part)
    exact coLocated_of_gathered kept gathered

/-- The affinity of two pods to each other and to themselves, with two zones to choose from. -/
def webAffinity : TopologyGroup :=
  ((((TopologyGroup.ofConstraint .podAffinity zoneLabel {"default"} (some ⟨"app=web", fun _ => true⟩)
    TopologyGroup.maxInt32 none {}).register "zone-a").register "zone-b").addOwner "web-1").addOwner "web-2"

def twoNodeClaims : Simulation where
  topology := { topologyGroups := AList.insert 1 webAffinity ∅ }
  hosts := [openNodeClaim "host-1", openNodeClaim "host-2"]

theorem webAffinity_unmatched (domain : String) : webAffinity.count domain = 0 := by
  show (((TopologyGroup.ofConstraint .podAffinity zoneLabel {"default"} (some ⟨"app=web", fun _ => true⟩)
    TopologyGroup.maxInt32 none {}).register "zone-a").register "zone-b").count domain = 0
  rw [TopologyGroup.count_register, TopologyGroup.count_register]
  rfl

theorem selfSelecting_web (owner : name = "web-1" ∨ name = "web-2") (first second : List String) :
    SelfSelecting webAffinity anyZone (placeWeb name first second) where
  owned := by
    show webAffinity.isOwnedBy (webPod name).uid = true
    rcases owner with rfl | rfl <;> decide +kernel
  selected := by
    show webAffinity.selects (webPod name) = true
    rcases owner with rfl | rfl <;> decide +kernel
  admits := fun _ => rfl

/-- Both loops start with the same zone. -/
def agreeingOrders : List (Nat × PodPlacement) :=
  [(0, placeWeb "web-1" ["zone-b"] ["zone-b"]), (1, placeWeb "web-2" ["zone-a"] ["zone-b"])]

/-- The first loop starts with one zone, the second with the other. -/
def disagreeingOrders : List (Nat × PodPlacement) := [(0, placeWeb "web-1" ["zone-a"] ["zone-b"])]

theorem coLocated_of_all {s : Simulation} {key : String} (domain : String)
    (each : (s.hosts.all fun h => h.pods.isEmpty ||
      (!(h.requirements.get key).complement && decide ((h.requirements.get key).values = {domain}))) = true) :
    s.CoLocated key := by
  refine ⟨domain, fun h member occupied => ?_⟩
  have single := List.all_eq_true.mp each h member
  simp only [Bool.or_eq_true, List.isEmpty_iff, occupied, false_or, Bool.and_eq_true, Bool.not_eq_true',
    decide_eq_true_eq] at single
  exact Requirement.Single.has_iff single

theorem self_affine_pods_coLocated_agreeing :
    (∀ done, done <+: agreeingOrders → (twoNodeClaims.run zonalSettings done).CoLocated zoneLabel) ∧
      ∀ done next, done ++ [next] <+: agreeingOrders →
        (twoNodeClaims.run zonalSettings done).Settles zonalSettings 1 next := by
  have together : ∀ done, done <+: agreeingOrders → (twoNodeClaims.run zonalSettings done).CoLocated zoneLabel := by
    intro done part
    have parts : done ∈ agreeingOrders.inits := List.mem_inits done agreeingOrders |>.mpr part
    simp only [agreeingOrders, List.inits, List.map_cons, List.map_nil, List.mem_cons, List.not_mem_nil,
      or_false] at parts
    rcases parts with rfl | rfl | rfl
    · exact coLocated_of_all "zone-b" (by decide +kernel)
    · exact coLocated_of_all "zone-b" (by decide +kernel)
    · exact coLocated_of_all "zone-b" (by decide +kernel)
  refine ⟨together, (self_affine_pods_coLocated_iff zonalSettings twoNodeClaims 1 webAffinity anyZone agreeingOrders
    rfl rfl (by decide) webAffinity_unmatched (by decide +kernel) ?_).mp together⟩
  simp only [agreeingOrders, List.forall_mem_cons]
  exact ⟨selfSelecting_web (.inl rfl) _ _, selfSelecting_web (.inr rfl) _ _, by simp⟩

/-- The first pod leaves its NodeClaim with two zones. -/
theorem self_affine_pods_coLocated_disagreeing : (∀ domain, webAffinity.count domain = 0) ∧
      (∀ attempt ∈ disagreeingOrders, SelfSelecting webAffinity anyZone attempt.2) ∧
      ¬ (twoNodeClaims.run zonalSettings disagreeingOrders).CoLocated zoneLabel := by
  refine ⟨webAffinity_unmatched, ?_, ?_⟩
  · simp only [disagreeingOrders, List.forall_mem_cons]
    exact ⟨selfSelecting_web (.inl rfl) _ _, by simp⟩
  · rintro ⟨domain, each⟩
    have wide : ((twoNodeClaims.run zonalSettings disagreeingOrders).hosts.any fun h => !h.pods.isEmpty &&
        ((h.requirements.get zoneLabel).has "zone-a" && (h.requirements.get zoneLabel).has "zone-b")) = true := by
      decide +kernel
    obtain ⟨h, member, facts⟩ := List.any_eq_true.mp wide
    rw [Bool.and_eq_true, Bool.and_eq_true] at facts
    obtain ⟨occupied, first, second⟩ := facts
    have single := each h member (by simpa using occupied)
    have same := ((single "zone-a").mp first).trans ((single "zone-b").mp second).symm
    exact absurd same (by decide)

end Simulation

end Karpenter.Provisioning
