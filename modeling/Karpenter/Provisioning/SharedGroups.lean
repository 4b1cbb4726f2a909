import Karpenter.Provisioning.NewTopology
import Karpenter.Provisioning.TopologySpread

/-! Topology groups that share a hash. The hash is taken to tell apart what it reads: exported fields only, so that of
a requirement it reads the key and not the values, and lists as sets. A group is built from more than that: the
values of the node filter, the least number of domains, and, for an affinity, the tolerations of its pod. -/
namespace Karpenter.Provisioning

open Go (Map RangeOrder)
open Scheduling

/-- What the hash of a group covers. Selectors with the same labels and expressions select the same pods. -/
structure HashCoverage where
  topologyKey : String
  type : TopologyType
  namespaces : Finset String
  maxSkew : Int
  requirementKeys : Finset (Finset String)
  taintPolicy : Option NodeInclusionPolicy
  affinityPolicy : Option NodeInclusionPolicy
  tolerations : Finset Toleration
  selector : Option (Pod → Bool)

namespace TopologyGroup

def hashCoverage (t : TopologyGroup) : HashCoverage where
  topologyKey := t.key
  type := t.type
  namespaces := t.namespaces
  maxSkew := t.maxSkew
  requirementKeys := (t.nodeFilter.requirements.map (·.keys.toFinset)).toFinset
  taintPolicy := t.nodeFilter.taintPolicy
  affinityPolicy := t.nodeFilter.affinityPolicy
  tolerations := t.nodeFilter.tolerations.toFinset
  selector := t.rawSelector.map (·.matches_)

/-- The two groups cannot be told apart by what a topology asks them. -/
structure Interchangeable (toleratesTaint : Toleration → Taint → Bool) (t s : TopologyGroup) : Prop where
  registered : t.registered = s.registered
  counts : ∀ pod taints requirements,
    t.counts toleratesTaint pod taints requirements = s.counts toleratesTaint pod taints requirements
  get : ∀ (updates : List DomainUpdate) orders pod podDomains nodeDomains,
    (updates.foldl apply t).get orders pod podDomains nodeDomains =
      (updates.foldl apply s).get orders pod podDomains nodeDomains

/-- How many domains there have to be before the least count is taken from them. -/
def leastDomains (t : TopologyGroup) : Nat := (t.minDomains.getD 0).toNat

/-- What the answers about domains depend on. -/
structure Alike (t s : TopologyGroup) : Prop where
  key : t.key = s.key
  type : t.type = s.type
  maxSkew : t.maxSkew = s.maxSkew
  selects : ∀ pod, t.selects pod = s.selects pod
  leastDomains : t.type = .spread → t.key ≠ labelHostname → t.leastDomains = s.leastDomains
  domains : t.domains = s.domains
  emptyDomains : t.emptyDomains = s.emptyDomains

section Congruence

variable {t s : TopologyGroup}

theorem SameRule.leastDomains (same : t.SameRule s) : t.leastDomains = s.leastDomains := by
  rw [TopologyGroup.leastDomains, TopologyGroup.leastDomains, same.minDomains]

theorem any_minDomains (t : TopologyGroup) (n : Nat) :
    t.minDomains.any ((n : Int) < ·) = decide (n < t.leastDomains) := by
  rw [leastDomains]
  cases t.minDomains with
  | none => simp
  | some least => simp

theorem Alike.domainMinCount (alike : t.Alike s) (kind : t.type = .spread) (podDomains : Requirement) :
    t.domainMinCount podDomains = s.domainMinCount podDomains := by
  by_cases host : t.key = labelHostname
  · rw [TopologyGroup.domainMinCount, TopologyGroup.domainMinCount, if_pos host, if_pos (alike.key ▸ host)]
  · simp only [TopologyGroup.domainMinCount, any_minDomains, ← alike.key, ← alike.domains,
      alike.leastDomains kind host]

theorem Alike.get (alike : t.Alike s) (orders : Orders) (pod : Pod) (podDomains nodeDomains : Requirement) :
    t.get orders pod podDomains nodeDomains = s.get orders pod podDomains nodeDomains := by
  have count : t.count = s.count := by
    funext domain
    rw [TopologyGroup.count, TopologyGroup.count, alike.domains]
  have registered : t.registered = s.registered := by
    rw [TopologyGroup.registered, TopologyGroup.registered, alike.domains]
  have hostName (order : RangeOrder String) : t.hostName order nodeDomains = s.hostName order nodeDomains := by
    rw [TopologyGroup.hostName, TopologyGroup.hostName, alike.key]
  have options : t.options = s.options := by
    funext values
    rw [TopologyGroup.options, TopologyGroup.options, alike.key]
  have consider : t.considerDomain = s.considerDomain := by
    funext min selfSelecting choice domain
    simp only [considerDomain, alike.domains, alike.maxSkew]
  rw [TopologyGroup.get, TopologyGroup.get, ← alike.type]
  cases kind : t.type with
  | spread =>
    simp only [nextDomainTopologySpread, nodeDomainsInOrder, hostName, options, consider, registered, count,
      alike.selects, alike.maxSkew, alike.domainMinCount kind]
    rfl
  | podAffinity =>
    simp only [nextDomainAffinity, affinityDomains, occupiedDomains, mayBootstrap, bootstrapDomains, firstDomain,
      anyCompatiblePodDomain, hostName, options, registered, count, alike.selects, alike.domains, alike.emptyDomains]
    rfl
  | podAntiAffinity =>
    simp only [nextDomainAntiAffinity, hostName, options, count, alike.emptyDomains]

theorem Alike.recordOne (alike : t.Alike s) (domain : String) : (t.recordOne domain).Alike (s.recordOne domain) := by
  refine { alike with domains := ?_, emptyDomains := ?_ }
  · simp only [TopologyGroup.recordOne, TopologyGroup.count, alike.domains]
  · simp only [TopologyGroup.recordOne, alike.emptyDomains]

theorem Alike.unregisterOne (alike : t.Alike s) (domain : String) :
    (t.unregisterOne domain).Alike (s.unregisterOne domain) := by
  refine { alike with domains := ?_, emptyDomains := ?_ }
  · simp only [TopologyGroup.unregisterOne, alike.domains]
  · simp only [TopologyGroup.unregisterOne, alike.emptyDomains]

theorem Alike.register (alike : t.Alike s) (domain : String) : (t.register domain).Alike (s.register domain) := by
  rw [TopologyGroup.register, TopologyGroup.register, ← alike.domains]
  split
  · exact alike
  · refine { alike with domains := ?_, emptyDomains := ?_ }
    · simp only [registerOne, alike.domains]
    · simp only [registerOne, alike.emptyDomains]

theorem Alike.apply (alike : t.Alike s) (update : DomainUpdate) : (t.apply update).Alike (s.apply update) := by
  cases update with
  | register domains => exact List.foldl_rel alike fun domain _ _ _ same => same.register domain
  | unregister domains => exact List.foldl_rel alike fun domain _ _ _ same => same.unregisterOne domain
  | record domains => exact List.foldl_rel alike fun domain _ _ _ same => same.recordOne domain

end Congruence

section Distinguishing

variable {t s : TopologyGroup}

/-- With domains enough the least count is no less than every count and the largest number there is. -/
theorem le_domainMinCount (elsewhere : t.key ≠ labelHostname)
    (enough : t.leastDomains ≤ (t.admissible podDomains).card) (small : bound ≤ maxInt32)
    (each : ∀ other ∈ t.admissible podDomains, bound ≤ t.count other) : bound ≤ t.domainMinCount podDomains := by
  rw [domainMinCount, if_neg elsewhere]
  dsimp only
  rw [any_minDomains, length_supported, decide_eq_false (by omega), if_neg Bool.false_ne_true]
  refine (le_foldl_min_iff _).mpr ⟨small, fun entry member => ?_⟩
  obtain ⟨stored, admitted⟩ := List.mem_filter.mp member
  have found : t.domains.lookup entry.1 = some entry.2 := Map.mem_entries_iff.mp stored
  have counted := each entry.1 (Finset.mem_filter.mpr ⟨(t.mem_registered entry.1).mpr (by simp [found]), admitted⟩)
  rwa [count, found, Option.getD_some] at counted

/-- What a spread answers for a node in one domain. -/
theorem get_only (kind : t.type = .spread) (elsewhere : t.key ≠ labelHostname) (orders : Orders) (pod : Pod)
    (podDomains : Requirement) (domain : String) : domain ∈ (t.get orders pod podDomains (t.options {domain})).2 ↔
      t.WithinSkew (t.domainMinCount podDomains) (t.selects pod) domain := by
  have listed : (t.options {domain}).operator = .opIn := by
    rw [Requirement.operator_eq]
    simp
  have picks := t.picks_foldl (t.domainMinCount podDomains) (t.selects pod)
    (t.nodeDomainsInOrder orders.first (t.options {domain}))
  rw [get_of_spread kind elsewhere]
  rw [apply_ite Prod.snd, ite_self, picks.valid, nodeDomainsInOrder, if_pos listed, values_options,
    RangeOrder.visit_singleton]
  simp

/-- Where one group has domains enough and the other has not, two pods in each of them and one more than the skew
elsewhere give the groups away. -/
theorem not_leastDomains_lt (kind : t.type = .spread) (elsewhere : t.key ≠ labelHostname) (positive : 0 < t.maxSkew)
    (sameKey : t.key = s.key) (sameType : t.type = s.type) (sameSkew : t.maxSkew = s.maxSkew)
    (unused : ∀ domain, t.count domain = 0 ∧ s.count domain = 0) (orders : Orders) (pod : Pod)
    (answers : ∀ updates podDomains nodeDomains, (t.apply updates).get orders pod podDomains nodeDomains =
      (s.apply updates).get orders pod podDomains nodeDomains) : ¬ t.leastDomains < s.leastDomains := by
  intro fewer
  let name (i : Nat) : String := String.ofList (List.replicate i 'a')
  have injective : Function.Injective name := by
    intro i j same
    simpa [name] using congrArg String.length same
  let supported : Finset String := (Finset.range t.leastDomains).image name
  have size : supported.card = t.leastDomains := by
    rw [Finset.card_image_of_injective _ injective, Finset.card_range]
  have outside : name t.leastDomains ∉ supported := by
    intro member
    obtain ⟨i, inRange, same⟩ := Finset.mem_image.mp member
    have := injective same
    have := Finset.mem_range.mp inRange
    omega
  let recorded : List String := supported.toList ++ supported.toList ++
    List.replicate (t.maxSkew.toNat + 1) (name t.leastDomains)
  let podDomains : Requirement := t.options supported
  have admits (domain : String) : podDomains.has domain = true ↔ domain ∈ supported := t.has_options supported domain
  have admissible (u : TopologyGroup) : (u.record recorded).admissible podDomains = supported := by
    ext domain
    rw [TopologyGroup.admissible, Finset.mem_filter, mem_registered_record, admits]
    simp only [recorded, List.mem_append, Finset.mem_toList]
    tauto
  have counted (u : TopologyGroup) (fresh : ∀ domain, u.count domain = 0) :
      (u.record recorded).count (name t.leastDomains) = t.maxSkew.toNat + 1 ∧
        ∀ domain ∈ supported, (u.record recorded).count domain = 2 := by
    simp only [count_record, fresh, recorded, List.count_append]
    refine ⟨?_, fun domain member => ?_⟩
    · rw [List.count_eq_zero.mpr (by simpa using outside), List.count_replicate_self]
      omega
    · have different : name t.leastDomains ≠ domain := fun same => outside (same ▸ member)
      rw [List.count_eq_one_of_mem supported.nodup_toList (Finset.mem_toList.mpr member), List.count_replicate]
      simp [different]
  have present (u : TopologyGroup) : name t.leastDomains ∈ (u.record recorded).registered :=
    (u.mem_registered_record recorded _).mpr (.inl (by simp [recorded]))
  have rule := t.record_sameRule recorded
  have rule' := s.record_sameRule recorded
  -- the first group takes the least count from its domains, the second takes zero
  have lower : 2 ≤ (t.record recorded).domainMinCount podDomains := by
    refine le_domainMinCount (rule.key ▸ elsewhere) ?_ (by decide) fun other member => ?_
    · rw [admissible, size, rule.leastDomains]
    · rw [admissible] at member
      rw [(counted t fun domain => (unused domain).1).2 other member]
      rfl
  have zero : (s.record recorded).domainMinCount podDomains = 0 := by
    rw [domainMinCount, if_neg (rule'.key ▸ sameKey ▸ elsewhere)]
    dsimp only
    rw [any_minDomains, length_supported, admissible, size, rule'.leastDomains, decide_eq_true fewer, if_pos rfl]
  have same := congrArg Prod.snd (answers (.record recorded) podDomains ((t.record recorded).options {name t.leastDomains}))
  have valid := (get_only (rule.type.trans kind) (rule.key ▸ elsewhere) orders pod podDomains _).mpr
    ⟨present t, by
      rw [(counted t fun domain => (unused domain).1).1, rule.maxSkew]
      split <;> omega⟩
  have options : (t.record recorded).options = (s.record recorded).options := by
    funext values
    rw [TopologyGroup.options, TopologyGroup.options, rule.key, rule'.key, sameKey]
  rw [options] at same valid
  have wrong := (get_only (rule'.type.trans (sameType ▸ kind)) (rule'.key ▸ sameKey ▸ elsewhere) orders pod podDomains
    (name t.leastDomains)).mp (same ▸ valid)
  have bound := wrong.2
  rw [(counted s fun domain => (unused domain).2).1, rule'.maxSkew, ← sameSkew, zero] at bound
  split at bound <;> omega

end Distinguishing

section Registering

variable (domains : List String) (t : TopologyGroup)

theorem count_foldl_register (domain : String) : (domains.foldl register t).count domain = t.count domain := by
  induction domains generalizing t with
  | nil => rfl
  | cons first rest ih => rw [List.foldl_cons, ih, count_register]

theorem registered_foldl_register (domain : String) :
    domain ∈ (domains.foldl register t).registered ↔ domain ∈ domains ∨ domain ∈ t.registered := by
  induction domains generalizing t with
  | nil => simp
  | cons first rest ih =>
    have step : domain ∈ (t.register first).registered ↔ domain = first ∨ domain ∈ t.registered := by
      rw [register]
      split
      · rename_i known
        rw [← mem_registered] at known
        exact (or_iff_right_of_imp fun same => same ▸ known).symm
      · rw [mem_registered, mem_registered, registerOne, Map.lookup_insert_eq]
        split <;> simp_all
    rw [List.foldl_cons, ih, step, List.mem_cons]
    tauto

end Registering

end TopologyGroup

/-- The groups that a topology builds for a pod. The API server admits positive skews only. -/
inductive TopologyInputs.Builds (inputs : TopologyInputs) (p : ConstrainedPod) : TopologyGroup → Prop where
  | spread {tsc : TopologySpreadConstraint} {t : TopologyGroup} (listed : tsc ∈ p.topologySpreadConstraints)
      (positive : 0 < tsc.maxSkew) (built : inputs.newForSpread p tsc = .ok t) : Builds inputs p t
  | affinity {term : PodAffinityTerm} {t : TopologyGroup} (listed : term ∈ inputs.affinityTerms p.podAffinity)
      (built : inputs.newForTerm p .podAffinity term = .ok t) : Builds inputs p t
  | antiAffinity {term : PodAffinityTerm} {t : TopologyGroup} (listed : term ∈ inputs.affinityTerms p.podAntiAffinity)
      (built : inputs.newForTerm p .podAntiAffinity term = .ok t) : Builds inputs p t

namespace TopologyInputs

open TopologyGroup TopologyDomainGroup

variable {inputs : TopologyInputs} {p q : ConstrainedPod} {t s : TopologyGroup}

/-- A group as it is built: the domains that the pod may use are registered one after the other. -/
structure Fresh (inputs : TopologyInputs) (p : ConstrainedPod) (t base : TopologyGroup) : Prop where
  registers : t = (forEachDomain inputs.toleratesTaint
    ((inputs.domainGroups.lookup t.key).getD ∅) p.pod t.nodeFilter.taintPolicy).foldl register base
  unused : base.domains = ∅ ∧ base.emptyDomains = ∅
  tolerations : t.type = .spread → t.nodeFilter.tolerations = p.pod.tolerations
  positive : t.type = .spread → 0 < t.maxSkew

theorem Fresh.rule (fresh : Fresh inputs p t base) : t.SameRule base := by
  rw [fresh.registers]
  exact foldl_sameRule register_sameRule _

theorem Fresh.count_eq_zero (fresh : Fresh inputs p t base) (domain : String) : t.count domain = 0 := by
  rw [fresh.registers, count_foldl_register, count, fresh.unused.1]
  rfl

theorem fresh_newTopologyGroup {type : TopologyType} {topologyKey : String} {namespaces : Finset String}
    {labelSelector : Option LabelSelector} {maxSkew : Int} {minDomains : Option Int}
    (positive : type = .spread → 0 < maxSkew) :
    ∃ base, Fresh inputs p (inputs.newTopologyGroup type topologyKey p namespaces labelSelector maxSkew minDomains
      taintPolicy affinityPolicy) base := by
  let base := ofConstraint type topologyKey namespaces labelSelector maxSkew minDomains
    (makeTopologyNodeFilter p (taintPolicy.getD .ignore) (affinityPolicy.getD .honor))
  have rule : (inputs.newTopologyGroup type topologyKey p namespaces labelSelector maxSkew minDomains
      taintPolicy affinityPolicy).SameRule base := foldl_sameRule register_sameRule _
  refine ⟨base, ?_, ⟨rfl, rfl⟩, fun kind => ?_, fun kind => ?_⟩
  · rw [rule.key, rule.nodeFilter]
    rfl
  · rw [rule.type] at kind
    rw [rule.nodeFilter]
    exact congrArg TopologyNodeFilter.tolerations (if_pos kind)
  · rw [rule.type] at kind
    rw [rule.maxSkew]
    exact positive kind

theorem Builds.fresh (built : inputs.Builds p t) : ∃ base, Fresh inputs p t base := by
  cases built with
  | spread listed positive built =>
    obtain ⟨selector, -, made⟩ := Go.bind_ok.mp built
    cases made
    exact fresh_newTopologyGroup fun _ => positive
  | affinity listed built =>
    obtain ⟨namespaces, -, made⟩ := Go.bind_ok.mp built
    cases made
    exact fresh_newTopologyGroup fun kind => by cases kind
  | antiAffinity listed built =>
    obtain ⟨namespaces, -, made⟩ := Go.bind_ok.mp built
    cases made
    exact fresh_newTopologyGroup fun kind => by cases kind

theorem forEachDomain_eq_of_mem {group : TopologyDomainGroup} {policy : Option NodeInclusionPolicy}
    (same : ∀ domain, domain ∈ forEachDomain inputs.toleratesTaint group p.pod policy ↔
      domain ∈ forEachDomain inputs.toleratesTaint group q.pod policy) :
    forEachDomain inputs.toleratesTaint group p.pod policy =
      forEachDomain inputs.toleratesTaint group q.pod policy := by
  simp only [forEachDomain, List.mem_map, List.mem_filter] at same ⊢
  refine congrArg (List.map Sigma.fst) (List.filter_congr fun entry member => ?_)
  have only {kept : (Sigma fun _ : String => List (List Taint)) → Bool} :
      (∃ other, (other ∈ AList.entries group ∧ kept other = true) ∧ other.1 = entry.1) ↔ kept entry = true := by
    constructor
    · rintro ⟨other, ⟨stored, holds⟩, key⟩
      rwa [← group.nodupKeys.eq_of_fst_eq stored member key]
    · exact fun holds => ⟨entry, ⟨member, holds⟩, rfl⟩
  exact Bool.eq_iff_iff.mpr (only.symm.trans ((same entry.1).trans only))

theorem selects_of_hashCoverage (same : t.hashCoverage = s.hashCoverage) (pod : Pod) :
    t.selects pod = s.selects pod := by
  have selector : t.rawSelector.map (·.matches_) = s.rawSelector.map (·.matches_) := congrArg HashCoverage.selector same
  have namespaces : t.namespaces = s.namespaces := congrArg HashCoverage.namespaces same
  have any (u : TopologyGroup) : u.rawSelector.any (·.matches_ pod) = (u.rawSelector.map (·.matches_)).any (· pod) := by
    cases u.rawSelector <;> rfl
  rw [selects, selects, any, any, selector, namespaces]

theorem mem_tolerations_of_hashCoverage (same : t.hashCoverage = s.hashCoverage) (toleration : Toleration) :
    toleration ∈ t.nodeFilter.tolerations ↔ toleration ∈ s.nodeFilter.tolerations := by
  have sets : t.nodeFilter.tolerations.toFinset = s.nodeFilter.tolerations.toFinset :=
    congrArg HashCoverage.tolerations same
  rw [← List.mem_toFinset, sets, List.mem_toFinset]

/-- Groups with the same hash register the same domains if they are spreads, or if they have the same domains. -/
theorem Fresh.alike (left : Fresh inputs p t base) (right : Fresh inputs q s base')
    (same : t.hashCoverage = s.hashCoverage) (domains : t.type ≠ .spread → t.registered = s.registered)
    (least : t.type = .spread → t.key ≠ labelHostname → t.leastDomains = s.leastDomains) : t.Alike s := by
  have key : t.key = s.key := congrArg HashCoverage.topologyKey same
  have type : t.type = s.type := congrArg HashCoverage.type same
  have policy : t.nodeFilter.taintPolicy = s.nodeFilter.taintPolicy := congrArg HashCoverage.taintPolicy same
  have visited : forEachDomain inputs.toleratesTaint ((inputs.domainGroups.lookup t.key).getD ∅)
      p.pod t.nodeFilter.taintPolicy = forEachDomain inputs.toleratesTaint
        ((inputs.domainGroups.lookup s.key).getD ∅) q.pod s.nodeFilter.taintPolicy := by
    rw [← key, ← policy]
    by_cases kind : t.type = .spread
    · have tolerations := mem_tolerations_of_hashCoverage same
      rw [left.tolerations kind, right.tolerations (type ▸ kind)] at tolerations
      simp only [forEachDomain, toleratesTaints_congr tolerations]
    · apply forEachDomain_eq_of_mem
      intro domain
      have listed (u : TopologyGroup) (u₀ : TopologyGroup) (names : List String) (made : u = names.foldl register u₀)
          (unused : u₀.domains = ∅) : domain ∈ u.registered ↔ domain ∈ names := by
        rw [made, registered_foldl_register]
        simp [registered, unused]
      have member := Finset.ext_iff.mp (domains kind) domain
      rw [listed t base _ left.registers left.unused.1, listed s base' _ right.registers right.unused.1] at member
      rwa [← key, ← policy] at member
  have rule : t.SameRule base := left.rule
  have rule' : s.SameRule base' := right.rule
  have start : base.Alike base' :=
    { key := rule.key.symm.trans (key.trans rule'.key)
      type := rule.type.symm.trans (type.trans rule'.type)
      maxSkew := rule.maxSkew.symm.trans ((congrArg HashCoverage.maxSkew same).trans rule'.maxSkew)
      selects := fun pod =>
        (rule.selects pod).symm.trans ((selects_of_hashCoverage same pod).trans (rule'.selects pod))
      leastDomains := by
        rw [← rule.type, ← rule.key, ← rule.leastDomains, ← rule'.leastDomains]
        exact least
      domains := left.unused.1.trans right.unused.1.symm
      emptyDomains := left.unused.2.trans right.unused.2.symm }
  have registered := List.foldl_rel (l := forEachDomain inputs.toleratesTaint ((inputs.domainGroups.lookup t.key).getD ∅)
    p.pod t.nodeFilter.taintPolicy) start fun domain _ _ _ alike => Alike.register alike domain
  rwa [← left.registers, visited, ← right.registers] at registered

theorem counts_eq_iff (same : t.hashCoverage = s.hashCoverage) :
    (∀ pod taints requirements, t.counts inputs.toleratesTaint pod taints requirements =
        s.counts inputs.toleratesTaint pod taints requirements) ↔
      (t.nodeFilter.affinityPolicy = some .honor → (∃ pod, t.selects pod = true) → ∀ requirements,
        t.nodeFilter.matchesRequirements requirements = s.nodeFilter.matchesRequirements requirements) := by
  have affinity : t.nodeFilter.affinityPolicy = s.nodeFilter.affinityPolicy := congrArg HashCoverage.affinityPolicy same
  have policy : t.nodeFilter.taintPolicy = s.nodeFilter.taintPolicy := congrArg HashCoverage.taintPolicy same
  simp only [counts, selects_of_hashCoverage same, TopologyNodeFilter.matches_, affinity, policy,
    toleratesTaints_congr (mem_tolerations_of_hashCoverage same)]
  constructor
  · rintro counted honor ⟨pod, selected⟩ requirements
    have answer := counted pod [] requirements
    simpa [selected, honor, toleratesTaints] using answer
  · intro filtered pod taints requirements
    cases selected : s.selects pod with
    | false => rfl
    | true =>
      by_cases honor : s.nodeFilter.affinityPolicy = some .honor
      · rw [filtered honor ⟨pod, selected⟩ requirements]
      · simp [honor]

/-- Groups of one hash are interchangeable exactly when, for affinities, their pods may use the same domains, when
their node filters let the same nodes pass, and when, for spreads, they ask for equally many domains. -/
theorem interchangeable_iff (left : inputs.Builds p t) (right : inputs.Builds q s)
    (same : t.hashCoverage = s.hashCoverage) : t.Interchangeable inputs.toleratesTaint s ↔
      (t.type ≠ .spread → t.registered = s.registered) ∧
      (t.nodeFilter.affinityPolicy = some .honor → (∃ pod, t.selects pod = true) → ∀ requirements,
        t.nodeFilter.matchesRequirements requirements = s.nodeFilter.matchesRequirements requirements) ∧
      (t.type = .spread → t.key ≠ labelHostname → t.leastDomains = s.leastDomains) := by
  obtain ⟨base, fresh⟩ := left.fresh
  obtain ⟨base', fresh'⟩ := right.fresh
  have key : t.key = s.key := congrArg HashCoverage.topologyKey same
  have type : t.type = s.type := congrArg HashCoverage.type same
  have skew : t.maxSkew = s.maxSkew := congrArg HashCoverage.maxSkew same
  constructor
  · rintro ⟨registered, counts, get⟩
    refine ⟨fun _ => registered, (counts_eq_iff same).mp counts, fun kind elsewhere => ?_⟩
    have positive := fresh.positive kind
    have answers (update : DomainUpdate) := get [update] ⟨.listed [], .listed []⟩ { key := ⟨"", ""⟩ }
    have unused (domain : String) := And.intro (fresh.count_eq_zero domain) (fresh'.count_eq_zero domain)
    have notLess := not_leastDomains_lt kind elsewhere positive key type skew unused _ _ answers
    have notGreater := not_leastDomains_lt (type ▸ kind) (key ▸ elsewhere) (skew ▸ positive) key.symm type.symm
      skew.symm (fun domain => (unused domain).symm) _ _ fun update podDomains nodeDomains =>
        (answers update podDomains nodeDomains).symm
    omega
  · rintro ⟨registered, filtered, least⟩
    have alike := fresh.alike fresh' same registered least
    refine ⟨?_, (counts_eq_iff same).mpr filtered, fun updates orders pod podDomains nodeDomains => ?_⟩
    · rw [TopologyGroup.registered, TopologyGroup.registered, alike.domains]
    · have later := List.foldl_rel (l := updates) alike fun update _ _ _ same => Alike.apply same update
      exact later.get orders pod podDomains nodeDomains

def zoneSpread : TopologySpreadConstraint where
  maxSkew := 1
  topologyKey := "zone"
  whenUnsatisfiable := .doNotSchedule
  labelSelector := some ⟨"", fun _ => true⟩

def spreadPod (name arch : String) : ConstrainedPod where
  pod := { key := ⟨"default", name⟩, uid := name }
  nodeSelector := AList.insert "arch" arch ∅
  topologySpreadConstraints := [zoneSpread]

def plainInputs : TopologyInputs where
  toleratesTaint := fun _ _ => false
  requireLabel := fun selector _ _ => selector
  hash := fun _ => 0
  pods := []
  distinct := .nil

def spreadGroup (name arch : String) : TopologyGroup :=
  plainInputs.newTopologyGroup .spread "zone" (spreadPod name arch) {"default"} zoneSpread.labelSelector 1 none none none

theorem builds_spreadGroup (name arch : String) : plainInputs.Builds (spreadPod name arch) (spreadGroup name arch) :=
  .spread (List.mem_singleton.mpr rfl) Int.one_pos rfl

theorem interchangeable_same_arch :
    (spreadGroup "first" "amd64").Interchangeable plainInputs.toleratesTaint (spreadGroup "second" "amd64") :=
  (interchangeable_iff (builds_spreadGroup "first" "amd64") (builds_spreadGroup "second" "amd64") rfl).mpr
    ⟨fun _ => rfl, fun _ _ _ => rfl, fun _ _ => rfl⟩

/-- Pods that select different architectures share a spread, although a node of one does not count for the other. -/
theorem spread_shared_across_archs : plainInputs.Builds (spreadPod "first" "amd64") (spreadGroup "first" "amd64") ∧
      plainInputs.Builds (spreadPod "second" "arm64") (spreadGroup "second" "arm64") ∧
      (spreadGroup "first" "amd64").hashCoverage = (spreadGroup "second" "arm64").hashCoverage ∧
      ¬ (spreadGroup "first" "amd64").Interchangeable plainInputs.toleratesTaint (spreadGroup "second" "arm64") := by
  have keys : ((spreadGroup "first" "amd64").nodeFilter.requirements.map (·.keys.toFinset)).toFinset =
      ((spreadGroup "second" "arm64").nodeFilter.requirements.map (·.keys.toFinset)).toFinset := by decide +kernel
  refine ⟨builds_spreadGroup _ _, builds_spreadGroup _ _, ?_, fun interchangeable => ?_⟩
  · rw [hashCoverage, hashCoverage, keys]
    rfl
  · have counted := interchangeable.counts (spreadPod "first" "amd64").pod []
      (Requirements.newLabelRequirements (AList.insert "arch" "amd64" ∅))
    exact absurd counted (by decide +kernel)

end TopologyInputs

end Karpenter.Provisioning
