import Karpenter.Provisioning.TopologySpread
import Karpenter.Scheduling.Meet

/-! What a topology group counts and which domains it offers. The filter of a spread never learns which labels the
caller allows to be undefined, so it counts a node for what its requirements say about labels and for nothing else.
The choice of domains has a short way for a node that lists its own domains and a scan of the registered ones; both
give the same answer, in any order. -/
namespace Karpenter.Scheduling

/-- A node with this value for the key, or without the label, is admitted. -/
def Requirement.admits (r : Requirement) : Option String → Bool
  | none => r.admitsAbsence
  | some value => r.has value

/-- Every requirement can be met, by a value or by leaving out the label. -/
theorem Requirement.exists_admits (r : Requirement) : ∃ value, r.admits value = true := by
  cases kind : r.complement with
  | true =>
    obtain ⟨value, admitted⟩ := r.exists_has_of_complement kind
    exact ⟨some value, admitted⟩
  | false =>
    rcases r.values.eq_empty_or_nonempty with empty | ⟨value, member⟩
    · exact ⟨none, (r.admitsAbsence_iff).mpr (by simp [kind, empty])⟩
    · exact ⟨some value, (r.has_concrete kind value).mpr member⟩

namespace Requirements

/-- A node may have this value for a key. A key without a requirement is given one only if it is open. -/
def AdmitsValue (open_ : Finset String) (key : String) : Option Requirement → Option String → Prop
  | none, value => key ∈ open_ ∨ value = none
  | some requirement, value => requirement.admits value = true

/-- The labels of a node that the requirements may turn into. -/
def Completes (open_ : Finset String) (r : Requirements) (labels : String → Option String) : Prop :=
  ∀ key, AdmitsValue open_ key (r.get? key) (labels key)

/-- The labels meet every requirement of the term. -/
def SatisfiedBy (term : Requirements) (labels : String → Option String) : Prop :=
  ∀ key requirement, term.get? key = some requirement → requirement.admits (labels key) = true

theorem admitsKey_some_iff (key : String) (existing incoming : Requirement) : AdmitsKey ∅ key (some existing) incoming ↔
      ∃ value, existing.admits value = true ∧ incoming.admits value = true := by
  rw [AdmitsKey, Requirement.hasIntersection_iff_exists]
  constructor
  · rintro (⟨value, both⟩ | ⟨inIncoming, inExisting⟩)
    · exact ⟨some value, both⟩
    · exact ⟨none, inExisting, inIncoming⟩
  · rintro ⟨value, inExisting, inIncoming⟩
    cases value with
    | none => exact .inr ⟨inIncoming, inExisting⟩
    | some value => exact .inl ⟨value, inExisting, inIncoming⟩

/-- Without allowances, a term is compatible exactly if labels for the defined keys alone can meet it. -/
theorem isCompatible_iff_completes (r term : Requirements) :
    r.isCompatible term ∅ = true ↔ ∃ labels, r.Completes ∅ labels ∧ term.SatisfiedBy labels := by
  rw [isCompatible_iff_admitsKey]
  constructor
  · intro each
    have chosen : ∀ key, ∃ value, AdmitsValue ∅ key (r.get? key) value ∧
        ∀ wanted, term.get? key = some wanted → wanted.admits value = true := by
      intro key
      cases defined : r.get? key with
      | none =>
        refine ⟨none, .inr rfl, fun incoming wanted => ?_⟩
        have admitted := each key incoming wanted
        rw [defined] at admitted
        exact admitted.resolve_left (Finset.notMem_empty key)
      | some existing =>
        cases wanted : term.get? key with
        | none =>
          obtain ⟨value, admitted⟩ := existing.exists_admits
          exact ⟨value, admitted, by simp⟩
        | some incoming =>
          have admitted := each key incoming wanted
          rw [defined, admitsKey_some_iff] at admitted
          obtain ⟨value, inExisting, inIncoming⟩ := admitted
          exact ⟨value, inExisting, fun _ same => Option.some.inj same ▸ inIncoming⟩
    choose labels completed satisfied using chosen
    exact ⟨labels, completed, satisfied⟩
  · rintro ⟨labels, completes, satisfied⟩ key incoming wanted
    have given := completes key
    have met := satisfied key incoming wanted
    cases defined : r.get? key with
    | none =>
      rw [defined] at given
      rw [given.resolve_left (Finset.notMem_empty key)] at met
      exact .inr met
    | some existing =>
      rw [defined] at given
      exact (admitsKey_some_iff key existing incoming).mpr ⟨labels key, given, met⟩

end Requirements

end Karpenter.Scheduling

namespace Karpenter.Provisioning

open Go (Map RangeOrder)
open Scheduling

namespace TopologyGroup

/-- The taints pass the taint policy of the group. -/
def TaintsPass (toleratesTaint : Toleration → Taint → Bool) (t : TopologyGroup) (taints : List Taint) : Prop :=
  t.nodeFilter.taintPolicy = some .honor → toleratesTaints toleratesTaint taints t.nodeFilter.tolerations = true

/-- Some node that the requirements may turn into meets a term of the filter. -/
def MayCount (t : TopologyGroup) (open_ : Finset String) (requirements : Requirements) : Prop :=
  ∃ labels, requirements.Completes open_ labels ∧ ∃ term ∈ t.nodeFilter.requirements, term.SatisfiedBy labels

section Counting

variable {t : TopologyGroup} {pod : Pod}

/-- A group that honors node affinity counts by the defined labels. -/
theorem counts_honor_iff (honor : t.nodeFilter.affinityPolicy = some .honor)
    (toleratesTaint : Toleration → Taint → Bool) (taints : List Taint) (requirements : Requirements) :
    t.counts toleratesTaint pod taints requirements = true ↔ t.selects pod = true ∧
      (t.nodeFilter.requirements = [] ∨ t.MayCount ∅ requirements) ∧ t.TaintsPass toleratesTaint taints := by
  have terms : t.nodeFilter.matchesRequirements requirements = true ↔
      t.nodeFilter.requirements = [] ∨ t.MayCount ∅ requirements := by
    simp only [TopologyNodeFilter.matchesRequirements, honor, Bool.or_eq_true, List.isEmpty_iff, List.any_eq_true,
      Requirements.isCompatible_iff_completes, MayCount]
    simp
    tauto
  rw [counts, TopologyNodeFilter.matches_, Bool.and_eq_true, Bool.and_eq_true, Bool.or_eq_true, Bool.or_eq_true, terms,
    TaintsPass]
  simp [honor, imp_iff_not_or]

/-- A group that honors node affinity counts every pod that may land on a counted node, for any values of the
undefined well-known labels, exactly if such a node needs no value for them. -/
theorem counts_wellKnown_iff (honor : t.nodeFilter.affinityPolicy = some .honor) (selected : t.selects pod = true)
    (toleratesTaint : Toleration → Taint → Bool) (wellKnown : Finset String) (taints : List Taint)
    (requirements : Requirements) : (t.MayCount wellKnown requirements → t.TaintsPass toleratesTaint taints →
        t.counts toleratesTaint pod taints requirements = true) ↔
      (t.MayCount wellKnown requirements → t.TaintsPass toleratesTaint taints → t.MayCount ∅ requirements) := by
  refine imp_congr_right fun may => imp_congr_right fun passes => ?_
  rw [counts_honor_iff honor]
  constructor
  · rintro ⟨-, noTerms | plain, -⟩
    · obtain ⟨labels, -, term, listed, -⟩ := may
      rw [noTerms] at listed
      cases listed
    · exact plain
  · exact fun plain => ⟨selected, .inr plain, passes⟩

end Counting

/-- Requirements for some zones. -/
def zoneRequirements (zones : List String) : Requirements :=
  Requirements.newRequirements [newRequirement "topology.kubernetes.io/zone" .opIn zones]

/-- A spread over zones of pods that ask for one zone. -/
def zoneSpread : TopologyGroup :=
  ofConstraint .spread "topology.kubernetes.io/zone" {"default"} (some ⟨"", fun _ => true⟩) 1 none
    { requirements := [zoneRequirements ["a"]], affinityPolicy := some .honor }

def zonePod : Pod where
  key := ⟨"default", "web"⟩

/-- The pod is counted on a NodeClaim for two zones. -/
theorem counts_wellKnown_zones :
    zoneSpread.counts (fun _ _ => false) zonePod [] (zoneRequirements ["a", "b"]) = true := by
  obtain ⟨labels, completes, satisfied⟩ :=
    (Requirements.isCompatible_iff_completes (zoneRequirements ["a", "b"]) (zoneRequirements ["a"])).mp
      (by decide +kernel)
  have plain : zoneSpread.MayCount ∅ (zoneRequirements ["a", "b"]) :=
    ⟨labels, completes, _, List.mem_singleton_self _, satisfied⟩
  exact (counts_wellKnown_iff rfl (by decide +kernel) _ ∅ [] _).mpr (fun _ _ => plain) plain (fun _ => rfl)

/-- On a NodeClaim that leaves the zone open it is not counted, though the node may end up in the zone. -/
theorem counts_wellKnown_undefined : zoneSpread.selects zonePod = true ∧ zoneSpread.TaintsPass (fun _ _ => false) [] ∧
      zoneSpread.MayCount {"topology.kubernetes.io/zone"} Requirements.empty ∧
      zoneSpread.counts (fun _ _ => false) zonePod [] Requirements.empty = false := by
  refine ⟨by decide +kernel, fun _ => rfl, ?_, by decide +kernel⟩
  refine ⟨fun key => if key = "topology.kubernetes.io/zone" then some "a" else none, fun key => ?_, _,
    List.mem_singleton_self _, fun key requirement found => ?_⟩
  · rw [Requirements.get?_empty]
    by_cases zone : key = "topology.kubernetes.io/zone"
    · exact .inl (by simp [zone])
    · exact .inr (if_neg zone)
  · simp only [zoneRequirements, Requirements.newRequirements, Requirements.add, List.foldl_cons, List.foldl_nil,
      Requirements.get?_addOne, Requirements.get?_empty] at found
    split at found
    · rename_i zone
      cases found
      rw [zone]
      decide +kernel
    · cases found

section Updates

variable {t : TopologyGroup}

theorem unregisterOne_sameRule (t : TopologyGroup) (domain : String) : (t.unregisterOne domain).SameRule t :=
  ⟨rfl, rfl, rfl, rfl, rfl, rfl, rfl, rfl⟩

theorem apply_sameRule (t : TopologyGroup) (update : DomainUpdate) : (t.apply update).SameRule t := by
  cases update with
  | register domains => exact foldl_sameRule register_sameRule domains
  | unregister domains => exact foldl_sameRule unregisterOne_sameRule domains
  | record domains => exact t.record_sameRule domains

/-- Whatever is registered in the end was registered before or is named by the steps. -/
theorem registered_foldl
    (each : ∀ t named domain, domain ∈ (step t named).registered → domain = named ∨ domain ∈ t.registered)
    {domains : List String} (member : domain ∈ (domains.foldl step t).registered) :
    domain ∈ domains ∨ domain ∈ t.registered := by
  induction domains generalizing t with
  | nil => exact .inr member
  | cons first rest ih =>
    rcases ih member with later | before
    · exact .inl (List.mem_cons_of_mem _ later)
    · rcases each t first domain before with rfl | earlier
      · exact .inl List.mem_cons_self
      · exact .inr earlier

theorem registered_register (t : TopologyGroup) (named domain : String)
    (member : domain ∈ (t.register named).registered) : domain = named ∨ domain ∈ t.registered := by
  unfold register at member
  split at member
  · exact .inr member
  · rw [mem_registered, registerOne, Map.lookup_insert_eq] at member
    split at member
    · rename_i same
      exact .inl same
    · exact .inr ((t.mem_registered domain).mpr member)

theorem registered_unregisterOne (t : TopologyGroup) (named domain : String)
    (member : domain ∈ (t.unregisterOne named).registered) : domain = named ∨ domain ∈ t.registered := by
  rw [mem_registered, unregisterOne, Map.lookup_erase_eq] at member
  split at member
  · cases member
  · exact .inr ((t.mem_registered domain).mpr member)

theorem registered_apply {update : DomainUpdate} (member : domain ∈ (t.apply update).registered) :
    domain ∈ update.domains ∨ domain ∈ t.registered := by
  cases update with
  | register domains => exact registered_foldl registered_register member
  | unregister domains => exact registered_foldl registered_unregisterOne member
  | record domains => exact registered_foldl (fun t named domain => (t.registered_recordOne named domain).mp) member

theorem named_of_updates {updates : List DomainUpdate} (named : ∀ update ∈ updates, "" ∉ update.domains)
    (start : "" ∉ t.registered) : "" ∉ (updates.foldl apply t).registered :=
  List.foldlRecOn (motive := fun t : TopologyGroup => "" ∉ t.registered) updates apply start
    fun _ start update listed member => (registered_apply member).elim (named update listed) start

end Updates

section Choice

variable {t : TopologyGroup} {podDomains nodeDomains : Requirement}

/-- What the choice compares with: the least count over the domains the pod admits, zero if there are too few of
them, and more than any count if there are none. -/
structure LeastCount (t : TopologyGroup) (podDomains : Requirement) (least : Int) : Prop where
  tooFew : t.TooFew podDomains → least = 0
  attained : ¬ t.TooFew podDomains → (t.admissible podDomains).Nonempty →
    IsLeast {count : Int | ∃ domain ∈ t.admissible podDomains, (t.count domain : Int) = count} least
  unbounded : ¬ t.TooFew podDomains → t.admissible podDomains = ∅ → ∀ domain, (t.count domain : Int) < least

theorem foldl_min_cases (entries : List (Sigma fun _ : String => Nat)) (start : Int) :
    entries.foldl (fun least entry => min least (entry.2 : Int)) start = start ∨
      ∃ entry ∈ entries, entries.foldl (fun least entry => min least (entry.2 : Int)) start = entry.2 := by
  refine List.foldlRecOn (motive := fun least => least = start ∨ ∃ entry ∈ entries, least = entry.2) entries _ (.inl rfl)
    fun least kept entry member => ?_
  rcases min_choice least (entry.2 : Int) with same | same
  · rw [same]
    exact kept
  · exact .inr ⟨entry, member, same⟩

/-- The code computes the least count, as long as the counters stay below the largest number. -/
theorem leastCount_domainMinCount (elsewhere : t.key ≠ labelHostname)
    (small : ∀ domain, (t.count domain : Int) < maxInt32) : t.LeastCount podDomains (t.domainMinCount podDomains) := by
  obtain ⟨zero, below⟩ := t.domainMinCount_spec podDomains elsewhere
  have enough_eq (enough : ¬ t.TooFew podDomains) : t.domainMinCount podDomains =
      (t.domains.entries.filter fun entry => podDomains.has entry.1).foldl
        (fun least entry => min least (entry.2 : Int)) maxInt32 := by
    rw [domainMinCount, if_neg elsewhere]
    refine if_neg fun few => enough ?_
    obtain ⟨least, given, fewer⟩ := (Option.any_eq_true _ _).mp few
    rw [length_supported] at fewer
    exact ⟨least, given, of_decide_eq_true fewer⟩
  refine ⟨zero, fun enough nonempty => ⟨?_, ?_⟩, fun enough none_ domain => ?_⟩
  · obtain ⟨some_, member⟩ := nonempty
    have computed := enough_eq enough
    rcases foldl_min_cases (t.domains.entries.filter fun entry => podDomains.has entry.1) maxInt32 with
      largest | ⟨entry, supported, same⟩
    · have bounded := below some_ member
      rw [computed, largest] at bounded
      exact absurd (small some_) (not_lt.mpr bounded)
    · obtain ⟨stored, admitted⟩ := List.mem_filter.mp supported
      have found : t.domains.lookup entry.1 = some entry.2 := Map.mem_entries_iff.mp stored
      refine ⟨entry.1, Finset.mem_filter.mpr ⟨(t.mem_registered _).mpr (by rw [found]; rfl), admitted⟩, ?_⟩
      rw [computed, same, count, found, Option.getD_some]
  · rintro count ⟨domain, member, rfl⟩
    exact below domain member
  · have supported : (t.domains.entries.filter fun entry => podDomains.has entry.1) = [] := by
      rw [← List.length_eq_zero_iff, length_supported, none_, Finset.card_empty]
    rw [enough_eq enough, supported]
    exact small domain

/-- The domain that the loop picks is none, or one of least count. -/
def PicksLeast (t : TopologyGroup) (selfSelecting : Bool) (choice : SpreadChoice) : Prop :=
  (choice.validDomains = ∅ ∧ choice.minDomain = "" ∧ choice.minCount = maxInt32) ∨
    choice.minDomain ∈ choice.validDomains ∧ choice.minCount = t.load selfSelecting choice.minDomain ∧
      ∀ domain ∈ choice.validDomains, choice.minCount ≤ t.load selfSelecting domain

variable {min : Int} {selfSelecting : Bool}

theorem PicksLeast.step (picks : t.PicksLeast selfSelecting choice)
    (small : ∀ domain, t.load selfSelecting domain < maxInt32) (domain : String) :
    t.PicksLeast selfSelecting (t.considerDomain min selfSelecting choice domain) := by
  by_cases within : t.WithinSkew min selfSelecting domain
  · right
    rw [considerDomain_of_within within]
    by_cases less : t.load selfSelecting domain < choice.minCount
    · rw [if_pos less]
      refine ⟨Finset.mem_insert_self _ _, rfl, fun other member => ?_⟩
      rcases Finset.mem_insert.mp member with rfl | before
      · exact le_rfl
      · rcases picks with ⟨none_, -, -⟩ | ⟨-, -, least⟩
        · rw [none_] at before
          cases before
        · exact less.le.trans (least other before)
    · rw [if_neg less]
      rcases picks with ⟨-, -, largest⟩ | ⟨chosen, same, least⟩
      · exact absurd (small domain) (largest ▸ less)
      · refine ⟨Finset.mem_insert_of_mem chosen, same, fun other member => ?_⟩
        rcases Finset.mem_insert.mp member with rfl | before
        · exact not_lt.mp less
        · exact least other before
  · rwa [considerDomain_of_not_within within]

theorem picksLeast_foldl (small : ∀ domain, t.load selfSelecting domain < maxInt32) (visited : List String) :
    t.PicksLeast selfSelecting (visited.foldl (t.considerDomain min selfSelecting) {}) := by
  induction visited using List.reverseRecOn with
  | nil => exact .inl ⟨rfl, rfl, rfl⟩
  | append_singleton before domain ih =>
    rw [List.foldl_concat]
    exact ih.step small domain

variable {orders : Orders} {pod : Pod}

theorem mem_admissible : domain ∈ t.admissible requirement ↔ domain ∈ t.registered ∧ requirement.has domain = true := Finset.mem_filter

/-- A requirement that lists values admits these. -/
theorem mem_values_of_opIn (listed : nodeDomains.operator = .opIn) (domain : String) :
    domain ∈ nodeDomains.values ↔ nodeDomains.has domain = true := by
  have concrete : nodeDomains.complement = false := by
    rw [Requirement.operator_eq] at listed
    cases kind : nodeDomains.complement with
    | false => rfl
    | true =>
      rw [kind, if_pos rfl] at listed
      split at listed <;> cases listed
  exact (nodeDomains.has_concrete concrete domain).symm

theorem mem_nodeDomainsInOrder (order : RangeOrder String) (domain : String) :
    domain ∈ t.nodeDomainsInOrder order nodeDomains ∧ domain ∈ t.registered ↔ domain ∈ t.admissible nodeDomains := by
  rw [mem_admissible, nodeDomainsInOrder]
  split
  · rename_i listed
    rw [RangeOrder.mem_visit, mem_values_of_opIn listed, and_comm]
  · rw [List.mem_filter, RangeOrder.mem_visit]
    tauto

theorem antiAffinity_exact (kind : t.type = .podAntiAffinity) (elsewhere : t.key ≠ labelHostname) (domain : String) :
    (t.get orders pod podDomains nodeDomains).1.has domain = true ↔
      domain ∈ t.admissible podDomains ∧ domain ∈ t.admissible nodeDomains ∧ t.count domain = 0 := by
  have empty : domain ∈ t.emptyDomains ↔ domain ∈ t.registered ∧ t.count domain = 0 := by
    rw [t.mem_empty, mem_registered, count]
    cases t.domains.lookup domain <;> simp
  rw [get, kind]
  rw [nextDomainAntiAffinity, t.hostName_eq_none nodeDomains elsewhere]
  dsimp only
  split
  · rename_i short
    rw [has_options, Finset.mem_filter, mem_values_of_opIn short.1, Bool.and_eq_true, decide_eq_true_eq, empty,
      mem_admissible, mem_admissible]
    tauto
  · rw [has_options, Finset.mem_filter, Bool.and_eq_true, empty, mem_admissible, mem_admissible]
    tauto

theorem mem_occupiedDomains_iff (domain : String) : domain ∈ t.occupiedDomains podDomains nodeDomains ↔
    domain ∈ t.admissible podDomains ∧ domain ∈ t.admissible nodeDomains ∧ 0 < t.count domain := by
  have known : 0 < t.count domain → domain ∈ t.registered := fun counted =>
    (t.mem_registered domain).mpr (by rw [lookup_of_count_pos counted]; rfl)
  rw [mem_admissible, mem_admissible, occupiedDomains]
  split
  · rename_i listed
    rw [Finset.mem_filter, mem_values_of_opIn listed, Bool.and_eq_true, decide_eq_true_eq]
    tauto
  · rw [Finset.mem_filter, Bool.and_eq_true, Bool.and_eq_true, decide_eq_true_eq]
    tauto

theorem affinity_exact (kind : t.type = .podAffinity) (elsewhere : t.key ≠ labelHostname)
    (exists_ : occupied ∈ t.admissible podDomains ∧ occupied ∈ t.admissible nodeDomains ∧ 0 < t.count occupied)
    (domain : String) : (t.get orders pod podDomains nodeDomains).1.has domain = true ↔
      domain ∈ t.admissible podDomains ∧ domain ∈ t.admissible nodeDomains ∧ 0 < t.count domain := by
  have some_ : t.occupiedDomains podDomains nodeDomains ≠ ∅ :=
    Finset.ne_empty_of_mem ((mem_occupiedDomains_iff occupied).mpr exists_)
  rw [get_of_affinity kind elsewhere, has_options, affinityDomains, if_pos some_, mem_occupiedDomains_iff]

/-- A spread lists the domains of the node within the skew and picks one of least count. -/
structure SpreadsOver (t : TopologyGroup) (pod : Pod) (nodeDomains : Requirement) (least : Int)
    (answer : Requirement × Finset String) : Prop where
  valid : ∀ domain, domain ∈ answer.2 ↔
    domain ∈ t.admissible nodeDomains ∧ t.load (t.selects pod) domain - least ≤ t.maxSkew
  choice : answer.2 = ∅ ∧ answer.1 = t.options ∅ ∨
    ∃ chosen ∈ answer.2, answer.1 = t.options {chosen} ∧ ∀ other ∈ answer.2, t.count chosen ≤ t.count other

theorem spread_exact (kind : t.type = .spread) (elsewhere : t.key ≠ labelHostname) (named : "" ∉ t.registered)
    (small : ∀ domain, (t.count domain : Int) + 1 < maxInt32) :
    t.SpreadsOver pod nodeDomains (t.domainMinCount podDomains) (t.get orders pod podDomains nodeDomains) := by
  have loads : ∀ domain, t.load (t.selects pod) domain < maxInt32 := by
    intro domain
    have := small domain
    unfold load
    split <;> omega
  have picks := t.picks_foldl (t.domainMinCount podDomains) (t.selects pod)
    (t.nodeDomainsInOrder orders.first nodeDomains)
  have picked := @picksLeast_foldl t (t.domainMinCount podDomains) (t.selects pod) loads
    (t.nodeDomainsInOrder orders.first nodeDomains)
  rw [get_of_spread kind elsewhere]
  generalize (t.nodeDomainsInOrder orders.first nodeDomains).foldl _ _ = choice at picks picked ⊢
  have valid : ∀ domain, domain ∈ choice.validDomains ↔ domain ∈ t.admissible nodeDomains ∧
      t.load (t.selects pod) domain - t.domainMinCount podDomains ≤ t.maxSkew := by
    intro domain
    rw [picks.valid, WithinSkew, ← load, ← and_assoc, mem_nodeDomainsInOrder]
  rcases picked with ⟨none_, unset, -⟩ | ⟨chosen, same, least⟩
  · rw [if_pos unset]
    exact ⟨valid, .inl ⟨none_, rfl⟩⟩
  · have set_ : choice.minDomain ≠ "" := by
      intro unset
      rw [unset, valid, mem_admissible] at chosen
      exact named chosen.1.1
    rw [if_neg set_]
    refine ⟨valid, .inr ⟨choice.minDomain, chosen, rfl, fun other member => ?_⟩⟩
    have bound := least other member
    rw [same, load, load] at bound
    omega

/-- What each kind of constraint is to choose for a pod and a node. A spread compares with the largest number a
counter holds, so the counters have to stay below it. -/
structure ChoosesDomains (t : TopologyGroup) (orders : Orders) (pod : Pod) (podDomains nodeDomains : Requirement) :
    Prop where
  antiAffinity : t.type = .podAntiAffinity → ∀ domain,
    (t.get orders pod podDomains nodeDomains).1.has domain = true ↔
      domain ∈ t.admissible podDomains ∧ domain ∈ t.admissible nodeDomains ∧ t.count domain = 0
  affinity : t.type = .podAffinity →
    (∃ domain, domain ∈ t.admissible podDomains ∧ domain ∈ t.admissible nodeDomains ∧ 0 < t.count domain) → ∀ domain,
    (t.get orders pod podDomains nodeDomains).1.has domain = true ↔
      domain ∈ t.admissible podDomains ∧ domain ∈ t.admissible nodeDomains ∧ 0 < t.count domain
  spread : t.type = .spread → (∀ domain, (t.count domain : Int) + 1 < maxInt32) →
    ∃ least, t.LeastCount podDomains least ∧
      t.SpreadsOver pod nodeDomains least (t.get orders pod podDomains nodeDomains)

/-- Whatever was registered, unregistered and recorded since the group was made, and in whatever order the domains
are visited, the choice is the one of the constraint. -/
theorem choosesDomains_of_updates (type : TopologyType) (key : String) (namespaces : Finset String)
    (rawSelector : Option LabelSelector) (maxSkew : Int) (minDomains : Option Int) (nodeFilter : TopologyNodeFilter)
    (elsewhere : key ≠ labelHostname) (updates : List DomainUpdate) (named : ∀ update ∈ updates, "" ∉ update.domains)
    (orders : Orders) (pod : Pod) (podDomains nodeDomains : Requirement) :
    (updates.foldl apply (ofConstraint type key namespaces rawSelector maxSkew minDomains nodeFilter)).ChoosesDomains
      orders pod podDomains nodeDomains := by
  have sameRule : (updates.foldl apply (ofConstraint type key namespaces rawSelector maxSkew minDomains
      nodeFilter)).SameRule (ofConstraint type key namespaces rawSelector maxSkew minDomains nodeFilter) :=
    foldl_sameRule apply_sameRule updates
  have registered := named_of_updates named
    (show "" ∉ (ofConstraint type key namespaces rawSelector maxSkew minDomains nodeFilter).registered from by
      simp [mem_registered, ofConstraint])
  generalize updates.foldl apply (ofConstraint type key namespaces rawSelector maxSkew minDomains nodeFilter) = t
    at sameRule registered ⊢
  have notHost : t.key ≠ labelHostname := by
    rw [sameRule.key]
    exact elsewhere
  refine ⟨fun kind => antiAffinity_exact kind notHost, fun kind ⟨_, occupied⟩ => affinity_exact kind notHost occupied,
    fun kind small => ⟨t.domainMinCount podDomains, ?_, spread_exact kind notHost registered small⟩⟩
  exact leastCount_domainMinCount notHost fun domain => lt_trans (lt_add_one _) (small domain)

/-- Two zones, one with a pod, and a pod and a node open to both. -/
theorem choosesDomains_zones : ([DomainUpdate.register ["a", "b"], .record ["a"]].foldl apply zoneSpread).ChoosesDomains
      ⟨.listed [], .listed []⟩ zonePod (newRequirement "topology.kubernetes.io/zone" .opExists [])
      (newRequirement "topology.kubernetes.io/zone" .opExists []) :=
  choosesDomains_of_updates .spread "topology.kubernetes.io/zone" {"default"} (some ⟨"", fun _ => true⟩) 1 none
    { requirements := [zoneRequirements ["a"]], affinityPolicy := some .honor } (by decide) _
    (by simp [DomainUpdate.domains]) _ _ _ _

end Choice

end TopologyGroup

end Karpenter.Provisioning
