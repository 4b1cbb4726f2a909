import Karpenter.Provisioning.NodeClaim
import Mathlib.Data.Finset.Option

/-! One topology constraint and the domains it counts. Go ranges over the domains in an order of its own, so
every loop whose result depends on that order takes the order as an argument. Counters are numbers of pods
and never overflow. -/
namespace Karpenter.Provisioning

open Go (Map RangeOrder)
open Scheduling

inductive TopologyType where
  | spread
  | podAffinity
  | podAntiAffinity
  deriving DecidableEq

inductive NodeInclusionPolicy where
  | ignore
  | honor
  deriving DecidableEq

/-- A label selector, with the test on pods that the Kubernetes API library makes of it. -/
structure LabelSelector where
  raw : String
  matches_ : Pod → Bool

/-- Which nodes count. A policy that is not set, as in the filter of an affinity, excludes none. -/
structure TopologyNodeFilter where
  requirements : List Requirements := []
  taintPolicy : Option NodeInclusionPolicy := none
  affinityPolicy : Option NodeInclusionPolicy := none
  tolerations : List Toleration := []

namespace TopologyNodeFilter

/-- Labels that the node leaves open never count as present here, whatever the caller allows. -/
def matchesRequirements (t : TopologyNodeFilter) (requirements : Requirements) : Bool :=
  t.requirements.isEmpty || decide (t.affinityPolicy = some .ignore) ||
    t.requirements.any fun required => requirements.isCompatible required ∅

def matches_ (toleratesTaint : Toleration → Taint → Bool) (t : TopologyNodeFilter) (taints : List Taint)
    (requirements : Requirements) : Bool :=
  (decide (t.affinityPolicy ≠ some .honor) || t.matchesRequirements requirements) &&
    (decide (t.taintPolicy ≠ some .honor) || toleratesTaints toleratesTaint taints t.tolerations)

end TopologyNodeFilter

/-- A domain is empty exactly when it is registered and counts nothing; only a spread filters nodes. -/
structure TopologyGroup where
  key : String
  type : TopologyType
  maxSkew : Int
  minDomains : Option Int := none
  namespaces : Finset String
  rawSelector : Option LabelSelector
  nodeFilter : TopologyNodeFilter := {}
  owners : Finset String := ∅
  domains : Map String Nat := ∅
  emptyDomains : Finset String := ∅
  mem_empty : ∀ domain, domain ∈ emptyDomains ↔ domains.lookup domain = some 0
  unfiltered : type ≠ .spread → nodeFilter = {}

/-- The changes that a topology makes to the domains of a group. -/
inductive DomainUpdate where
  | register (domains : List String)
  | unregister (domains : List String)
  | record (domains : List String)

/-- The domains that an update names. -/
def DomainUpdate.domains : DomainUpdate → List String
  | .register domains => domains
  | .unregister domains => domains
  | .record domains => domains

namespace TopologyGroup

theorem mem_empty_record {domains : Map String Nat} {emptyDomains : Finset String}
    (consistent : ∀ domain, domain ∈ emptyDomains ↔ domains.lookup domain = some 0) (recorded : String)
    (count : Nat) (domain : String) : domain ∈ emptyDomains.erase recorded ↔
      (domains.insert recorded (count + 1)).lookup domain = some 0 := by
  rw [Finset.mem_erase, consistent, Map.lookup_insert_eq]
  split <;> simp_all

theorem mem_empty_register {domains : Map String Nat} {emptyDomains : Finset String}
    (consistent : ∀ domain, domain ∈ emptyDomains ↔ domains.lookup domain = some 0) (registered domain : String) :
    domain ∈ insert registered emptyDomains ↔ (domains.insert registered 0).lookup domain = some 0 := by
  rw [Finset.mem_insert, consistent, Map.lookup_insert_eq]
  split <;> simp_all

theorem mem_empty_unregister {domains : Map String Nat} {emptyDomains : Finset String}
    (consistent : ∀ domain, domain ∈ emptyDomains ↔ domains.lookup domain = some 0) (removed domain : String) :
    domain ∈ emptyDomains.erase removed ↔ (domains.erase removed).lookup domain = some 0 := by
  rw [Finset.mem_erase, consistent]
  by_cases same : domain = removed
  · subst same
    simp
  · simp [same, AList.lookup_erase_ne same]

theorem mem_empty_none (domain : String) :
    domain ∈ (∅ : Finset String) ↔ (∅ : Map String Nat).lookup domain = some 0 := by
  simp

theorem unfiltered_choice (type : TopologyType) (nodeFilter : TopologyNodeFilter) (kind : type ≠ .spread) :
    (if type = .spread then nodeFilter else {}) = {} :=
  if_neg kind

/-- A constraint before any domain is registered. -/
def ofConstraint (type : TopologyType) (key : String) (namespaces : Finset String)
    (rawSelector : Option LabelSelector) (maxSkew : Int) (minDomains : Option Int) (nodeFilter : TopologyNodeFilter) :
    TopologyGroup where
  key := key
  type := type
  maxSkew := maxSkew
  minDomains := minDomains
  namespaces := namespaces
  rawSelector := rawSelector
  nodeFilter := if type = .spread then nodeFilter else {}
  mem_empty := mem_empty_none
  unfiltered := unfiltered_choice type nodeFilter

variable (t : TopologyGroup)

/-- The pods counted for a domain; none for one that is not registered. -/
def count (domain : String) : Nat := (t.domains.lookup domain).getD 0

def recordOne (domain : String) : TopologyGroup :=
  { t with
    domains := t.domains.insert domain (t.count domain + 1)
    emptyDomains := t.emptyDomains.erase domain
    mem_empty := mem_empty_record t.mem_empty domain (t.count domain) }

def record (domains : List String) : TopologyGroup := domains.foldl recordOne t

def registerOne (domain : String) : TopologyGroup :=
  { t with
    domains := t.domains.insert domain 0
    emptyDomains := insert domain t.emptyDomains
    mem_empty := mem_empty_register t.mem_empty domain }

/-- A domain that is registered keeps its count. -/
def register (domain : String) : TopologyGroup :=
  if (t.domains.lookup domain).isSome then t else t.registerOne domain

def unregisterOne (domain : String) : TopologyGroup :=
  { t with
    domains := t.domains.erase domain
    emptyDomains := t.emptyDomains.erase domain
    mem_empty := mem_empty_unregister t.mem_empty domain }

def apply : DomainUpdate → TopologyGroup
  | .register domains => domains.foldl register t
  | .unregister domains => domains.foldl unregisterOne t
  | .record domains => t.record domains

def addOwner (key : String) : TopologyGroup := { t with owners := insert key t.owners }

def removeOwner (key : String) : TopologyGroup := { t with owners := t.owners.erase key }

def isOwnedBy (key : String) : Bool := decide (key ∈ t.owners)

/-- A constraint without a selector selects nothing. -/
def selects (pod : Pod) : Bool :=
  decide (pod.key.namespaceName ∈ t.namespaces) && t.rawSelector.any (·.matches_ pod)

/-- The pod would count if it went to a node with these requirements. -/
def counts (toleratesTaint : Toleration → Taint → Bool) (t : TopologyGroup) (pod : Pod) (taints : List Taint)
    (requirements : Requirements) : Bool :=
  t.selects pod && t.nodeFilter.matches_ toleratesTaint taints requirements

def registered : Finset String := t.domains.keys.toFinset

/-- A requirement for exactly these domains; without any it asks for the label to be absent. -/
def options (values : Finset String) : Requirement := newConcrete t.key none values

/-- The host name, when the constraint is on host names and the node has one. -/
def hostName (order : RangeOrder String) (nodeDomains : Requirement) : Option String :=
  match decide (t.key = labelHostname), order.visit nodeDomains.values with
  | true, [only] => some only
  | _, _ => none

def maxInt32 : Int := 2147483647

/-- The least count over the registered domains that the pod admits. A new host can always be made, and too
few domains count as one more that is empty. -/
def domainMinCount (podDomains : Requirement) : Int :=
  if t.key = labelHostname then 0
  else
    let supported := t.domains.entries.filter fun entry => podDomains.has entry.1
    if t.minDomains.any ((supported.length : Int) < ·) then 0
    else supported.foldl (fun least entry => min least (entry.2 : Int)) maxInt32

structure SpreadChoice where
  minDomain : String := ""
  minCount : Int := maxInt32
  validDomains : Finset String := ∅

def considerDomain (min : Int) (selfSelecting : Bool) (choice : SpreadChoice) (domain : String) : SpreadChoice :=
  match t.domains.lookup domain with
  | none => choice
  | some stored =>
    let count : Int := if selfSelecting then stored + 1 else stored
    if count - min ≤ t.maxSkew then
      { minDomain := if count < choice.minCount then domain else choice.minDomain
        minCount := if count < choice.minCount then count else choice.minCount
        validDomains := insert domain choice.validDomains }
    else choice

/-- The node's own values when it lists them, otherwise the registered domains that it admits. -/
def nodeDomainsInOrder (order : RangeOrder String) (nodeDomains : Requirement) : List String :=
  if nodeDomains.operator = .opIn then order.visit nodeDomains.values
  else (order.visit t.registered).filter nodeDomains.has

/-- A least loaded domain within the skew, and all domains within it. -/
def nextDomainTopologySpread (order : RangeOrder String) (pod : Pod) (podDomains nodeDomains : Requirement) :
    Requirement × Finset String :=
  let selfSelecting := t.selects pod
  match t.hostName order nodeDomains with
  | some hostName =>
    let count : Int := if selfSelecting then t.count hostName + 1 else t.count hostName
    if count ≤ t.maxSkew then (t.options {hostName}, {hostName}) else (t.options ∅, ∅)
  | none =>
    let choice := (t.nodeDomainsInOrder order nodeDomains).foldl
      (t.considerDomain (t.domainMinCount podDomains) selfSelecting) {}
    if choice.minDomain = "" then (t.options ∅, choice.validDomains)
    else (t.options {choice.minDomain}, choice.validDomains)

def anyCompatiblePodDomain (podDomains : Requirement) : Bool :=
  t.domains.entries.any fun entry => podDomains.has entry.1 && decide (0 < entry.2)

/-- The pod may start the group: it selects itself, and no pod was placed where this one could go. -/
def mayBootstrap (pod : Pod) (podDomains : Requirement) : Bool :=
  t.selects pod && (decide (t.registered.card = t.emptyDomains.card) || !t.anyCompatiblePodDomain podDomains)

/-- The first registered domain that passes the test. -/
def firstDomain (order : RangeOrder String) (admits : String → Bool) : Finset String :=
  ((order.visit t.registered).find? admits).toFinset

/-- Both loops run: the second one also when the first has found a domain. -/
def bootstrapDomains (first second : RangeOrder String) (podDomains nodeDomains : Requirement) : Finset String :=
  t.firstDomain first (podDomains.intersection nodeDomains).has ∪ t.firstDomain second podDomains.has

/-- The domains with pods that both the pod and the node admit. -/
def occupiedDomains (podDomains nodeDomains : Requirement) : Finset String :=
  if nodeDomains.operator = .opIn then
    nodeDomains.values.filter fun domain => podDomains.has domain && decide (0 < t.count domain)
  else
    t.registered.filter fun domain =>
      podDomains.has domain && decide (0 < t.count domain) && nodeDomains.has domain

/-- The domains an affinity leaves open. -/
def affinityDomains (first second : RangeOrder String) (pod : Pod) (podDomains nodeDomains : Requirement) :
    Finset String :=
  if t.occupiedDomains podDomains nodeDomains ≠ ∅ then t.occupiedDomains podDomains nodeDomains
  else if t.mayBootstrap pod podDomains then t.bootstrapDomains first second podDomains nodeDomains
  else ∅

def nextDomainAffinity (first second : RangeOrder String) (pod : Pod) (podDomains nodeDomains : Requirement) :
    Requirement :=
  match t.hostName first nodeDomains with
  | some hostName =>
    if !podDomains.has hostName then t.options ∅
    else if 0 < t.count hostName then t.options {hostName}
    else if t.mayBootstrap pod podDomains then t.options {hostName}
    else t.options ∅
  | none => t.options (t.affinityDomains first second pod podDomains nodeDomains)

def nextDomainAntiAffinity (order : RangeOrder String) (podDomains nodeDomains : Requirement) : Requirement :=
  match t.hostName order nodeDomains with
  | some hostName => if t.count hostName = 0 then t.options {hostName} else t.options ∅
  | none =>
    if nodeDomains.operator = .opIn ∧ nodeDomains.len < t.emptyDomains.card then
      t.options (nodeDomains.values.filter fun domain =>
        decide (domain ∈ t.emptyDomains) && podDomains.has domain)
    else
      t.options (t.emptyDomains.filter fun domain => nodeDomains.has domain && podDomains.has domain)

/-- The orders in which one call ranges over the domains of a group. -/
structure Orders where
  first : RangeOrder String
  second : RangeOrder String

/-- The domains the pod may go to, as a requirement and as a set. -/
def get (orders : Orders) (pod : Pod) (podDomains nodeDomains : Requirement) : Requirement × Finset String :=
  match t.type with
  | .spread => t.nextDomainTopologySpread orders.first pod podDomains nodeDomains
  | .podAffinity =>
    let requirement := t.nextDomainAffinity orders.first orders.second pod podDomains nodeDomains
    (requirement, requirement.values)
  | .podAntiAffinity =>
    let requirement := t.nextDomainAntiAffinity orders.first podDomains nodeDomains
    (requirement, requirement.values)

section Counting

variable (t : TopologyGroup)

@[simp] theorem count_recordOne (recorded domain : String) :
    (t.recordOne recorded).count domain = t.count domain + if domain = recorded then 1 else 0 := by
  rw [count, recordOne, Map.lookup_insert_eq]
  split
  · rename_i same
    rw [same, Option.getD_some]
  · rfl

theorem mem_registered (domain : String) : domain ∈ t.registered ↔ (t.domains.lookup domain).isSome = true := by
  rw [registered, List.mem_toFinset, AList.lookup_isSome, AList.mem_keys]

theorem registered_recordOne (recorded domain : String) :
    domain ∈ (t.recordOne recorded).registered ↔ domain = recorded ∨ domain ∈ t.registered := by
  rw [mem_registered, mem_registered, recordOne, Map.lookup_insert_eq]
  split <;> simp_all

variable (domains : List String)

theorem count_record (domain : String) : (t.record domains).count domain = t.count domain + domains.count domain := by
  induction domains generalizing t with
  | nil => rfl
  | cons recorded rest ih =>
    have step := ih (t.recordOne recorded)
    rw [count_recordOne] at step
    rw [record, List.foldl_cons, ← record, step, List.count_cons]
    by_cases same : domain = recorded
    · simp [same]
      omega
    · simp [same, Ne.symm same]

theorem count_le_record (domain : String) : t.count domain ≤ (t.record domains).count domain := by
  rw [count_record]
  exact Nat.le_add_right _ _

theorem count_pos_record {domains : List String} (member : domain ∈ domains) : 0 < (t.record domains).count domain := by
  rw [count_record]
  have := List.count_pos_iff.mpr member
  omega

theorem mem_registered_record (domain : String) :
    domain ∈ (t.record domains).registered ↔ domain ∈ domains ∨ domain ∈ t.registered := by
  induction domains generalizing t with
  | nil => simp [record]
  | cons recorded rest ih =>
    rw [record, List.foldl_cons, ← record, ih, registered_recordOne, List.mem_cons]
    tauto

theorem registered_record {domains : List String} (known : ∀ domain ∈ domains, domain ∈ t.registered) (domain : String) :
    domain ∈ (t.record domains).registered ↔ domain ∈ t.registered := by
  rw [mem_registered_record]
  exact or_iff_right_of_imp (known domain)

@[simp] theorem count_register (registered domain : String) : (t.register registered).count domain = t.count domain := by
  unfold register
  split
  · rfl
  · rename_i unknown
    have absent : t.domains.lookup registered = none := by simpa using unknown
    rw [count, registerOne, Map.lookup_insert_eq, count]
    split
    · rename_i same
      rw [same, absent]
      rfl
    · rfl

end Counting

section Choosing

variable (t : TopologyGroup) (orders : Orders) (pod : Pod) (podDomains nodeDomains : Requirement)

variable (values : Finset String)

@[simp] theorem key_options : (t.options values).key = normalizeKey t.key := rfl

@[simp] theorem complement_options : (t.options values).complement = false := rfl

@[simp] theorem values_options : (t.options values).values = values := rfl

@[simp] theorem has_options (domain : String) : (t.options values).has domain = true ↔ domain ∈ values :=
  Requirement.has_concrete (t.options values) rfl domain

/-- Whatever the type, the answer lists domains of the key. -/
theorem get_eq_options : ∃ values, (t.get orders pod podDomains nodeDomains).1 = t.options values := by
  unfold get
  split
  · unfold nextDomainTopologySpread
    dsimp only
    repeat' split
    all_goals exact ⟨_, rfl⟩
  · unfold nextDomainAffinity
    repeat' split
    all_goals exact ⟨_, rfl⟩
  · unfold nextDomainAntiAffinity
    repeat' split
    all_goals exact ⟨_, rfl⟩

theorem hostName_eq_none (elsewhere : t.key ≠ labelHostname) : t.hostName order nodeDomains = none := by
  unfold hostName
  rw [decide_eq_false elsewhere]

variable {t orders pod podDomains nodeDomains} {domain : String}

theorem get_of_affinity (kind : t.type = .podAffinity) (elsewhere : t.key ≠ labelHostname) :
    (t.get orders pod podDomains nodeDomains).1 =
      t.options (t.affinityDomains orders.first orders.second pod podDomains nodeDomains) := by
  rw [get, kind]
  rw [nextDomainAffinity, t.hostName_eq_none nodeDomains elsewhere]

/-- Where pods are counted is found, on the node or not. -/
theorem mem_occupiedDomains (member : domain ∈ t.occupiedDomains podDomains nodeDomains) :
    podDomains.has domain = true ∧ 0 < t.count domain := by
  unfold occupiedDomains at member
  split at member
  · rw [Finset.mem_filter, Bool.and_eq_true, decide_eq_true_eq] at member
    exact member.2
  · rw [Finset.mem_filter, Bool.and_eq_true, Bool.and_eq_true, decide_eq_true_eq] at member
    exact member.2.1

theorem mem_firstDomain (member : domain ∈ t.firstDomain order admits) : admits domain = true := by
  rw [firstDomain, Option.mem_toFinset] at member
  exact List.find?_some member

/-- An affinity leaves open only what the pod admits. -/
theorem has_of_mem_affinityDomains (member : domain ∈ t.affinityDomains first second pod podDomains nodeDomains) :
    podDomains.has domain = true := by
  unfold affinityDomains at member
  split at member
  · exact (mem_occupiedDomains member).1
  · split at member
    · rcases Finset.mem_union.mp member with inFirst | inSecond
      · exact ((Requirement.has_intersection _ _ _).mp (mem_firstDomain inFirst)).1
      · exact mem_firstDomain inSecond
    · simp at member

theorem lookup_of_count_pos (counted : 0 < t.count domain) : t.domains.lookup domain = some (t.count domain) := by
  unfold count at counted ⊢
  cases found : t.domains.lookup domain with
  | none => simp [found] at counted
  | some stored => rfl

/-- A domain with pods that the pod admits rules out a fresh start. -/
theorem mayBootstrap_eq_false (counted : 0 < t.count domain) (admitted : podDomains.has domain = true) :
    t.mayBootstrap pod podDomains = false := by
  have found := lookup_of_count_pos counted
  have stored : (⟨domain, t.count domain⟩ : Sigma fun _ : String => Nat) ∈ t.domains.entries :=
    Map.mem_entries_iff.mpr found
  have inside : t.emptyDomains ⊂ t.registered := by
    refine Finset.ssubset_iff_subset_ne.mpr ⟨fun empty member => ?_, fun same => ?_⟩
    · rw [mem_registered, (t.mem_empty empty).mp member]
      rfl
    · have known : domain ∈ t.registered := (t.mem_registered domain).mpr (by rw [found]; rfl)
      rw [← same, t.mem_empty, found, Option.some.injEq] at known
      omega
  have compatible : t.anyCompatiblePodDomain podDomains = true :=
    List.any_eq_true.mpr ⟨_, stored, by simpa [admitted] using counted⟩
  have fewer := Finset.card_lt_card inside
  rw [mayBootstrap, compatible, decide_eq_false (by omega)]
  simp

/-- The pods in a domain, with the one that is placed if it counts itself. -/
def load (t : TopologyGroup) (selfSelecting : Bool) (domain : String) : Int :=
  (t.count domain : Int) + if selfSelecting then 1 else 0

/-- One more pod would keep the domain within the skew. -/
def WithinSkew (t : TopologyGroup) (min : Int) (selfSelecting : Bool) (domain : String) : Prop :=
  domain ∈ t.registered ∧ (t.count domain : Int) + (if selfSelecting then 1 else 0) - min ≤ t.maxSkew

theorem considerDomain_of_within {min : Int} (within : t.WithinSkew min selfSelecting domain) (choice : SpreadChoice) :
    t.considerDomain min selfSelecting choice domain =
      if t.load selfSelecting domain < choice.minCount then
        { minDomain := domain, minCount := t.load selfSelecting domain
          validDomains := insert domain choice.validDomains }
      else { choice with validDomains := insert domain choice.validDomains } := by
  obtain ⟨known, bounded⟩ := within
  obtain ⟨stored, found⟩ := Option.isSome_iff_exists.mp ((t.mem_registered domain).mp known)
  have amount : (if selfSelecting = true then (stored : Int) + 1 else stored) = t.load selfSelecting domain := by
    rw [load, count, found, Option.getD_some]
    split <;> omega
  rw [considerDomain, found]
  dsimp only
  rw [← load] at bounded
  rw [amount, if_pos bounded]
  by_cases less : t.load selfSelecting domain < choice.minCount
  · rw [if_pos less, if_pos less, if_pos less]
  · rw [if_neg less, if_neg less, if_neg less]

theorem considerDomain_of_not_within {min : Int} (outside : ¬ t.WithinSkew min selfSelecting domain)
    (choice : SpreadChoice) : t.considerDomain min selfSelecting choice domain = choice := by
  unfold considerDomain
  split
  · rfl
  · rename_i stored found
    refine if_neg fun bounded => outside ⟨(t.mem_registered domain).mpr (by rw [found]; rfl), ?_⟩
    rw [count, found, Option.getD_some]
    split at bounded <;> simp_all

/-- What the loop over the domains has found after some of them. -/
structure Picks (t : TopologyGroup) (min : Int) (selfSelecting : Bool) (visited : List String) (choice : SpreadChoice) :
    Prop where
  valid : ∀ domain, domain ∈ choice.validDomains ↔ domain ∈ visited ∧ t.WithinSkew min selfSelecting domain
  picked : choice.minDomain = "" ∨ choice.minDomain ∈ choice.validDomains

theorem picks_foldl (t : TopologyGroup) (min : Int) (selfSelecting : Bool) (visited : List String) :
    t.Picks min selfSelecting visited (visited.foldl (t.considerDomain min selfSelecting) {}) := by
  induction visited using List.reverseRecOn with
  | nil => exact ⟨by simp, .inl rfl⟩
  | append_singleton visited domain ih =>
    rw [List.foldl_concat]
    generalize visited.foldl (t.considerDomain min selfSelecting) {} = choice at ih ⊢
    by_cases within : t.WithinSkew min selfSelecting domain
    · have valid (other : String) : other ∈ insert domain choice.validDomains ↔
          other ∈ visited ++ [domain] ∧ t.WithinSkew min selfSelecting other := by
        rw [Finset.mem_insert, ih.valid, List.mem_append, List.mem_singleton]
        by_cases same : other = domain
        · simp [same, within]
        · simp [same]
      rw [considerDomain_of_within within]
      split
      · exact ⟨valid, .inr (Finset.mem_insert_self _ _)⟩
      · exact ⟨valid, ih.picked.imp_right Finset.mem_insert_of_mem⟩
    · rw [considerDomain_of_not_within within]
      refine ⟨fun other => ?_, ih.picked⟩
      rw [ih.valid, List.mem_append, List.mem_singleton]
      by_cases same : other = domain
      · simp [same, within]
      · simp [same]

/-- A spread answers with what the loop has found. -/
theorem get_of_spread (kind : t.type = .spread) (elsewhere : t.key ≠ labelHostname) :
    t.get orders pod podDomains nodeDomains =
      let choice := (t.nodeDomainsInOrder orders.first nodeDomains).foldl
        (t.considerDomain (t.domainMinCount podDomains) (t.selects pod)) {}
      if choice.minDomain = "" then (t.options ∅, choice.validDomains)
      else (t.options {choice.minDomain}, choice.validDomains) := by
  rw [get, kind]
  rw [nextDomainTopologySpread, t.hostName_eq_none nodeDomains elsewhere]

theorem withinSkew_of_spread (kind : t.type = .spread) (elsewhere : t.key ≠ labelHostname)
    (offered : (t.get orders pod podDomains nodeDomains).1.has domain = true) :
    t.WithinSkew (t.domainMinCount podDomains) (t.selects pod) domain := by
  have picks := t.picks_foldl (t.domainMinCount podDomains) (t.selects pod)
    (t.nodeDomainsInOrder orders.first nodeDomains)
  rw [get_of_spread kind elsewhere] at offered
  dsimp only at offered
  split at offered
  · simp at offered
  · rename_i found
    rw [has_options, Finset.mem_singleton] at offered
    rw [offered]
    exact ((picks.valid _).mp (picks.picked.resolve_left found)).2

end Choosing

/-- Two stages of one constraint: they may differ in what they have counted so far. -/
structure SameRule (t s : TopologyGroup) : Prop where
  key : t.key = s.key
  type : t.type = s.type
  maxSkew : t.maxSkew = s.maxSkew
  minDomains : t.minDomains = s.minDomains
  namespaces : t.namespaces = s.namespaces
  rawSelector : t.rawSelector = s.rawSelector
  nodeFilter : t.nodeFilter = s.nodeFilter
  owners : t.owners = s.owners

namespace SameRule

variable {t s u : TopologyGroup}

theorem refl (t : TopologyGroup) : t.SameRule t := ⟨rfl, rfl, rfl, rfl, rfl, rfl, rfl, rfl⟩

theorem trans (first : t.SameRule s) (second : s.SameRule u) : t.SameRule u where
  key := first.key.trans second.key
  type := first.type.trans second.type
  maxSkew := first.maxSkew.trans second.maxSkew
  minDomains := first.minDomains.trans second.minDomains
  namespaces := first.namespaces.trans second.namespaces
  rawSelector := first.rawSelector.trans second.rawSelector
  nodeFilter := first.nodeFilter.trans second.nodeFilter
  owners := first.owners.trans second.owners

theorem selects (same : t.SameRule s) (pod : Pod) : t.selects pod = s.selects pod := by
  rw [TopologyGroup.selects, TopologyGroup.selects, same.namespaces, same.rawSelector]

theorem isOwnedBy (same : t.SameRule s) (uid : String) : t.isOwnedBy uid = s.isOwnedBy uid := by
  rw [TopologyGroup.isOwnedBy, TopologyGroup.isOwnedBy, same.owners]

theorem counts (same : t.SameRule s) (toleratesTaint : Toleration → Taint → Bool) (pod : Pod) (taints : List Taint)
    (requirements : Requirements) : t.counts toleratesTaint pod taints requirements =
      s.counts toleratesTaint pod taints requirements := by
  rw [TopologyGroup.counts, TopologyGroup.counts, same.selects, same.nodeFilter]

end SameRule

theorem foldl_sameRule {t : TopologyGroup} {step : TopologyGroup → α → TopologyGroup}
    (each : ∀ t x, (step t x).SameRule t) (items : List α) : (items.foldl step t).SameRule t :=
  List.foldlRecOn (motive := (SameRule · t)) items step (.refl t) fun s same x _ => (each s x).trans same

theorem record_sameRule (domains : List String) : (t.record domains).SameRule t := by
  rw [record]
  refine foldl_sameRule (fun s domain => ?_) domains
  exact ⟨rfl, rfl, rfl, rfl, rfl, rfl, rfl, rfl⟩

theorem register_sameRule (domain : String) : (t.register domain).SameRule t := by
  unfold register
  split
  · exact .refl t
  · exact ⟨rfl, rfl, rfl, rfl, rfl, rfl, rfl, rfl⟩

/-- Affinities count every pod they select. -/
theorem counts_of_unfiltered {t : TopologyGroup} (kind : t.type ≠ .spread)
    (toleratesTaint : Toleration → Taint → Bool) (pod : Pod) (taints : List Taint) (requirements : Requirements) :
    t.counts toleratesTaint pod taints requirements = t.selects pod := by
  rw [counts, t.unfiltered kind]
  exact Bool.and_true _

end TopologyGroup

end Karpenter.Provisioning
