import Karpenter.Provisioning.Placement

/-! The skew of a spread. A pod goes to a domain only if the domain stays within the skew once the pod is counted
there, and afterwards only this domain has grown. Where pods were before the run started does not matter: the
bound is about the domains that received one, and the counts grow by what was received. -/
namespace Karpenter.Provisioning

open Go (Map)
open Scheduling

namespace TopologyGroup

variable (t : TopologyGroup) (podDomains : Requirement)

/-- The registered domains that the pods may use. -/
def admissible : Finset String := t.registered.filter fun domain => podDomains.has domain = true

/-- Fewer domains than the constraint asks for. -/
def TooFew : Prop := ∃ least, t.minDomains = some least ∧ ((t.admissible podDomains).card : Int) < least

/-- The count of the domain exceeds the least count, or zero if there are too few domains, by the skew at most. -/
def SkewBounded (domain : String) : Prop :=
  (t.TooFew podDomains → (t.count domain : Int) ≤ t.maxSkew) ∧
    (¬ t.TooFew podDomains → ∀ other ∈ t.admissible podDomains,
      (t.count domain : Int) - t.count other ≤ t.maxSkew)

theorem length_supported : (t.domains.entries.filter fun entry => podDomains.has entry.1).length =
    (t.admissible podDomains).card := by
  have keys : (t.domains.entries.filter fun entry => podDomains.has entry.1).map Sigma.fst =
      t.domains.keys.filter podDomains.has := by
    rw [AList.keys, List.keys, List.filter_map]
    rfl
  rw [admissible, registered, ← List.toFinset_filter, List.toFinset_card_of_nodup (t.domains.keys_nodup.filter _),
    ← keys, List.length_map]

theorem le_foldl_min_iff (entries : List (Sigma fun _ : String => Nat)) :
    bound ≤ entries.foldl (fun least entry => min least (entry.2 : Int)) start ↔
      bound ≤ start ∧ ∀ entry ∈ entries, bound ≤ (entry.2 : Int) :=
  Go.foldl_iff (P := (bound ≤ ·)) (Q := fun entry => bound ≤ (entry.2 : Int)) (fun _ _ => le_min_iff) entries start

/-- The code's minimum is zero when there are too few domains, and never exceeds a count. -/
theorem domainMinCount_spec (elsewhere : t.key ≠ labelHostname) :
    (t.TooFew podDomains → t.domainMinCount podDomains = 0) ∧
      ∀ other ∈ t.admissible podDomains, t.domainMinCount podDomains ≤ t.count other := by
  have few : (t.minDomains.any
      (((t.domains.entries.filter fun entry => podDomains.has entry.1).length : Int) < ·)) = true ↔
      t.TooFew podDomains := by
    rw [length_supported, TooFew, Option.any_eq_true]
    simp only [decide_eq_true_eq]
  rw [domainMinCount, if_neg elsewhere]
  dsimp only
  constructor
  · intro tooFew
    rw [if_pos (few.mpr tooFew)]
  · intro other member
    obtain ⟨known, admitted⟩ := Finset.mem_filter.mp member
    obtain ⟨stored, found⟩ := Option.isSome_iff_exists.mp ((t.mem_registered other).mp known)
    have counted : t.count other = stored := by rw [count, found, Option.getD_some]
    split
    · omega
    · rw [counted]
      exact ((le_foldl_min_iff _).mp le_rfl).2 ⟨other, stored⟩
        (List.mem_filter.mpr ⟨Map.mem_entries_iff.mpr found, admitted⟩)

variable {t podDomains}

theorem admissible_record (known : recorded ∈ t.registered) :
    (t.record [recorded]).admissible podDomains = t.admissible podDomains := by
  have same : (t.record [recorded]).registered = t.registered := by
    ext domain
    exact t.registered_record (by simpa using known) domain
  rw [admissible, admissible, same]

theorem tooFew_record (known : recorded ∈ t.registered) :
    (t.record [recorded]).TooFew podDomains ↔ t.TooFew podDomains := by
  rw [TooFew, TooFew, admissible_record known, (t.record_sameRule [recorded]).minDomains]

/-- A pod in another domain does not raise the skew of this one. -/
theorem SkewBounded.record (bounded : t.SkewBounded podDomains domain) (known : recorded ∈ t.registered)
    (different : domain ≠ recorded) : (t.record [recorded]).SkewBounded podDomains domain := by
  have unchanged : (t.record [recorded]).count domain = t.count domain := by
    rw [count_record, List.count_eq_zero.mpr (by simpa using different), Nat.add_zero]
  have rule := t.record_sameRule [recorded]
  refine ⟨fun tooFew => ?_, fun enough other member => ?_⟩
  · rw [unchanged, rule.maxSkew]
    exact bounded.1 ((tooFew_record known).mp tooFew)
  · rw [admissible_record known] at member
    have before := bounded.2 (fun tooFew => enough ((tooFew_record known).mpr tooFew)) other member
    have grown := t.count_le_record [recorded] other
    rw [unchanged, rule.maxSkew]
    omega

/-- A domain that one more pod keeps within the skew is bounded once the pod is there. -/
theorem skewBounded_record (elsewhere : t.key ≠ labelHostname)
    (within : t.WithinSkew (t.domainMinCount podDomains) true recorded) :
    (t.record [recorded]).SkewBounded podDomains recorded := by
  obtain ⟨known, bound⟩ := within
  obtain ⟨zero, least⟩ := t.domainMinCount_spec podDomains elsewhere
  have one : (t.record [recorded]).count recorded = t.count recorded + 1 := by
    rw [count_record, List.count_singleton_self]
  have rule := t.record_sameRule [recorded]
  rw [if_pos rfl] at bound
  refine ⟨fun tooFew => ?_, fun enough other member => ?_⟩
  · rw [zero ((tooFew_record known).mp tooFew)] at bound
    rw [one, rule.maxSkew]
    omega
  · rw [admissible_record known] at member
    have below := least other member
    have grown := t.count_le_record [recorded] other
    rw [one, rule.maxSkew]
    omega

theorem domainMinCount_congr (same : ∀ domain, other.has domain = podDomains.has domain) :
    t.domainMinCount other = t.domainMinCount podDomains := by
  simp only [domainMinCount, same]

/-- A group that is no anti-affinity records the only value of a list, or nothing. -/
theorem recordFor_cases (kind : t.type ≠ .podAntiAffinity) (listed : (requirements.get t.key).complement = false) :
    (∃ domain, (requirements.get t.key).Single domain ∧ t.recordFor order requirements = t.record [domain]) ∨
      (∀ domain, ¬ (requirements.get t.key).Single domain) ∧ t.recordFor order requirements = t := by
  by_cases one : (requirements.get t.key).len = 1
  · rw [Requirement.len, listed] at one
    obtain ⟨domain, values⟩ := Finset.card_eq_one.mp (by simpa using one)
    exact .inl ⟨domain, ⟨listed, values⟩, recordFor_single kind ⟨listed, values⟩⟩
  · refine .inr ⟨fun domain single => one ?_, ?_⟩
    · rw [Requirement.len, single.1, single.2]
      rfl
    · rw [recordFor, if_neg kind, if_neg one]

end TopologyGroup

namespace Simulation

/-- The next pod is accepted, counts and is left with this domain only. -/
def receives (settings : Settings) (g : TopologyGroup) (domain : String) (s : Simulation) (next : Nat × PodPlacement) :
    Bool :=
  (s.accepts settings next.1 next.2).any fun (h, requirements) =>
    g.counts settings.toleratesTaint next.2.pod h.taints requirements && decide ((requirements.get g.key).Single domain)

/-- How many counted pods of the run were left with this domain only. -/
def received (settings : Settings) (g : TopologyGroup) (domain : String) : Simulation → List (Nat × PodPlacement) → Nat
  | _, [] => 0
  | s, next :: rest =>
    (if s.receives settings g domain next then 1 else 0) + received settings g domain (s.step settings next) rest

/-- Every counted pod of the run is an owner that selects itself and has the given domains. -/
def CountsOwners (settings : Settings) (g : TopologyGroup) (podDomains : Requirement) (start : Simulation)
    (attempts : List (Nat × PodPlacement)) : Prop :=
  ∀ done next h requirements, done ++ [next] <+: attempts →
    (start.run settings done).accepts settings next.1 next.2 = some (h, requirements) →
    g.counts settings.toleratesTaint next.2.pod h.taints requirements = true → SelfSelecting g podDomains next.2

variable {settings : Settings} {g tg : TopologyGroup} {podDomains : Requirement} {id : UInt64} {s : Simulation}

/-- An owner either counts for the one domain it is left with, which it keeps within the skew, or for none. -/
theorem record_owner (kind : g.type = .spread) (elsewhere : g.key ≠ labelHostname) (follows : Follows g tg id s)
    (owner : SelfSelecting g podDomains p) (accepted : Accepted settings s index p h narrowed requirements) :
    (∃ domain, (requirements.get tg.key).Single domain ∧
      tg.recordFor p.recordOrder requirements = tg.record [domain] ∧
      tg.WithinSkew (tg.domainMinCount podDomains) true domain) ∨
    (∀ domain, ¬ (requirements.get tg.key).Single domain) ∧ tg.recordFor p.recordOrder requirements = tg := by
  have type : tg.type = .spread := follows.same.type.trans kind
  have notAnti : tg.type ≠ .podAntiAffinity := by
    rw [type]
    decide
  have away : tg.key ≠ labelHostname := follows.same.key ▸ elsewhere
  have member : ⟨id, tg⟩ ∈ s.topology.getMatchingTopologies settings.toleratesTaint p.pod h.taints narrowed :=
    (Topology.mem_matching_of_owned follows.found ((follows.same.isOwnedBy _).trans owner.owned)).mpr (.inl rfl)
  by_cases normal : normalizeKey tg.key = tg.key
  · have listed := accepted.listed _ member
    rw [normal] at listed
    rcases TopologyGroup.recordFor_cases notAnti listed with ⟨domain, single, recorded⟩ | nothing
    · refine .inl ⟨domain, single, recorded, ?_⟩
      have admitted := (accepted.has_iff tg.key domain).mp ((single.has_iff domain).mpr rfl)
      have within := TopologyGroup.withinSkew_of_spread type away (admitted.2 _ member normal)
      rw [follows.same.selects, owner.selected] at within
      rwa [TopologyGroup.domainMinCount_congr (by rw [follows.same.key]; exact owner.admits)] at within
    · exact .inr nothing
  · -- under an alias nothing is ever stored, so the host stays open and nothing is counted
    have open_ := Requirements.get_of_alias requirements normal
    refine .inr ⟨fun domain single => ?_, ?_⟩
    · rw [open_] at single
      exact absurd single.1 (by simp [newRequirement, newRequirementWithFlexibility, newUnbounded])
    · have many : (requirements.get tg.key).len ≠ 1 := by
        rw [open_]
        show Go.maxInt - ((∅ : Finset String).card : Int) ≠ 1
        decide
      rw [TopologyGroup.recordFor, if_neg notAnti, if_neg many]

theorem received_concat (done : List (Nat × PodPlacement)) (next : Nat × PodPlacement) (domain : String) :
    received settings g domain s (done ++ [next]) = received settings g domain s done +
      if (s.run settings done).receives settings g domain next then 1 else 0 := by
  induction done generalizing s with
  | nil => exact Nat.add_comm ..
  | cons first rest ih =>
    rw [List.cons_append, received, ih, received, Nat.add_assoc]
    rfl

/-- What holds after each part of a run: the constraint is there, its counts have grown by the pods that were
received, and the domains that received one are bounded. -/
def Spreads (settings : Settings) (g : TopologyGroup) (podDomains : Requirement) (id : UInt64) (start : Simulation)
    (attempts : List (Nat × PodPlacement)) : Prop :=
  ∃ tg, Follows g tg id (start.run settings attempts) ∧
    ∀ domain, tg.count domain = g.count domain + received settings g domain start attempts ∧
      (0 < received settings g domain start attempts → tg.SkewBounded podDomains domain)

theorem Spreads.concat (kind : g.type = .spread) (elsewhere : g.key ≠ labelHostname)
    (owners : CountsOwners settings g podDomains start (done ++ [next]))
    (spreads : Spreads settings g podDomains id start done) :
    Spreads settings g podDomains id start (done ++ [next]) := by
  obtain ⟨tg, follows, spreads⟩ := spreads
  have owner := fun h requirements => owners done next h requirements List.prefix_rfl
  rw [Spreads, run_concat]
  simp only [received_concat]
  unfold step
  cases ok : (start.run settings done).accepts settings next.1 next.2 with
  | none =>
    have refused (domain : String) : (start.run settings done).receives settings g domain next = false := by
      rw [receives, ok, Option.any_none]
    refine ⟨tg, follows, fun domain => ?_⟩
    simpa [refused] using spreads domain
  | some found =>
    obtain ⟨h, requirements⟩ := found
    obtain ⟨narrowed, accepted⟩ := accepts_spec ok
    have now (domain : String) : (start.run settings done).receives settings g domain next =
        (g.counts settings.toleratesTaint next.2.pod h.taints requirements &&
          decide ((requirements.get g.key).Single domain)) := by
      rw [receives, ok, Option.any_some]
    have lookup : ((start.run settings done).place settings next.1 h next.2 requirements).topology.topologyGroups.lookup
        id = some _ := lookup_place elsewhere follows
    rw [follows.same.counts] at lookup
    by_cases counted : g.counts settings.toleratesTaint next.2.pod h.taints requirements = true
    · rw [if_pos counted] at lookup
      rcases record_owner kind elsewhere follows (owner h requirements ok counted) accepted with
        ⟨recorded, single, same, within⟩ | ⟨none, same⟩
      · rw [same] at lookup
        refine ⟨_, ⟨lookup, (tg.record_sameRule _).trans follows.same⟩, fun domain => ?_⟩
        have only : (requirements.get g.key).Single domain ↔ domain = recorded := by
          rw [follows.same.key] at single
          exact ⟨fun other => Finset.singleton_inj.mp (other.2.symm.trans single.2), fun equal => equal ▸ single⟩
        obtain ⟨total, bounded⟩ := spreads domain
        rw [now, counted, Bool.true_and, TopologyGroup.count_record, total]
        by_cases here : domain = recorded
        · subst here
          refine ⟨by simp [only, Nat.add_assoc], fun _ => ?_⟩
          exact TopologyGroup.skewBounded_record (follows.same.key ▸ elsewhere) within
        · refine ⟨by simp [only, here, Ne.symm here], fun positive => ?_⟩
          exact (bounded (by simpa [only, here] using positive)).record within.1 here
      · rw [same] at lookup
        refine ⟨tg, ⟨lookup, follows.same⟩, fun domain => ?_⟩
        have elsewhere' : ¬ (requirements.get g.key).Single domain := follows.same.key ▸ none domain
        simpa [now, elsewhere'] using spreads domain
    · rw [if_neg counted] at lookup
      refine ⟨tg, ⟨lookup, follows.same⟩, fun domain => ?_⟩
      simpa [now, counted] using spreads domain

end Simulation

end Karpenter.Provisioning
