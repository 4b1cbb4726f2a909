import Karpenter.Provisioning.NewTopology

/-! Which domains of a topology a pod may use. The group drops the taint sets of a domain once an untainted node set
offers it, which it sees from the first set it keeps; what it keeps depends on the inserted sets only. -/
namespace Karpenter.Provisioning.TopologyDomainGroup

open Go (Map)
open Scheduling

/-- The group after a sequence of insertions. -/
def insertAll (calls : List (String × List Taint)) : TopologyDomainGroup :=
  calls.foldl (fun t call => insert t call.1 call.2) ∅

/-- What is kept of the taint sets of one domain. -/
def kept (inserted : List (List Taint)) : Option (List (List Taint)) :=
  if inserted = [] then none else if [] ∈ inserted then some [[]] else some inserted

theorem kept_of_mem {inserted : List (List Taint)} (offered : [] ∈ inserted) : kept inserted = some [[]] := by
  rw [kept, if_neg (List.ne_nil_of_mem offered), if_pos offered]

theorem lookup_insert (t : TopologyDomainGroup) (domain other : String) (taints : List Taint)
    (inserted : List (List Taint)) (stored : t.lookup domain = kept inserted) :
    (insert t domain taints).lookup other = if other = domain then kept (inserted ++ [taints]) else t.lookup other := by
  rw [insert, stored]
  by_cases here : other = domain
  · subst here
    rw [if_pos rfl]
    cases inserted with
    | nil => by_cases untainted : taints = [] <;> simp [kept, untainted]
    | cons first rest =>
      by_cases offered : [] ∈ first :: rest
      · -- The first set kept is empty, so that this one is not added.
        rw [kept_of_mem offered] at stored ⊢
        rw [kept_of_mem (List.mem_append_left _ offered)]
        by_cases untainted : taints = [] <;> simp [untainted, stored]
      · have tainted : first ≠ [] := fun empty => offered (empty ▸ List.mem_cons_self)
        rw [kept, if_neg (List.cons_ne_nil _ _), if_neg offered]
        by_cases untainted : taints = []
        · rw [kept_of_mem (List.mem_append_right _ (List.mem_singleton.mpr untainted.symm))]
          simp [untainted]
        · have still : [] ∉ first :: rest ++ [taints] := by
            rw [List.mem_append, List.mem_singleton]
            exact not_or.mpr ⟨offered, Ne.symm untainted⟩
          rw [kept, if_neg (by simp), if_neg still]
          simp [untainted, tainted]
  · rw [if_neg here]
    repeat' split
    all_goals simp [here]

theorem lookup_insertAll (calls : List (String × List Taint)) (domain : String) :
    (insertAll calls).lookup domain = kept ((calls.filter fun call => call.1 = domain).map (·.2)) := by
  induction calls using List.reverseRecOn generalizing domain with
  | nil => rfl
  | append_singleton calls call ih =>
    rw [insertAll, List.foldl_append, List.foldl_cons, List.foldl_nil, ← insertAll, lookup_insert _ _ _ _ _ (ih call.1),
      List.filter_append, List.map_append, ih]
    split
    · rename_i here
      simp [here]
    · rename_i other
      simp [Ne.symm other]

section

variable (toleratesTaint : Toleration → Taint → Bool) (calls : List (String × List Taint)) (pod : Pod)
  (policy : Option NodeInclusionPolicy)

theorem nodup_forEachDomain (t : TopologyDomainGroup) : (forEachDomain toleratesTaint t pod policy).Nodup :=
  ((List.filter_sublist).map Sigma.fst).nodup t.nodupKeys

/-- A domain is visited if it was inserted, with taints that the pod tolerates unless taints are ignored. -/
theorem mem_forEachDomain_insertAll (domain : String) :
    domain ∈ forEachDomain toleratesTaint (insertAll calls) pod policy ↔
      ∃ taints, (domain, taints) ∈ calls ∧
        (policy = some .ignore ∨ toleratesTaints toleratesTaint taints pod.tolerations = true) := by
  have visited : domain ∈ forEachDomain toleratesTaint (insertAll calls) pod policy ↔
      ∃ sets, (insertAll calls).lookup domain = some sets ∧ (policy = some .ignore ∨
        ∃ taints ∈ sets, toleratesTaints toleratesTaint taints pod.tolerations = true) := by
    simp [forEachDomain, Map.mem_entries_iff]
  have inserted (taints : List Taint) : (domain, taints) ∈ calls ↔
      taints ∈ (calls.filter fun call => call.1 = domain).map (·.2) := by
    simp
  rw [visited, lookup_insertAll]
  simp only [inserted]
  generalize (calls.filter fun call => call.1 = domain).map (·.2) = sets
  rw [kept]
  split
  · rename_i none_
    simp [none_]
  · rename_i some_
    obtain ⟨first, listed⟩ := List.exists_mem_of_ne_nil sets some_
    split
    · rename_i untainted
      exact iff_of_true ⟨_, rfl, .inr ⟨[], List.mem_singleton_self _, rfl⟩⟩ ⟨[], untainted, .inr rfl⟩
    · constructor
      · rintro ⟨_, ⟨⟩, ignored | ⟨taints, member, tolerated⟩⟩
        · exact ⟨first, listed, .inl ignored⟩
        · exact ⟨taints, member, .inr tolerated⟩
      · rintro ⟨taints, member, tolerated⟩
        exact ⟨_, rfl, tolerated.imp_right fun tolerated => ⟨taints, member, tolerated⟩⟩

end

/-- Under Honor each domain is visited once for which a tolerated taint set was inserted, under Ignore each inserted
one, and the order and repetition of the insertions do not matter. -/
theorem eligible_domains (toleratesTaint : Toleration → Taint → Bool) (calls : List (String × List Taint)) (pod : Pod) :
    (∀ policy, (forEachDomain toleratesTaint (insertAll calls) pod policy).Nodup) ∧
      (∀ domain, domain ∈ forEachDomain toleratesTaint (insertAll calls) pod (some .honor) ↔
        ∃ taints, (domain, taints) ∈ calls ∧ toleratesTaints toleratesTaint taints pod.tolerations = true) ∧
      (∀ domain, domain ∈ forEachDomain toleratesTaint (insertAll calls) pod (some .ignore) ↔
        domain ∈ calls.map (·.1)) ∧
      ∀ others : List (String × List Taint), (∀ call, call ∈ others ↔ call ∈ calls) → ∀ policy,
        (forEachDomain toleratesTaint (insertAll others) pod policy).Perm
          (forEachDomain toleratesTaint (insertAll calls) pod policy) := by
  refine ⟨fun policy => nodup_forEachDomain _ pod policy _, fun domain => ?_, fun domain => ?_, ?_⟩
  · rw [mem_forEachDomain_insertAll]
    simp
  · rw [mem_forEachDomain_insertAll]
    simp
  · intro others same policy
    refine (List.perm_ext_iff_of_nodup (nodup_forEachDomain _ pod policy _) (nodup_forEachDomain _ pod policy _)).mpr
      fun domain => ?_
    rw [mem_forEachDomain_insertAll, mem_forEachDomain_insertAll]
    simp only [same]

end Karpenter.Provisioning.TopologyDomainGroup
