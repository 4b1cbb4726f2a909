import Mathlib.Data.List.Sort

/-! Lists of entries under distinct keys, sorted by strength: the strongest entry, that is the one of least rank, comes
first. An entry is put in the place of the one under its key or at the end, and the list is sorted again. -/
namespace Karpenter.Ranking

variable {ε : Type*} {κ : Type*} {σ : Type*} [DecidableEq κ] [LinearOrder σ] (key : ε → κ) (rank : ε → σ)

/-- The first entry under the key is replaced; without one the entry is appended. -/
def upsert (entry : ε) : List ε → List ε
  | [] => [entry]
  | first :: rest => if key first = key entry then entry :: rest else first :: upsert entry rest

def remove (k : κ) (entries : List ε) : List ε := entries.eraseP (key · = k)

def Distinct (entries : List ε) : Prop := entries.Pairwise fun a b => key a ≠ key b

structure Ranked (entries : List ε) : Prop where
  distinct : Distinct key entries
  sorted : entries.Pairwise fun a b => rank a ≤ rank b

variable {key rank}

theorem mem_upsert (distinct : Distinct key entries) :
    e ∈ upsert key entry entries ↔ e = entry ∨ (e ∈ entries ∧ key e ≠ key entry) := by
  induction entries with
  | nil => simp [upsert]
  | cons first rest ih =>
    obtain ⟨apart, distinct⟩ := List.pairwise_cons.mp distinct
    rw [upsert]
    split
    · rename_i same
      -- The rest holds no other entry under the key.
      have others : ∀ e ∈ rest, key e ≠ key entry := fun e member => same ▸ (apart e member).symm
      rw [List.mem_cons, List.mem_cons]
      constructor
      · rintro (rfl | member)
        · exact .inl rfl
        · exact .inr ⟨.inr member, others e member⟩
      · rintro (rfl | ⟨rfl | member, other⟩)
        · exact .inl rfl
        · exact absurd same other
        · exact .inr member
    · rename_i other
      rw [List.mem_cons, List.mem_cons, ih distinct]
      constructor
      · rintro (rfl | rfl | ⟨member, differs⟩)
        · exact .inr ⟨.inl rfl, other⟩
        · exact .inl rfl
        · exact .inr ⟨.inr member, differs⟩
      · rintro (rfl | ⟨rfl | member, differs⟩)
        · exact .inr (.inl rfl)
        · exact .inl rfl
        · exact .inr (.inr ⟨member, differs⟩)

theorem distinct_upsert (distinct : Distinct key entries) : Distinct key (upsert key entry entries) := by
  induction entries with
  | nil => exact List.pairwise_singleton _ _
  | cons first rest ih =>
    obtain ⟨apart, others⟩ := List.pairwise_cons.mp distinct
    rw [upsert]
    split
    · rename_i same
      exact List.pairwise_cons.mpr ⟨fun e member => same ▸ apart e member, others⟩
    · rename_i other
      refine List.pairwise_cons.mpr ⟨fun e member => ?_, ih others⟩
      rcases (mem_upsert others).mp member with rfl | ⟨member, -⟩
      · exact other
      · exact apart e member

theorem mem_remove (distinct : Distinct key entries) : e ∈ remove key k entries ↔ e ∈ entries ∧ key e ≠ k := by
  induction entries with
  | nil => simp [remove]
  | cons first rest ih =>
    obtain ⟨apart, distinct⟩ := List.pairwise_cons.mp distinct
    rw [remove, List.eraseP_cons]
    by_cases same : key first = k
    · rw [decide_eq_true same, cond_true, List.mem_cons]
      constructor
      · intro member
        exact ⟨.inr member, same ▸ (apart e member).symm⟩
      · rintro ⟨rfl | member, other⟩
        · exact absurd same other
        · exact member
    · rw [decide_eq_false same, cond_false, List.mem_cons, List.mem_cons, ← remove, ih distinct]
      constructor
      · rintro (rfl | ⟨member, differs⟩)
        · exact ⟨.inl rfl, same⟩
        · exact ⟨.inr member, differs⟩
      · rintro ⟨rfl | member, differs⟩
        · exact .inl rfl
        · exact .inr ⟨member, differs⟩

theorem Ranked.remove (ranked : Ranked key rank entries) (k : κ) : Ranked key rank (remove key k entries) :=
  ⟨ranked.distinct.sublist List.eraseP_sublist, ranked.sorted.sublist List.eraseP_sublist⟩

theorem Ranked.sort_upsert (ranked : Ranked key rank entries) (entry : ε) :
    Ranked key rank ((upsert key entry entries).insertionSort fun a b => rank a ≤ rank b) := by
  refine ⟨?_, ?_⟩
  · exact (List.Perm.pairwise_iff (fun different => different.symm) (List.perm_insertionSort _ _)).mpr
      (distinct_upsert ranked.distinct)
  · have : Std.Total fun a b : ε => rank a ≤ rank b := ⟨fun a b => le_total (rank a) (rank b)⟩
    have : IsTrans ε fun a b => rank a ≤ rank b := ⟨fun _ _ _ => le_trans⟩
    exact List.pairwise_insertionSort _ _

omit [DecidableEq κ] in
/-- The first entry is the only one that no other comes before. -/
theorem Ranked.head?_eq_some (ranked : Ranked key rank entries)
    (separated : ∀ a ∈ entries, ∀ b ∈ entries, rank a = rank b → key a = key b) :
    entries.head? = some e ↔ e ∈ entries ∧ ∀ other ∈ entries, key other ≠ key e → rank e < rank other := by
  cases entries with
  | nil => simp
  | cons first rest =>
    obtain ⟨least, -⟩ := List.pairwise_cons.mp ranked.sorted
    obtain ⟨apart, -⟩ := List.pairwise_cons.mp ranked.distinct
    have strict : ∀ other ∈ rest, rank first < rank other := by
      intro other member
      refine lt_of_le_of_ne (least other member) fun same => apart other member ?_
      exact separated first List.mem_cons_self other (List.mem_cons_of_mem _ member) same
    rw [List.head?_cons, Option.some_inj]
    constructor
    · rintro rfl
      refine ⟨List.mem_cons_self, fun other member differs => ?_⟩
      rcases List.mem_cons.mp member with rfl | member
      · exact absurd rfl differs
      · exact strict other member
    · rintro ⟨member, strongest⟩
      rcases List.mem_cons.mp member with rfl | member
      · rfl
      · have before := strongest first List.mem_cons_self (apart e member)
        exact absurd (strict e member) (not_lt.mpr before.le)

end Karpenter.Ranking
