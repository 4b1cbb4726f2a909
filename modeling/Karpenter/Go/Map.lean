import Mathlib.Data.List.AList
import Mathlib.Data.List.Induction
import Mathlib.Algebra.BigOperators.Group.List.Basic
import Mathlib.Algebra.BigOperators.Group.Finset.Basic
import Mathlib.Algebra.Order.BigOperators.Group.List
import Mathlib.Algebra.Group.Basic
import Mathlib.Data.Finset.Sort

/-!
# Go maps

A Go map is an association list with distinct keys. A loop that ranges over one map and rewrites the
entries of another under the same keys is a single operation, `mergeWith`, and every such loop is
reasoned about through its lookup law: the order in which Go ranges over the map is then immaterial.
`total` adds up a quantity over the entries of a map.
-/

namespace Karpenter.Go

/-- A condition on the result of a loop to which every step adds one on its item. -/
theorem foldl_iff {σ α : Type*} {P : σ → Prop} {Q : α → Prop} {step : σ → α → σ} (each : ∀ s x, P (step s x) ↔ P s ∧ Q x)
    (items : List α) (start : σ) : P (items.foldl step start) ↔ P start ∧ ∀ x ∈ items, Q x := by
  induction items generalizing start with
  | nil => simp
  | cons first rest ih => rw [List.foldl_cons, ih, each, List.forall_mem_cons, and_assoc]

abbrev Map (κ : Type u) (ν : Type v) := AList (fun _ : κ => ν)

namespace Map

/-- Equality of maps evaluates, entry by entry. -/
instance [DecidableEq κ] [DecidableEq ν] : DecidableEq (Map κ ν) :=
  fun m n => decidable_of_iff (m.entries = n.entries) AList.ext_iff.symm

section Entries

variable [DecidableEq κ]

/-- Rewrites the entry under one key; `none` stands for a missing entry before and after. -/
def alter (change : Option ν → Option ν) (key : κ) (m : Map κ ν) : Map κ ν :=
  match change (m.lookup key) with
  | none => m.erase key
  | some value => m.insert key value

theorem lookup_alter (change : Option ν → Option ν) (key other : κ) (m : Map κ ν) : (alter change key m).lookup other =
      if other = key then change (m.lookup key) else m.lookup other := by
  unfold alter
  by_cases same : other = key
  · subst same
    cases changed : change (m.lookup other) <;> simp
  · cases changed : change (m.lookup key) <;>
      simp [same, AList.lookup_erase_ne, AList.lookup_insert_ne]

theorem lookup_insert_eq (m : Map κ ν) (key other : κ) (value : ν) :
    (m.insert key value).lookup other = if other = key then some value else m.lookup other := by
  by_cases same : other = key
  · subst same; simp
  · simp [same, AList.lookup_insert_ne]

theorem lookup_erase_eq (m : Map κ ν) (key other : κ) :
    (m.erase key).lookup other = if other = key then none else m.lookup other := by
  by_cases same : other = key
  · subst same; simp
  · simp [same, AList.lookup_erase_ne]

/-- `for key, value := range src { dst[key] = rewrite(key, dst[key], value) }` -/
def mergeWith (rewrite : κ → Option ν → μ → Option ν) (dst : Map κ ν) (src : Map κ μ) : Map κ ν :=
  src.entries.foldl (fun acc entry => alter (rewrite entry.1 · entry.2) entry.1 acc) dst

private theorem lookup_foldl_alter (rewrite : κ → Option ν → μ → Option ν)
    (entries : List (Sigma fun _ : κ => μ)) (distinct : entries.NodupKeys) (dst : Map κ ν) (key : κ) :
    (entries.foldl (fun acc entry => alter (rewrite entry.1 · entry.2) entry.1 acc) dst).lookup key =
      match entries.dlookup key with
      | none => dst.lookup key
      | some value => rewrite key (dst.lookup key) value := by
  induction entries generalizing dst with
  | nil => rfl
  | cons entry rest ih =>
    obtain ⟨fresh, restDistinct⟩ := List.nodupKeys_cons.mp distinct
    rw [List.foldl_cons, ih restDistinct, lookup_alter]
    by_cases same : key = entry.1
    · subst same
      rw [List.dlookup_cons_eq, List.dlookup_eq_none.mpr fresh]
      simp
    · rw [List.dlookup_cons_ne _ _ same]
      simp [same]

theorem lookup_mergeWith (rewrite : κ → Option ν → μ → Option ν) (dst : Map κ ν) (src : Map κ μ) (key : κ) :
    (mergeWith rewrite dst src).lookup key =
      match src.lookup key with
      | none => dst.lookup key
      | some value => rewrite key (dst.lookup key) value :=
  lookup_foldl_alter rewrite src.entries src.nodupKeys dst key

/-- A merge that writes every key of the source. -/
def mergeAll (write : Option ν → μ → ν) (dst : Map κ ν) (src : Map κ μ) : Map κ ν :=
  mergeWith (fun _ old value => some (write old value)) dst src

theorem lookup_mergeAll (write : Option ν → μ → ν) (dst : Map κ ν) (src : Map κ μ) (key : κ) :
    (mergeAll write dst src).lookup key =
      match src.lookup key with
      | none => dst.lookup key
      | some value => some (write (dst.lookup key) value) :=
  lookup_mergeWith _ dst src key

/-- A merge that skips the keys the destination does not have. -/
def mergePresent (write : ν → μ → ν) (dst : Map κ ν) (src : Map κ μ) : Map κ ν :=
  mergeWith (fun _ old value => old.map (write · value)) dst src

theorem lookup_mergePresent (write : ν → μ → ν) (dst : Map κ ν) (src : Map κ μ) (key : κ) :
    (mergePresent write dst src).lookup key =
      match src.lookup key with
      | none => dst.lookup key
      | some value => (dst.lookup key).map (write · value) :=
  lookup_mergeWith _ dst src key

/-- Keeps the keys and rewrites every value. -/
def mapValues (change : κ → ν → μ) (m : Map κ ν) : Map κ μ :=
  ⟨m.entries.map fun entry => ⟨entry.1, change entry.1 entry.2⟩, by
    have same : (m.entries.map fun entry => (⟨entry.1, change entry.1 entry.2⟩ :
        Sigma fun _ : κ => μ)).keys = m.entries.keys := by simp [List.keys]
    rw [List.NodupKeys, same]
    exact m.nodupKeys⟩

theorem lookup_mapValues (change : κ → ν → μ) (m : Map κ ν) (key : κ) :
    (mapValues change m).lookup key = (m.lookup key).map (change key) := by
  show List.dlookup key (m.entries.map _) = (List.dlookup key m.entries).map _
  induction m.entries with
  | nil => rfl
  | cons entry rest ih =>
    obtain ⟨name, value⟩ := entry
    by_cases same : key = name
    · subst same; simp
    · rw [List.map_cons, List.dlookup_cons_ne _ _ (by exact same), ih]
      rw [List.dlookup_cons_ne _ _ (by exact same)]

/-- Rewrites every value and drops the entries for which there is none. -/
def filterMapValues (change : κ → ν → Option μ) (m : Map κ ν) : Map κ μ :=
  ⟨m.entries.filterMap fun entry => (change entry.1 entry.2).map fun value => ⟨entry.1, value⟩, by
    have sub : (m.entries.filterMap fun entry => (change entry.1 entry.2).map fun value =>
        (⟨entry.1, value⟩ : Sigma fun _ : κ => μ)).keys.Sublist m.entries.keys := by
      induction m.entries with
      | nil => exact List.Sublist.refl _
      | cons entry rest ih =>
        cases changed : change entry.1 entry.2 with
        | none => simpa [changed] using ih.cons entry.1
        | some value => simpa [changed] using ih.cons_cons entry.1
    exact sub.nodup m.nodupKeys⟩

theorem lookup_filterMapValues (change : κ → ν → Option μ) (m : Map κ ν) (key : κ) :
    (filterMapValues change m).lookup key = (m.lookup key).bind (change key) := by
  obtain ⟨entries, distinct⟩ := m
  show List.dlookup key (entries.filterMap _) = (List.dlookup key entries).bind _
  induction entries with
  | nil => rfl
  | cons entry rest ih =>
    obtain ⟨name, value⟩ := entry
    obtain ⟨fresh, restDistinct⟩ := List.nodupKeys_cons.mp distinct
    have later := ih restDistinct
    by_cases same : key = name
    · subst same
      rw [List.dlookup_eq_none.mpr fresh, Option.bind_none] at later
      cases changed : change key value <;> simp [changed, later]
    · rw [List.dlookup_cons_ne _ _ (by exact same), ← later]
      cases changed : change name value with
      | none => simp [changed]
      | some updated =>
        rw [List.filterMap_cons_some (by rw [changed]; rfl), List.dlookup_cons_ne _ _ (by exact same)]

/-- A map literal or a loop of plain assignments: a later entry replaces an earlier one. -/
def ofList (entries : List (κ × ν)) : Map κ ν :=
  entries.foldl (fun acc entry => acc.insert entry.1 entry.2) ∅

theorem lookup_ofList (entries : List (κ × ν)) (key : κ) :
    (ofList entries).lookup key = (entries.filter fun entry => decide (entry.1 = key)).getLast?.map (·.2) := by
  induction entries using List.reverseRecOn with
  | nil => rfl
  | append_singleton rest entry ih =>
    rw [ofList, List.foldl_append, List.foldl_cons, List.foldl_nil, lookup_insert_eq, List.filter_append]
    by_cases same : entry.1 = key
    · simp [same]
    · rw [if_neg (Ne.symm same)]
      simpa [same, ofList] using ih

theorem isSome_lookup_ofList (entries : List (κ × ν)) (key : κ) :
    ((ofList entries).lookup key).isSome = true ↔ key ∈ entries.map (·.1) := by
  rw [lookup_ofList, Option.isSome_map, List.getLast?_isSome, ne_eq, List.filter_eq_nil_iff]
  simp

theorem mem_of_lookup_ofList {entries : List (κ × ν)} (found : (ofList entries).lookup key = some value) :
    (key, value) ∈ entries := by
  rw [lookup_ofList, Option.map_eq_some_iff] at found
  obtain ⟨entry, last, rfl⟩ := found
  obtain ⟨member, same⟩ := List.mem_filter.mp (List.mem_of_getLast? last)
  exact of_decide_eq_true same ▸ member

/-- `delete(m, key)` for every listed key. -/
def deleteAll (m : Map κ ν) (keys : List κ) : Map κ ν :=
  keys.foldl (fun acc key => acc.erase key) m

theorem lookup_deleteAll (m : Map κ ν) (keys : List κ) (key : κ) :
    (deleteAll m keys).lookup key = if key ∈ keys then none else m.lookup key := by
  unfold deleteAll
  induction keys generalizing m with
  | nil => simp
  | cons first rest ih =>
    rw [List.foldl_cons, ih, lookup_erase_eq]
    by_cases same : key = first <;> by_cases later : key ∈ rest <;> simp [same, later]

theorem exists_of_mem_getD_lookup {m : Map κ (List α)} (member : x ∈ (m.lookup key).getD []) :
    ∃ values, m.lookup key = some values ∧ x ∈ values := by
  cases found : m.lookup key with
  | none =>
    rw [found] at member
    cases member
  | some values =>
    rw [found] at member
    exact ⟨values, rfl, member⟩

theorem mem_entries_iff {m : Map κ ν} : (⟨key, value⟩ : Sigma fun _ : κ => ν) ∈ m.entries ↔ m.lookup key = some value :=
  AList.mem_lookup_iff.symm

theorem lookup_of_isEmpty {m : Map κ ν} (empty : m.entries.isEmpty = true) (key : κ) : m.lookup key = none := by
  rw [AList.lookup_eq_none, AList.mem_keys, AList.keys, List.isEmpty_iff.mp empty]
  exact List.not_mem_nil

/-- Equality of two maps by value: as many entries, and every entry of the first has its like in the second. -/
def deepEqual (equal : ν → ν → Bool) (m n : Map κ ν) : Bool :=
  m.entries.length == n.entries.length &&
    m.entries.all fun entry => match n.lookup entry.1 with
      | some value => equal entry.2 value
      | none => false

theorem deepEqual_iff {Same : ν → ν → Prop} (equal_iff : ∀ a b, equal a b = true ↔ Same a b) {m n : Map κ ν} :
    deepEqual equal m n = true ↔ ∀ key, Option.Rel Same (m.lookup key) (n.lookup key) := by
  have covered : (m.entries.all fun entry => match n.lookup entry.1 with
      | some value => equal entry.2 value
      | none => false) = true ↔ ∀ key value, m.lookup key = some value →
        ∃ other, n.lookup key = some other ∧ Same value other := by
    rw [List.all_eq_true]
    constructor
    · intro all key value found
      have like := all ⟨key, value⟩ (mem_entries_iff.mpr found)
      split at like
      · rename_i other found
        exact ⟨other, found, (equal_iff value other).mp like⟩
      · cases like
    · rintro all ⟨key, value⟩ member
      obtain ⟨other, found, same⟩ := all key value (mem_entries_iff.mp member)
      rw [found]
      exact (equal_iff value other).mpr same
  rw [deepEqual, Bool.and_eq_true, beq_iff_eq, covered]
  constructor
  · rintro ⟨length, covered⟩ key
    cases found : m.lookup key with
    | some value =>
      obtain ⟨other, there, same⟩ := covered key value found
      rw [there]
      exact .some same
    | none =>
      -- The keys of the first are among those of the second, which has no more of them.
      have within : m.keys ⊆ n.keys := by
        intro key member
        obtain ⟨value, found⟩ := Option.isSome_iff_exists.mp (AList.lookup_isSome.mpr (AList.mem_keys.mpr member))
        obtain ⟨other, there, -⟩ := covered key value found
        exact AList.mem_keys.mp (AList.lookup_isSome.mp (Option.isSome_iff_exists.mpr ⟨other, there⟩))
      have sizes : n.keys.length ≤ m.keys.length := by
        simp only [AList.keys, List.keys, List.length_map]
        exact length.symm.le
      have same := (m.keys_nodup.subperm within).perm_of_length_le sizes
      have missing : key ∉ m := AList.lookup_eq_none.mp found
      have there : n.lookup key = none := by
        rw [AList.lookup_eq_none, AList.mem_keys]
        exact fun member => missing (AList.mem_keys.mpr (same.mem_iff.mpr member))
      rw [there]
      exact .none
  · intro all
    refine ⟨?_, fun key value found => ?_⟩
    · have keys : ∀ key, key ∈ m.keys ↔ key ∈ n.keys := by
        intro key
        rw [← AList.mem_keys, ← AList.mem_keys, ← AList.lookup_isSome, ← AList.lookup_isSome]
        have like := all key
        generalize m.lookup key = left at like
        generalize n.lookup key = right at like
        cases like <;> rfl
      have same := ((List.perm_ext_iff_of_nodup m.keys_nodup n.keys_nodup).mpr keys).length_eq
      simpa only [AList.keys, List.keys, List.length_map] using same
    · have like := all key
      rw [found] at like
      generalize there : n.lookup key = right at like
      cases like with
      | some same => exact ⟨_, rfl, same⟩

end Entries

section Totals

variable [AddCommGroup G]

/-- The sum of a quantity over all entries. -/
def total (quantity : κ → ν → G) (m : Map κ ν) : G :=
  (m.entries.map fun entry => quantity entry.1 entry.2).sum

@[simp] theorem total_empty (quantity : κ → ν → G) : total quantity (∅ : Map κ ν) = 0 := rfl

variable [DecidableEq κ]

private theorem sum_kerase (quantity : κ → ν → G) (entries : List (Sigma fun _ : κ => ν)) (key : κ) :
    ((entries.kerase key).map fun entry => quantity entry.1 entry.2).sum =
      (entries.map fun entry => quantity entry.1 entry.2).sum -
        (entries.dlookup key).elim 0 (quantity key) := by
  induction entries with
  | nil => simp
  | cons entry rest ih =>
    obtain ⟨name, value⟩ := entry
    by_cases same : key = name
    · subst same; simp
    · rw [List.kerase_cons_ne same, List.dlookup_cons_ne _ _ (by exact same)]
      simp [ih, add_sub_assoc]

theorem total_erase (quantity : κ → ν → G) (m : Map κ ν) (key : κ) :
    total quantity (m.erase key) = total quantity m - (m.lookup key).elim 0 (quantity key) :=
  sum_kerase quantity m.entries key

theorem total_insert (quantity : κ → ν → G) (m : Map κ ν) (key : κ) (value : ν) : total quantity (m.insert key value) =
      total quantity m - (m.lookup key).elim 0 (quantity key) + quantity key value := by
  have entries : total quantity (m.insert key value) =
      quantity key value + total quantity (m.erase key) := rfl
  rw [entries, total_erase, add_comm]

theorem total_congr {first second : κ → ν → G}
    (agree : ∀ key value, m.lookup key = some value → first key value = second key value) :
    total first m = total second m := by
  unfold total
  congr 1
  apply List.map_congr_left
  rintro ⟨key, value⟩ member
  exact agree key value (mem_entries_iff.mp member)

/-- The total over the keys that carry any of the quantity. -/
theorem total_eq_sum {quantity : κ → ν → G} {m : Map κ ν} {keys : List κ} (distinct : keys.Nodup)
    (outside : ∀ key value, m.lookup key = some value → key ∉ keys → quantity key value = 0) :
    total quantity m = (keys.map fun key => (m.lookup key).elim 0 (quantity key)).sum := by
  have own : total quantity m = (m.keys.map fun key => (m.lookup key).elim 0 (quantity key)).sum := by
    rw [total, AList.keys, List.keys, List.map_map]
    congr 1
    apply List.map_congr_left
    rintro ⟨key, value⟩ member
    simp [mem_entries_iff.mp member]
  rw [own, ← List.sum_toFinset _ m.keys_nodup, ← List.sum_toFinset _ distinct]
  have absent (key : κ) (unstored : key ∉ m.keys.toFinset) : (m.lookup key).elim 0 (quantity key) = 0 := by
    rw [List.mem_toFinset] at unstored
    rw [AList.lookup_eq_none.mpr unstored, Option.elim_none]
  have unlisted (key : κ) (other : key ∉ keys.toFinset) : (m.lookup key).elim 0 (quantity key) = 0 := by
    rw [List.mem_toFinset] at other
    cases stored : m.lookup key with
    | none => rfl
    | some value => exact outside key value stored other
  rw [Finset.sum_subset Finset.subset_union_left fun key _ => absent key,
    Finset.sum_subset Finset.subset_union_right fun key _ => unlisted key]

theorem total_eq_total {quantity : κ → ν → G} {m : Map κ ν} {m' : Map κ μ}
    (same : ∀ key, (m.lookup key).elim 0 (quantity key) = (m'.lookup key).elim 0 (quantity' key)) :
    total quantity m = total quantity' m' := by
  rw [total_eq_sum m.keys_nodup, total_eq_sum m.keys_nodup]
  · congr 1
    exact List.map_congr_left fun key _ => same key
  · intro key value found absent
    have none := same key
    rw [AList.lookup_eq_none.mpr absent, found] at none
    exact none.symm
  · intro key value found absent
    exact absurd (AList.lookup_isSome.mp (by rw [found]; rfl)) absent

theorem le_total [PartialOrder G] [IsOrderedAddMonoid G] {quantity : κ → ν → G}
    (nonneg : ∀ key value, 0 ≤ quantity key value) (found : m.lookup key = some value) :
    quantity key value ≤ total quantity m := by
  apply List.single_le_sum
  · intro summand member
    obtain ⟨entry, _, rfl⟩ := List.mem_map.mp member
    exact nonneg entry.1 entry.2
  · exact List.mem_map_of_mem (f := fun entry => quantity entry.1 entry.2) (mem_entries_iff.mpr found)

end Totals

end Map

/-- The members of a set in ascending order. -/
def sorted [LinearOrder κ] (s : Finset κ) : List κ := s.sort

@[simp] theorem mem_sorted [LinearOrder κ] {s : Finset κ} : key ∈ sorted s ↔ key ∈ s := Finset.mem_sort _

@[simp] theorem toFinset_sorted [LinearOrder κ] (s : Finset κ) : (sorted s).toFinset = s := Finset.sort_toFinset _ _

/-- An order in which Go may range over any set, or over the keys of a map. -/
structure RangeOrder (κ : Type u) where
  visit : Finset κ → List κ
  mem_visit : ∀ s key, key ∈ visit s ↔ key ∈ s
  nodup_visit : ∀ s, (visit s).Nodup

attribute [simp] RangeOrder.mem_visit

theorem RangeOrder.mem_listed [LinearOrder κ] (first : List κ) (s : Finset κ) (key : κ) :
    key ∈ (first.filter (· ∈ s)).dedup ++ (s \ first.toFinset).sort ↔ key ∈ s := by
  rw [List.mem_append, List.mem_dedup, List.mem_filter, Finset.mem_sort, Finset.mem_sdiff, List.mem_toFinset]
  by_cases listed : key ∈ first <;> simp [listed]

theorem RangeOrder.nodup_listed [LinearOrder κ] (first : List κ) (s : Finset κ) :
    ((first.filter (· ∈ s)).dedup ++ (s \ first.toFinset).sort).Nodup := by
  refine List.nodup_append'.mpr ⟨List.nodup_dedup _, Finset.sort_nodup _ _, fun key listed rest => ?_⟩
  rw [Finset.mem_sort, Finset.mem_sdiff, List.mem_toFinset] at rest
  rw [List.mem_dedup] at listed
  exact rest.2 (List.mem_of_mem_filter listed)

/-- Some keys first, in the given order. -/
def RangeOrder.listed [LinearOrder κ] (first : List κ) : RangeOrder κ where
  visit s := (first.filter (· ∈ s)).dedup ++ (s \ first.toFinset).sort
  mem_visit := RangeOrder.mem_listed first
  nodup_visit := RangeOrder.nodup_listed first

theorem RangeOrder.visit_singleton (order : RangeOrder κ) (key : κ) : order.visit {key} = [key] := by
  have same : (order.visit {key}).Perm [key] :=
    (List.perm_ext_iff_of_nodup (order.nodup_visit _) (List.nodup_singleton key)).mpr (by simp)
  exact List.perm_singleton.mp same

end Karpenter.Go
