import Karpenter.Scheduling.Requirements

/-! Intersection as a meet. A requirement is determined by its kind, its bounds and minimum, and the values it
admits: values outside the bounds are never stored, and a concrete set keeps no bounds. So the laws of
intersection follow from those of its parts, and a map built from requirements depends on their set only. -/
namespace Karpenter.Scheduling

open Karpenter.Go

section Bounds

variable (a b c : Option Int)

theorem minIntPtr_self : minIntPtr a a = a := by
  cases a <;> simp [minIntPtr]

theorem maxIntPtr_assoc : maxIntPtr (maxIntPtr a b) c = maxIntPtr a (maxIntPtr b c) := by
  cases a <;> cases b <;> cases c <;> grind [maxIntPtr]

theorem minIntPtr_assoc : minIntPtr (minIntPtr a b) c = minIntPtr a (minIntPtr b c) := by
  cases a <;> cases b <;> cases c <;> grind [minIntPtr]

theorem crossed_tighten (gte lte : Option Int) (cross : crossed a b = true) :
    crossed (maxIntPtr a gte) (minIntPtr b lte) = true := by
  cases a <;> cases b <;> cases gte <;> cases lte <;> grind [crossed, maxIntPtr, minIntPtr]

end Bounds

namespace Requirement

variable {r s t : Requirement}

/-- Excluded values are those within the bounds that are not admitted. -/
theorem mem_values_iff (r : Requirement) (value : String) : value ∈ r.values ↔
    withinBounds value r.gte r.lte = true ∧ (r.has value = true ↔ r.complement = false) := by
  have inside := r.bounded value
  cases kind : r.complement with
  | false =>
    rw [has_concrete r kind]
    tauto
  | true =>
    rw [has_complement r kind]
    simp only [Bool.true_eq_false, iff_false]
    tauto

theorem ext_has (key : r.key = s.key) (kind : r.complement = s.complement) (low : r.gte = s.gte)
    (high : r.lte = s.lte) (minimum : r.minValues = s.minValues)
    (admits : ∀ value, r.has value = true ↔ s.has value = true) : r = s := by
  have values : r.values = s.values := by
    ext value
    rw [mem_values_iff, mem_values_iff, low, high, kind, admits]
  exact Requirement.ext key kind values low high minimum

theorem bounds_intersection (r s : Requirement) : ((r.intersection s).gte, (r.intersection s).lte) =
    if (r.intersection s).complement then (maxIntPtr r.gte s.gte, minIntPtr r.lte s.lte) else (none, none) := by
  cases kind : (r.intersection s).complement with
  | true => rw [gte_intersection kind, lte_intersection kind, if_pos rfl]
  | false => rw [(concrete _ kind).1, (concrete _ kind).2, if_neg Bool.false_ne_true]

theorem intersection_ext {u : Requirement} (key : r.key = t.key)
    (kind : (r.intersection s).complement = true ↔ (t.intersection u).complement = true)
    (bounds : (r.intersection s).complement = true →
      maxIntPtr r.gte s.gte = maxIntPtr t.gte u.gte ∧ minIntPtr r.lte s.lte = minIntPtr t.lte u.lte)
    (minimum : maxIntPtr r.minValues s.minValues = maxIntPtr t.minValues u.minValues)
    (admits : ∀ value, r.has value = true ∧ s.has value = true ↔ t.has value = true ∧ u.has value = true) :
    r.intersection s = t.intersection u := by
  have same : (r.intersection s).complement = (t.intersection u).complement := Bool.eq_iff_iff.mpr kind
  have pairs : ((r.intersection s).gte, (r.intersection s).lte) = ((t.intersection u).gte, (t.intersection u).lte) := by
    rw [bounds_intersection, bounds_intersection, ← same]
    split
    · rename_i complement
      rw [(bounds complement).1, (bounds complement).2]
    · rfl
  refine ext_has ?_ same (congrArg Prod.fst pairs) (congrArg Prod.snd pairs) ?_ ?_
  · rw [key_intersection, key_intersection, key]
  · rw [minValues_intersection, minValues_intersection, minimum]
  · intro value
    rw [has_intersection, has_intersection, admits]

theorem intersection_comm (key : r.key = s.key) : r.intersection s = s.intersection r := by
  have low := maxIntPtr_comm r.gte s.gte
  have high := minIntPtr_comm r.lte s.lte
  refine intersection_ext key ?_ (fun _ => ⟨low, high⟩) (maxIntPtr_comm _ _) fun value => And.comm
  rw [complement_intersection, complement_intersection, low, high, And.comm (a := r.complement = true)]

theorem intersection_self (r : Requirement) : r.intersection r = r := by
  have kind : (r.intersection r).complement = true ↔ r.complement = true := by
    rw [complement_intersection, maxIntPtr_self, minIntPtr_self]
    simp [r.ordered]
  have same : (r.intersection r).complement = r.complement := Bool.eq_iff_iff.mpr kind
  have pairs := bounds_intersection r r
  rw [same, maxIntPtr_self, minIntPtr_self] at pairs
  have kept : ((r.intersection r).gte, (r.intersection r).lte) = (r.gte, r.lte) := by
    rw [pairs]
    cases given : r.complement with
    | true => rfl
    | false => rw [(r.concrete given).1, (r.concrete given).2, if_neg Bool.false_ne_true]
  refine ext_has (key_intersection r r) same (congrArg Prod.fst kept) (congrArg Prod.snd kept) ?_ ?_
  · rw [minValues_intersection, maxIntPtr_self]
  · intro value
    rw [has_intersection, and_self]

theorem complement_intersection₃ (r s t : Requirement) : ((r.intersection s).intersection t).complement = true ↔
    (r.complement = true ∧ s.complement = true ∧ t.complement = true) ∧
      crossed (maxIntPtr (maxIntPtr r.gte s.gte) t.gte) (minIntPtr (minIntPtr r.lte s.lte) t.lte) = false := by
  rw [complement_intersection]
  constructor
  · rintro ⟨⟨both, last⟩, uncrossed⟩
    rw [gte_intersection both, lte_intersection both] at uncrossed
    obtain ⟨⟨first, second⟩, -⟩ := (complement_intersection r s).mp both
    exact ⟨⟨first, second, last⟩, uncrossed⟩
  · rintro ⟨⟨first, second, last⟩, uncrossed⟩
    have both : (r.intersection s).complement = true := by
      refine (complement_intersection r s).mpr ⟨⟨first, second⟩, ?_⟩
      by_contra cross
      rw [crossed_tighten _ _ t.gte t.lte (by simpa using cross)] at uncrossed
      cases uncrossed
    rw [gte_intersection both, lte_intersection both]
    exact ⟨⟨both, last⟩, uncrossed⟩

/-- The key of the first argument is kept, so nothing is asked of the keys. -/
theorem intersection_assoc (r s t : Requirement) :
    (r.intersection s).intersection t = r.intersection (s.intersection t) := by
  have right : (r.intersection (s.intersection t)).complement = true ↔
      (r.complement = true ∧ s.complement = true ∧ t.complement = true) ∧
        crossed (maxIntPtr r.gte (maxIntPtr s.gte t.gte)) (minIntPtr r.lte (minIntPtr s.lte t.lte)) = false := by
    have swapped := complement_intersection₃ s t r
    rw [complement_intersection] at swapped ⊢
    rw [maxIntPtr_comm r.gte, minIntPtr_comm r.lte, And.comm (a := r.complement = true), swapped,
      maxIntPtr_comm (maxIntPtr s.gte t.gte), minIntPtr_comm (minIntPtr s.lte t.lte)]
    tauto
  refine intersection_ext (key_intersection r s) ?_ ?_ ?_ ?_
  · rw [complement_intersection₃, right, maxIntPtr_assoc, minIntPtr_assoc]
  · intro kind
    have parts := (complement_intersection₃ r s t).mp kind
    rw [maxIntPtr_assoc, minIntPtr_assoc] at parts
    have left := ((complement_intersection _ _).mp kind).1.1
    have rest := ((complement_intersection _ _).mp (right.mpr parts)).1.2
    rw [gte_intersection left, lte_intersection left, gte_intersection rest, lte_intersection rest, maxIntPtr_assoc,
      minIntPtr_assoc]
    exact ⟨rfl, rfl⟩
  · rw [minValues_intersection, minValues_intersection, maxIntPtr_assoc]
  · intro value
    rw [has_intersection, has_intersection, and_assoc]

/-- A complement never has length zero: a set in memory has fewer than `maxInt` values. -/
theorem len_intersection_ne_zero (small : (r.values ∪ s.values).card < maxInt) :
    (r.intersection s).len ≠ 0 ↔ ∃ value, (r.intersection s).has value = true := by
  cases kind : (r.intersection s).complement with
  | true =>
    have fewer : (r.intersection s).values.card ≤ (r.values ∪ s.values).card := by
      rw [values_intersection kind]
      exact Finset.card_filter_le _ _
    refine iff_of_true ?_ (exists_has_of_complement _ kind)
    rw [len, kind, if_pos rfl]
    omega
  | false =>
    simp only [len, kind, has_concrete _ kind, Bool.false_eq_true, if_false, ne_eq, Nat.cast_eq_zero,
      Finset.card_eq_zero]
    exact Finset.nonempty_iff_ne_empty.symm

/-- The overlap test, the intersection and the strings both requirements admit agree. -/
theorem hasIntersection_exact (r s : Requirement) (small : (r.values ∪ s.values).card < maxInt) :
    (r.hasIntersection s = true ↔ ∃ value, r.has value = true ∧ s.has value = true) ∧
      (r.hasIntersection s = true ↔ (r.intersection s).len ≠ 0) := by
  rw [len_intersection_ne_zero small, hasIntersection_iff_exists]
  simp only [has_intersection, and_self]

/-- The only integer of the range is excluded, but not all of its texts. -/
theorem hasIntersection_exact_excluded :
    ((newRequirement "generation" .opGte ["5"]).intersection (newRequirement "generation" .opLte ["5"])).hasIntersection
        (newRequirement "generation" .opNotIn ["5"]) = true ∧
      ∃ value, ((newRequirement "generation" .opGte ["5"]).intersection
        (newRequirement "generation" .opLte ["5"])).has value = true ∧
          (newRequirement "generation" .opNotIn ["5"]).has value = true := by
  have overlap : ((newRequirement "generation" .opGte ["5"]).intersection
      (newRequirement "generation" .opLte ["5"])).hasIntersection
        (newRequirement "generation" .opNotIn ["5"]) = true := by decide +kernel
  exact ⟨overlap, (hasIntersection_exact _ _ (by decide +kernel)).1.mp overlap⟩

end Requirement

namespace Requirements

open Requirement

variable {x y : Requirement}

theorem merge_merge (x y : Requirement) (existing : Option Requirement) :
    merge y (some (merge x existing)) = merge (y.intersection x) existing := by
  cases existing with
  | none => rfl
  | some existing => exact (intersection_assoc y x existing).symm

/-- Requirements of one key can be merged in any order, and again. -/
theorem mergeFrom_congr (key : String) (keyed : ∀ r ∈ given, r.key = key) (same : ∀ r, r ∈ given ↔ r ∈ other)
    (existing : Option Requirement) : mergeFrom existing given = mergeFrom existing other := by
  have swap (x y : Requirement) (sameKey : x.key = y.key) (z : Option Requirement) :
      some (merge y (some (merge x z))) = some (merge x (some (merge y z))) := by
    rw [merge_merge, merge_merge, intersection_comm sameKey]
  have perm {first second : List Requirement} (keyed : ∀ r ∈ first, r.key = key) (perm : first.Perm second)
      (z : Option Requirement) : mergeFrom z first = mergeFrom z second :=
    perm.foldl_eq' (fun x inX y inY z => swap x y ((keyed x inX).trans (keyed y inY).symm) z) z
  -- A requirement that comes again later can be left out.
  have dedup (given : List Requirement) (keyed : ∀ r ∈ given, r.key = key) (z : Option Requirement) :
      mergeFrom z given.dedup = mergeFrom z given := by
    induction given generalizing z with
    | nil => rfl
    | cons x rest ih =>
      have keyedRest : ∀ r ∈ rest, r.key = key := fun r member => keyed r (List.mem_cons_of_mem x member)
      by_cases again : x ∈ rest
      · have first : rest.Perm (x :: rest.erase x) := List.perm_cons_erase again
        rw [List.dedup_cons_of_mem again, ih keyedRest, perm keyedRest first]
        have twice : mergeFrom z (x :: rest) = mergeFrom z (x :: x :: rest.erase x) :=
          perm keyed (first.cons x) z
        rw [twice]
        show _ = mergeFrom (some (merge x (some (merge x z)))) (rest.erase x)
        rw [merge_merge, intersection_self]
        rfl
      · rw [List.dedup_cons_of_notMem again]
        exact ih keyedRest (some (merge x z))
  have keyed' : ∀ r ∈ other, r.key = key := fun r member => keyed r ((same r).mpr member)
  rw [← dedup given keyed, ← dedup other keyed']
  refine perm (fun r member => keyed r (List.mem_dedup.mp member)) ?_ existing
  refine (List.perm_ext_iff_of_nodup (List.nodup_dedup given) (List.nodup_dedup other)).mpr fun r => ?_
  rw [List.mem_dedup, List.mem_dedup, same]

/-- What is added to a map counts as a set. -/
theorem get?_add_congr (same : ∀ r, r ∈ given ↔ r ∈ other) (base : Requirements) (key : String) :
    (base.add given).get? key = (base.add other).get? key := by
  rw [get?_add, get?_add]
  refine mergeFrom_congr key (fun r member => of_decide_eq_true (List.mem_filter.mp member).2) ?_ _
  intro r
  rw [List.mem_filter, List.mem_filter, same]

/-- A map made from the values of another is its copy. -/
theorem get?_newRequirements_values (r : Requirements) (key : String) :
    (newRequirements r.values).get? key = r.get? key := by
  have members (q : Requirement) : q ∈ r.values.filter (·.key = key) ↔ q ∈ (r.get? key).toList := by
    rw [List.mem_filter, mem_values, decide_eq_true_eq, Option.mem_toList]
    constructor
    · rintro ⟨stored, rfl⟩
      exact stored
    · intro stored
      obtain rfl := get?_keyed r stored
      exact ⟨stored, rfl⟩
  rw [get?_newRequirements,
    mergeFrom_congr key (fun q member => of_decide_eq_true (List.mem_filter.mp member).2) members]
  cases r.get? key <;> rfl

end Requirements

open Requirement in
/-- Intersection is the meet of requirements on one key, so that a map does not depend on the order in which its
requirements are added, nor on how often. -/
theorem intersection_is_meet (r s t : Requirement) (sameKey : r.key = s.key) :
    (∀ value, (r.intersection s).has value = true ↔ r.has value = true ∧ s.has value = true) ∧
      r.intersection s = s.intersection r ∧
      (r.intersection s).intersection t = r.intersection (s.intersection t) ∧
      r.intersection r = r ∧
      ∀ (given other : List Requirement), (∀ q, q ∈ given ↔ q ∈ other) →
        (∀ base key, (Requirements.add base given).get? key = (Requirements.add base other).get? key) ∧
          ∀ key, (Requirements.newRequirements given).get? key = (Requirements.newRequirements other).get? key :=
  ⟨has_intersection r s, intersection_comm sameKey, intersection_assoc r s t, intersection_self r,
    fun _ _ same => ⟨Requirements.get?_add_congr same, Requirements.get?_add_congr same Requirements.empty⟩⟩

/-- Bounds that cross only in the end. -/
theorem intersection_is_meet_crossing : ((newRequirement "generation" .opGt ["5"]).intersection
        (newRequirement "generation" .opNotIn ["7"])).intersection (newRequirement "generation" .opLt ["3"]) =
      (newRequirement "generation" .opGt ["5"]).intersection
        ((newRequirement "generation" .opNotIn ["7"]).intersection (newRequirement "generation" .opLt ["3"])) :=
  (intersection_is_meet (newRequirement "generation" .opGt ["5"]) (newRequirement "generation" .opNotIn ["7"])
    (newRequirement "generation" .opLt ["3"]) (by decide +kernel)).2.2.1

end Karpenter.Scheduling
