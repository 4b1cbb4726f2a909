import Karpenter.Go.Strconv
import Mathlib.Data.Finset.Card
import Mathlib.Data.Set.Finite.Basic
import Mathlib.Data.List.AList

/-! One label requirement in the form the scheduler computes with: a finite set of values or the
complement of one, with optional integer bounds. Go sets are finite sets, so nothing here depends
on an iteration order. -/
namespace Karpenter.Scheduling

open Karpenter.Go

inductive NodeSelectorOperator where
  | opIn
  | opNotIn
  | opExists
  | opDoesNotExist
  | opGt
  | opLt
  | opGte
  | opLte
  deriving DecidableEq, Repr

/-- A bound makes every text that is not a 64-bit integer inadmissible. -/
def withinBounds (value : String) (gte lte : Option Int) : Bool :=
  if gte.isNone && lte.isNone then true
  else match integer? value with
    | none => false
    | some n => gte.all (· ≤ n) && lte.all (n ≤ ·)

def minIntPtr : Option Int → Option Int → Option Int
  | none, b => b
  | a, none => a
  | some a, some b => if a < b then some a else some b

def maxIntPtr : Option Int → Option Int → Option Int
  | none, b => b
  | a, none => a
  | some a, some b => if a > b then some a else some b

/-- Both bounds are present and exclude every integer. -/
def crossed (gte lte : Option Int) : Bool :=
  match gte, lte with
  | some low, some high => low > high
  | _, _ => false

@[simp] theorem withinBounds_none (value : String) : withinBounds value none none = true := rfl

theorem withinBounds_iff : withinBounds value gte lte = true ↔ (gte = none ∧ lte = none) ∨
      ∃ n, integer? value = some n ∧ gte.all (· ≤ n) = true ∧ lte.all (n ≤ ·) = true := by
  unfold withinBounds
  split
  · simp_all
  · split <;> simp_all

theorem maxIntPtr_self (a : Option Int) : maxIntPtr a a = a := by
  cases a <;> simp [maxIntPtr]

theorem maxIntPtr_comm (a b : Option Int) : maxIntPtr a b = maxIntPtr b a := by
  cases a <;> cases b <;> grind [maxIntPtr]

theorem minIntPtr_comm (a b : Option Int) : minIntPtr a b = minIntPtr b a := by
  cases a <;> cases b <;> grind [minIntPtr]

theorem all_maxIntPtr (a b : Option Int) (n : Int) :
    (maxIntPtr a b).all (· ≤ n) = true ↔ a.all (· ≤ n) = true ∧ b.all (· ≤ n) = true := by
  cases a <;> cases b <;> simp [maxIntPtr]
  split <;> simp <;> omega

theorem all_minIntPtr (a b : Option Int) (n : Int) :
    (minIntPtr a b).all (n ≤ ·) = true ↔ a.all (n ≤ ·) = true ∧ b.all (n ≤ ·) = true := by
  cases a <;> cases b <;> simp [minIntPtr]
  split <;> simp <;> omega

@[simp] theorem maxIntPtr_eq_none : maxIntPtr a b = none ↔ a = none ∧ b = none := by
  cases a <;> cases b <;> simp [maxIntPtr]
  split <;> simp

@[simp] theorem minIntPtr_eq_none : minIntPtr a b = none ↔ a = none ∧ b = none := by
  cases a <;> cases b <;> simp [minIntPtr]
  split <;> simp

theorem maxIntPtr_eq_or (a b : Option Int) : maxIntPtr a b = a ∨ maxIntPtr a b = b := by
  cases a <;> cases b <;> grind [maxIntPtr]

theorem minIntPtr_eq_or (a b : Option Int) : minIntPtr a b = a ∨ minIntPtr a b = b := by
  cases a <;> cases b <;> grind [minIntPtr]

/-- The tightened bounds admit exactly what both pairs of bounds admit. -/
theorem withinBounds_meet (value : String) (a b c d : Option Int) : withinBounds value (maxIntPtr a b) (minIntPtr c d) =
      (withinBounds value a c && withinBounds value b d) := by
  rw [Bool.eq_iff_iff, Bool.and_eq_true, withinBounds_iff, withinBounds_iff, withinBounds_iff]
  simp only [maxIntPtr_eq_none, minIntPtr_eq_none, all_maxIntPtr, all_minIntPtr]
  cases integer? value <;> simp
  · tauto
  · constructor
    · rintro (⟨⟨rfl, rfl⟩, rfl, rfl⟩ | ⟨⟨ha, hb⟩, hc, hd⟩)
      · simp
      · exact ⟨.inr ⟨ha, hc⟩, .inr ⟨hb, hd⟩⟩
    · rintro ⟨⟨rfl, rfl⟩ | ⟨ha, hc⟩, ⟨rfl, rfl⟩ | ⟨hb, hd⟩⟩ <;> simp_all

theorem withinBounds_crossed (value : String) (h : crossed gte lte = true) : withinBounds value gte lte = false := by
  cases gte with
  | none => simp [crossed] at h
  | some low =>
    cases lte with
    | none => simp [crossed] at h
    | some high =>
      rw [Bool.eq_false_iff]
      intro inside
      rw [withinBounds_iff] at inside
      simp only [crossed, gt_iff_lt, decide_eq_true_eq] at h
      simp at inside
      obtain ⟨n, -, hlow, hhigh⟩ := inside
      omega

def normalizedLabels : AList (fun _ : String => String) :=
  [⟨"failure-domain.beta.kubernetes.io/zone", "topology.kubernetes.io/zone"⟩,
    ⟨"beta.kubernetes.io/arch", "kubernetes.io/arch"⟩,
    ⟨"beta.kubernetes.io/os", "kubernetes.io/os"⟩,
    ⟨"beta.kubernetes.io/instance-type", "node.kubernetes.io/instance-type"⟩,
    ⟨"failure-domain.beta.kubernetes.io/region", "topology.kubernetes.io/region"⟩].toAList

def normalizedLabelValues : AList (fun _ : String => AList (fun _ : String => String)) := ∅

def normalizeKey (key : String) : String := (normalizedLabels.lookup key).getD key

def normalizeValue (key value : String) : String :=
  ((normalizedLabelValues.lookup key).bind (AList.lookup value)).getD value

@[simp] theorem normalizeValue_eq (key value : String) : normalizeValue key value = value := rfl

theorem normalizeKey_of_unaliased (unaliased : normalizedLabels.lookup key = none) : normalizeKey key = key := by
  simp only [normalizeKey, unaliased, Option.getD_none]

theorem normalizeKey_idem (key : String) : normalizeKey (normalizeKey key) = normalizeKey key := by
  cases aliased : normalizedLabels.lookup key with
  | none => simp only [normalizeKey_of_unaliased aliased]
  | some target =>
    have targets : ∀ entry ∈ normalizedLabels.entries, normalizedLabels.lookup entry.2 = none := by decide
    have member : (⟨key, target⟩ : Sigma fun _ : String => String) ∈ normalizedLabels.entries :=
      AList.mem_lookup_iff.mp aliased
    have renamed : normalizeKey key = target := by simp only [normalizeKey, aliased, Option.getD_some]
    rw [renamed]
    exact normalizeKey_of_unaliased (targets _ member)

/-- A requirement carries a normalized key and 64-bit bounds that admit some integer, never keeps
bounds beside a concrete value set, and never stores a value that its own bounds exclude. The
cached string form is not represented. -/
@[ext] structure Requirement where
  key : String
  complement : Bool
  values : Finset String
  gte : Option Int
  lte : Option Int
  minValues : Option Int
  normalized : normalizeKey key = key
  concrete : complement = false → gte = none ∧ lte = none
  bounded : ∀ value ∈ values, withinBounds value gte lte = true
  ranged : ∀ bound, gte = some bound ∨ lte = some bound → minInt ≤ bound ∧ bound ≤ maxInt
  ordered : crossed gte lte = false
  deriving DecidableEq

def newConcrete (key : String) (minValues : Option Int) (values : Finset String) : Requirement where
  key := normalizeKey key
  complement := false
  values := values
  gte := none
  lte := none
  minValues := minValues
  normalized := normalizeKey_idem key
  concrete := by simp
  bounded := by simp
  ranged := by simp
  ordered := rfl

def newUnbounded (key : String) (minValues : Option Int) (values : Finset String) : Requirement where
  key := normalizeKey key
  complement := true
  values := values
  gte := none
  lte := none
  minValues := minValues
  normalized := normalizeKey_idem key
  concrete := by simp
  bounded := by simp
  ranged := by simp
  ordered := rfl

def newGte (key : String) (minValues : Option Int) (bound : Int)
    (range : minInt ≤ bound ∧ bound ≤ maxInt) : Requirement :=
  { newUnbounded key minValues ∅ with
    gte := some bound, concrete := by simp [newUnbounded], bounded := by simp [newUnbounded],
    ranged := by simpa [newUnbounded] using range, ordered := rfl }

def newLte (key : String) (minValues : Option Int) (bound : Int)
    (range : minInt ≤ bound ∧ bound ≤ maxInt) : Requirement :=
  { newUnbounded key minValues ∅ with
    lte := some bound, concrete := by simp [newUnbounded], bounded := by simp [newUnbounded],
    ranged := by simpa [newUnbounded] using range, ordered := rfl }

theorem succ_range (range : minInt ≤ bound ∧ bound ≤ maxInt) (small : bound ≠ maxInt) :
    minInt ≤ bound + 1 ∧ bound + 1 ≤ maxInt := by
  simp only [minInt, maxInt] at *
  omega

/-- The constructor. Gt and Lt are stored as inclusive bounds, and the error of `atoi` is discarded.
A bound operator reads the first value; admitted expressions carry exactly one. -/
def newRequirementWithFlexibility (key : String) (operator : NodeSelectorOperator)
    (minValues : Option Int) (values : List String) : Requirement :=
  let values := values.map (normalizeValue (normalizeKey key))
  let text := values.headD ""
  match operator with
  | .opIn => newConcrete key minValues values.toFinset
  | .opDoesNotExist => newConcrete key minValues ∅
  | .opNotIn => newUnbounded key minValues values.toFinset
  | .opExists => newUnbounded key minValues ∅
  | .opGt =>
    -- Gt of the largest integer matches nothing; this early return drops minValues
    if largest : (atoi text).1 = maxInt then newConcrete key none ∅
    else newGte key minValues ((atoi text).1 + 1) (succ_range (atoi_range text) largest)
  | .opLt => newLte key minValues (wrap ((atoi text).1 - 1)) (wrap_range _)
  | .opGte => newGte key minValues (atoi text).1 (atoi_range text)
  | .opLte => newLte key minValues (atoi text).1 (atoi_range text)

theorem newRequirement_gt (key : String) (minValues : Option Int) (values : List String) :
    ((atoi (values.headD "")).1 = maxInt ∧
      newRequirementWithFlexibility key .opGt minValues values = newConcrete key none ∅) ∨
    ∃ range, (atoi (values.headD "")).1 ≠ maxInt ∧
      newRequirementWithFlexibility key .opGt minValues values =
        newGte key minValues ((atoi (values.headD "")).1 + 1) range := by
  have text : (values.map (normalizeValue (normalizeKey key))).headD "" = values.headD "" := by
    cases values <;> rfl
  have range := atoi_range (values.headD "")
  simp only [newRequirementWithFlexibility, text]
  by_cases largest : (atoi (values.headD "")).1 = maxInt
  · exact .inl ⟨largest, dif_pos largest⟩
  · exact .inr ⟨succ_range range largest, largest, dif_neg largest⟩

def newRequirement (key : String) (operator : NodeSelectorOperator) (values : List String) : Requirement :=
  newRequirementWithFlexibility key operator none values

namespace Requirement

/-- The value set of an intersection before bounds are applied. -/
def combineValues (r requirement : Requirement) : Finset String :=
  match r.complement, requirement.complement with
  | true, true => r.values ∪ requirement.values
  | true, false => requirement.values \ r.values
  | false, true => r.values \ requirement.values
  | false, false => r.values ∩ requirement.values

theorem ranged_meet (r requirement : Requirement) (bound : Int)
    (kept : maxIntPtr r.gte requirement.gte = some bound ∨ minIntPtr r.lte requirement.lte = some bound) :
    minInt ≤ bound ∧ bound ≤ maxInt := by
  rcases kept with low | high
  · rcases maxIntPtr_eq_or r.gte requirement.gte with same | same <;> rw [same] at low
    · exact r.ranged bound (.inl low)
    · exact requirement.ranged bound (.inl low)
  · rcases minIntPtr_eq_or r.lte requirement.lte with same | same <;> rw [same] at high
    · exact r.ranged bound (.inr high)
    · exact requirement.ranged bound (.inr high)

def intersection (r requirement : Requirement) : Requirement :=
  let gte := maxIntPtr r.gte requirement.gte
  let lte := minIntPtr r.lte requirement.lte
  let minValues := maxIntPtr r.minValues requirement.minValues
  let values := (combineValues r requirement).filter (withinBounds · gte lte)
  if cross : crossed gte lte = true then
    newRequirementWithFlexibility r.key .opDoesNotExist minValues []
  else if r.complement && requirement.complement then
    { r with
      complement := true, values, gte, lte, minValues, concrete := by simp, bounded := by simp [values],
      ranged := ranged_meet r requirement, ordered := by simpa using cross }
  else
    { r with
      complement := false, values, gte := none, lte := none, minValues, concrete := by simp,
      bounded := by simp, ranged := by simp, ordered := rfl }

def hasIntersection (r requirement : Requirement) : Bool :=
  let gte := maxIntPtr r.gte requirement.gte
  let lte := minIntPtr r.lte requirement.lte
  if crossed gte lte then false
  else match r.complement, requirement.complement with
    | true, true => true
    | true, false => decide (∃ v ∈ requirement.values, v ∉ r.values ∧ withinBounds v gte lte = true)
    | false, true => decide (∃ v ∈ r.values, v ∉ requirement.values ∧ withinBounds v gte lte = true)
    | false, false => decide (∃ v ∈ r.values, v ∈ requirement.values ∧ withinBounds v gte lte = true)

def has (r : Requirement) (value : String) : Bool :=
  if r.complement then !decide (value ∈ r.values) && withinBounds value r.gte r.lte
  else decide (value ∈ r.values) && withinBounds value r.gte r.lte

def len (r : Requirement) : Int :=
  if r.complement then maxInt - r.values.card else r.values.card

def operator (r : Requirement) : NodeSelectorOperator :=
  if r.complement then
    -- Gt and Lt are treated as Exists with bounds
    if r.len < maxInt then .opNotIn else .opExists
  else if r.len > 0 then .opIn else .opDoesNotExist

theorem has_concrete (r : Requirement) (kind : r.complement = false) (value : String) :
    r.has value = true ↔ value ∈ r.values := by
  obtain ⟨low, high⟩ := r.concrete kind
  simp [has, kind, low, high]

theorem has_complement (r : Requirement) (kind : r.complement = true) (value : String) :
    r.has value = true ↔ value ∉ r.values ∧ withinBounds value r.gte r.lte = true := by
  simp [has, kind]

theorem has_bounds (r : Requirement) (value : String) (inside : r.has value = true) :
    withinBounds value r.gte r.lte = true := by
  simp only [has] at inside
  split at inside <;> simp_all

theorem has_newGte (key : String) (minValues : Option Int) (range) (value : String) : (newGte key minValues bound range).has value = true ↔
    ∃ n, integer? value = some n ∧ bound ≤ n := by
  simp [newGte, newUnbounded, has, withinBounds_iff]

theorem has_newLte (key : String) (minValues : Option Int) (range) (value : String) : (newLte key minValues bound range).has value = true ↔
    ∃ n, integer? value = some n ∧ n ≤ bound := by
  simp [newLte, newUnbounded, has, withinBounds_iff]

theorem not_has_of_crossed (cross : crossed (maxIntPtr (gte r) (gte s)) (minIntPtr (lte r) (lte s)) = true)
    (value : String) : ¬(r.has value = true ∧ s.has value = true) := by
  rintro ⟨left, right⟩
  have outside := withinBounds_crossed value cross
  rw [withinBounds_meet, has_bounds r value left, has_bounds s value right] at outside
  exact absurd outside (by simp)

/-- Intersection is exact: it admits a value precisely when both requirements do. -/
theorem has_intersection (r s : Requirement) (value : String) :
    (r.intersection s).has value = true ↔ r.has value = true ∧ s.has value = true := by
  have meet := withinBounds_meet value r.gte s.gte r.lte s.lte
  unfold intersection
  simp only []
  split
  · rename_i cross
    simp only [not_has_of_crossed cross, iff_false]
    simp [newRequirementWithFlexibility, newConcrete, has]
  · split
    · rename_i kinds
      simp only [Bool.and_eq_true] at kinds
      rw [has_complement r kinds.1, has_complement s kinds.2]
      simp [has, combineValues, kinds.1, kinds.2, meet]
      grind
    · rename_i kinds
      cases hr : r.complement <;> cases hs : s.complement <;> simp only [hr, hs] at kinds
      all_goals simp [has, combineValues, hr, hs, meet]
      all_goals tauto

theorem complement_intersection (r s : Requirement) : (r.intersection s).complement = true ↔
    (r.complement = true ∧ s.complement = true) ∧ crossed (maxIntPtr r.gte s.gte) (minIntPtr r.lte s.lte) = false := by
  unfold intersection
  simp only []
  split
  · simp_all [newRequirementWithFlexibility, newConcrete]
  · split <;> simp_all

theorem concrete_intersection (concrete : complement r = false ∨ complement s = false) :
    (r.intersection s).complement = false := by
  rw [Bool.eq_false_iff, ne_eq, complement_intersection]
  rcases concrete with concrete | concrete <;> simp [concrete]

theorem gte_intersection (kind : (intersection r s).complement = true) :
    (r.intersection s).gte = maxIntPtr r.gte s.gte := by
  obtain ⟨⟨left, right⟩, uncrossed⟩ := (complement_intersection r s).mp kind
  simp [intersection, left, right, uncrossed]

theorem lte_intersection (kind : (intersection r s).complement = true) :
    (r.intersection s).lte = minIntPtr r.lte s.lte := by
  obtain ⟨⟨left, right⟩, uncrossed⟩ := (complement_intersection r s).mp kind
  simp [intersection, left, right, uncrossed]

theorem values_intersection (kind : (intersection r s).complement = true) : (r.intersection s).values =
      (r.values ∪ s.values).filter (withinBounds · (maxIntPtr r.gte s.gte) (minIntPtr r.lte s.lte)) := by
  obtain ⟨⟨left, right⟩, uncrossed⟩ := (complement_intersection r s).mp kind
  simp [intersection, combineValues, left, right, uncrossed]

/-- Meeting a complement can only shrink a concrete set; two complements become concrete only when
their bounds cross. -/
theorem values_intersection_subset (left : Requirement.complement r = true)
    (kind : (intersection r s).complement = false) : (s.complement = false → (r.intersection s).values ⊆ s.values) ∧
      (s.complement = true → (r.intersection s).values = ∅) := by
  constructor
  · intro right value member
    have admitted := (has_intersection r s value).mp ((has_concrete _ kind value).mpr member)
    exact (has_concrete s right value).mp admitted.2
  · intro right
    have cross : crossed (maxIntPtr r.gte s.gte) (minIntPtr r.lte s.lte) = true := by
      by_contra uncrossed
      have := (complement_intersection r s).mpr ⟨⟨left, right⟩, by simpa using uncrossed⟩
      rw [kind] at this
      exact absurd this (by simp)
    simp [intersection, cross, newRequirementWithFlexibility, newConcrete]

theorem minValues_intersection (r s : Requirement) :
    (r.intersection s).minValues = maxIntPtr r.minValues s.minValues := by
  unfold intersection
  simp only []
  split
  · rfl
  · split <;> rfl

@[simp] theorem key_intersection (r s : Requirement) : (r.intersection s).key = r.key := by
  unfold intersection
  simp only []
  split
  · exact r.normalized
  · split <;> rfl

/-- Bounds that do not cross leave an integer, and every integer has more texts than a finite set can exclude. -/
theorem exists_has_of_complement (r : Requirement) (kind : r.complement = true) : ∃ value, r.has value = true := by
  obtain ⟨n, range, low, high⟩ : ∃ n, (minInt ≤ n ∧ n ≤ maxInt) ∧ r.gte.all (· ≤ n) = true ∧
      r.lte.all (n ≤ ·) = true := by
    have ordered := r.ordered
    cases low : r.gte with
    | some bound =>
      refine ⟨bound, r.ranged bound (.inl low), by simp, ?_⟩
      cases high : r.lte <;> simp_all [crossed]
    | none =>
      cases high : r.lte with
      | some bound => exact ⟨bound, r.ranged bound (.inr high), rfl, by simp⟩
      | none => exact ⟨0, by decide, rfl, rfl⟩
  have injective : Function.Injective (padded · n) := by
    intro first second same
    have lengths := congrArg String.length same
    rw [length_padded, length_padded second] at lengths
    omega
  obtain ⟨_, ⟨zeros, rfl⟩, free⟩ := (Set.infinite_range_of_injective injective).exists_notMem_finset r.values
  refine ⟨padded zeros n, (has_complement r kind _).mpr ⟨free, ?_⟩⟩
  exact withinBounds_iff.mpr (.inr ⟨n, integer?_padded zeros range.1 range.2, low, high⟩)

/-- The overlap test is exact. Two complements whose bounds do not cross always share a value. -/
theorem hasIntersection_iff_exists (r s : Requirement) :
    r.hasIntersection s = true ↔ ∃ value, r.has value = true ∧ s.has value = true := by
  unfold hasIntersection
  simp only []
  split
  · rename_i cross
    simp only [not_has_of_crossed cross, exists_false, Bool.false_eq_true]
  · rename_i uncrossed
    cases left : r.complement <;> cases right : s.complement
    case true.true =>
      have kind := (complement_intersection r s).mpr ⟨⟨left, right⟩, by simpa using uncrossed⟩
      obtain ⟨value, admitted⟩ := exists_has_of_complement _ kind
      exact iff_of_true rfl ⟨value, (has_intersection r s value).mp admitted⟩
    all_goals
      simp only [decide_eq_true_eq, withinBounds_meet, has, left, right]
      refine exists_congr fun value => ?_
      simp
      tauto

/-- A requirement that rejects undefined labels admits some value. -/
theorem exists_has (r : Requirement) (kind : r.complement = true ↔ r.values = ∅) : ∃ value, r.has value = true := by
  cases h : r.complement with
  | false =>
    have nonempty : r.values ≠ ∅ := fun empty => by simp [kind.mpr empty] at h
    obtain ⟨value, member⟩ := Finset.nonempty_iff_ne_empty.mpr nonempty
    exact ⟨value, (has_concrete r h value).mpr member⟩
  | true => exact r.exists_has_of_complement h

theorem operator_eq (r : Requirement) : r.operator = if r.complement then (if r.values = ∅ then .opExists else .opNotIn)
    else (if r.values = ∅ then .opDoesNotExist else .opIn) := by
  unfold operator len
  by_cases empty : r.values = ∅
  · cases r.complement <;> simp [empty]
  · have := Finset.card_pos.mpr (Finset.nonempty_iff_ne_empty.mpr empty)
    have small : maxInt - (r.values.card : Int) < maxInt := by omega
    cases r.complement <;> simp [empty, small]

/-- The operators under which an undefined label is accepted. -/
def admitsAbsence (r : Requirement) : Bool :=
  r.operator == .opNotIn || r.operator == .opDoesNotExist

theorem admitsAbsence_iff (r : Requirement) : r.admitsAbsence = true ↔ (r.complement = true ↔ r.values ≠ ∅) := by
  unfold admitsAbsence
  rw [operator_eq]
  cases r.complement <;> by_cases empty : r.values = ∅ <;> simp [empty]

theorem hasIntersection_comm (r s : Requirement) : r.hasIntersection s = s.hasIntersection r := by
  rw [Bool.eq_iff_iff, hasIntersection_iff_exists, hasIntersection_iff_exists]
  simp only [and_comm]

/-- The requirement admits one value only. -/
def Single (r : Requirement) (value : String) : Prop := r.complement = false ∧ r.values = {value}

instance (r : Requirement) (value : String) : Decidable (r.Single value) := inferInstanceAs (Decidable (_ ∧ _))

namespace Single

variable {s : Requirement} {value : String}

theorem has_iff (single : s.Single value) (other : String) : s.has other = true ↔ other = value := by
  rw [has_concrete s single.1, single.2, Finset.mem_singleton]

theorem hasIntersection_iff (single : s.Single value) (r : Requirement) :
    r.hasIntersection s = true ↔ r.has value = true := by
  rw [hasIntersection_iff_exists]
  simp only [single.has_iff, exists_eq_right]

theorem admitsAbsence (single : s.Single value) : s.admitsAbsence = false := by
  rw [Bool.eq_false_iff, ne_eq, admitsAbsence_iff]
  simp [single.1, single.2]

end Single

theorem single_newRequirement (key value : String) : (newRequirement key .opIn [value]).Single value := by
  constructor
  · rfl
  · simp [newRequirement, newRequirementWithFlexibility, newConcrete]

theorem has_newRequirement_in (key : String) (values : List String) (value : String) :
    (newRequirement key .opIn values).has value = true ↔ value ∈ values := by
  rw [has_concrete _ rfl]
  simp [newRequirement, newRequirementWithFlexibility, newConcrete]

end Requirement

end Karpenter.Scheduling
