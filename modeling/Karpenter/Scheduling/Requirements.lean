import Karpenter.Go.Map
import Karpenter.Scheduling.Requirement

/-! Requirement maps: construction, merging and the two compatibility tests. A Go map is an
association list with distinct keys; no result below depends on its order. Error values keep the
keys they are about, not their rendered text. -/
namespace Karpenter.Scheduling

open Karpenter.Go

/-- Every requirement is stored under its own key. -/
structure Requirements where
  entries : AList (fun _ : String => Requirement)
  keyed : ∀ key requirement, entries.lookup key = some requirement → requirement.key = key
  deriving DecidableEq

structure NodeSelectorRequirement where
  key : String
  operator : NodeSelectorOperator
  values : List String
  deriving DecidableEq, Repr

inductive CompatibilityError where
  | undefinedLabel (key : String)
  | badKeys (keys : List String)
  deriving DecidableEq, Repr

namespace Requirements

def empty : Requirements := ⟨∅, by simp⟩

def get? (r : Requirements) (key : String) : Option Requirement := r.entries.lookup key

def has (r : Requirements) (key : String) : Bool := (r.get? key).isSome

/-- An undefined key allows any value. -/
def get (r : Requirements) (key : String) : Requirement :=
  (r.get? key).getD (newRequirement key .opExists [])

def keys (r : Requirements) : List String := r.entries.keys

def values (r : Requirements) : List Requirement := r.entries.entries.map Sigma.snd

/-- The assignment `r[requirement.Key] = requirement`. -/
def set (r : Requirements) (requirement : Requirement) : Requirements where
  entries := r.entries.insert requirement.key requirement
  keyed := by
    intro key stored found
    by_cases same : key = requirement.key
    · subst same
      rw [AList.lookup_insert, Option.some.injEq] at found
      rw [found]
    · rw [AList.lookup_insert_ne same] at found
      exact r.keyed key stored found

def delete (r : Requirements) (key : String) : Requirements where
  entries := r.entries.erase key
  keyed := by
    intro other stored found
    by_cases same : other = key
    · subst same
      simp at found
    · rw [AList.lookup_erase_ne same] at found
      exact r.keyed other stored found

def merge (requirement : Requirement) : Option Requirement → Requirement
  | some existing => requirement.intersection existing
  | none => requirement

def addOne (r : Requirements) (requirement : Requirement) : Requirements :=
  r.set (merge requirement (r.get? requirement.key))

def add (r : Requirements) (requirements : List Requirement) : Requirements :=
  requirements.foldl addOne r

def newRequirements (requirements : List Requirement) : Requirements := empty.add requirements

def newNodeSelectorRequirements (requirements : List NodeSelectorRequirement) : Requirements :=
  newRequirements (requirements.map fun requirement =>
    newRequirementWithFlexibility requirement.key requirement.operator none requirement.values)

def newLabelRequirements (labels : AList (fun _ : String => String)) : Requirements :=
  newRequirements (labels.entries.map fun label => newRequirement label.1 .opIn [label.2])

/-- Keys present on both sides, iterated from the smaller map. -/
def intersectKeys (r rhs : Requirements) : List String :=
  if r.keys.length > rhs.keys.length then rhs.keys.filter r.has else r.keys.filter rhs.has

/-- The keys whose requirements do not overlap; two requirements that both accept an undefined
label are never reported. -/
def intersects (r requirements : Requirements) : List String :=
  (r.intersectKeys requirements).filter fun key =>
    let existing := r.get key
    let incoming := requirements.get key
    !existing.hasIntersection incoming && !(incoming.admitsAbsence && existing.admitsAbsence)

def compatible (r requirements : Requirements) (allowUndefined : Finset String) :
    Option CompatibilityError :=
  let undefinedKey := requirements.keys.find? fun key =>
    !decide (key ∈ allowUndefined) && !(r.has key || (requirements.get key).admitsAbsence)
  match undefinedKey with
  | some key => some (.undefinedLabel key)
  | none => match r.intersects requirements with
    | [] => none
    | bad => some (.badKeys bad)

def isCompatible (r requirements : Requirements) (allowUndefined : Finset String) : Bool :=
  (r.compatible requirements allowUndefined).isNone

def hasMinValues (r : Requirements) : Bool := r.values.any (·.minValues.isSome)

@[simp] theorem get?_empty (key : String) : empty.get? key = none := AList.lookup_empty key

variable (r : Requirements)

theorem get?_set (requirement : Requirement) (key : String) :
    (r.set requirement).get? key = if key = requirement.key then some requirement else r.get? key :=
  Map.lookup_insert_eq r.entries _ key _

theorem get?_delete (removed key : String) : (r.delete removed).get? key = if key = removed then none else r.get? key :=
  Map.lookup_erase_eq r.entries _ key

@[simp] theorem key_merge (requirement : Requirement) (existing : Option Requirement) :
    (merge requirement existing).key = requirement.key := by
  cases existing with
  | none => rfl
  | some existing => exact Requirement.key_intersection requirement existing

theorem get?_addOne (requirement : Requirement) (key : String) : (r.addOne requirement).get? key =
      if key = requirement.key then some (merge requirement (r.get? key)) else r.get? key := by
  rw [addOne, get?_set, key_merge]
  split
  · rename_i same
    rw [same]
  · rfl

theorem get?_keyed (r : Requirements) (found : r.get? key = some requirement) :
    requirement.key = key := r.keyed key requirement found

theorem mem_keys (key : String) : key ∈ r.keys ↔ (r.get? key).isSome = true := by
  rw [keys, get?, AList.lookup_isSome, AList.mem_keys]

theorem mem_values (requirement : Requirement) : requirement ∈ r.values ↔ r.get? requirement.key = some requirement := by
  simp only [values, List.mem_map, get?]
  constructor
  · rintro ⟨⟨key, stored⟩, member, rfl⟩
    have found : r.entries.lookup key = some stored := AList.mem_lookup_iff.mpr member
    rw [r.keyed key stored found]
    exact found
  · intro found
    exact ⟨⟨requirement.key, requirement⟩, AList.mem_lookup_iff.mp found, rfl⟩

theorem get_of_get? (r : Requirements) (found : r.get? key = some requirement) : r.get key = requirement := by
  simp only [get, found, Option.getD_some]

theorem mem_intersectKeys (r rhs : Requirements) (key : String) :
    key ∈ r.intersectKeys rhs ↔ (r.get? key).isSome = true ∧ (rhs.get? key).isSome = true := by
  unfold intersectKeys
  split <;> simp only [List.mem_filter, mem_keys, has]
  exact And.comm

/-- Two maps overlap when every shared key overlaps, or accepts an undefined label on both sides. -/
theorem intersects_eq_nil (r requirements : Requirements) : r.intersects requirements = [] ↔
    ∀ key existing incoming, r.get? key = some existing → requirements.get? key = some incoming →
      existing.hasIntersection incoming = true ∨ (incoming.admitsAbsence = true ∧ existing.admitsAbsence = true) := by
  simp only [intersects, List.filter_eq_nil_iff, mem_intersectKeys, Option.isSome_iff_exists]
  constructor
  · intro overlap key existing incoming left right
    have clean := overlap key ⟨⟨existing, left⟩, incoming, right⟩
    simp only [get_of_get? r left, get_of_get? requirements right] at clean
    cases h : existing.hasIntersection incoming
    · right
      simpa [h] using clean
    · exact .inl rfl
  · rintro overlap key ⟨⟨existing, left⟩, incoming, right⟩
    simp only [get_of_get? r left, get_of_get? requirements right]
    rcases overlap key existing incoming left right with shared | ⟨absentLeft, absentRight⟩
    · simp [shared]
    · simp [absentLeft, absentRight]

/-- What the compatibility test asks of one key of the incoming requirements. -/
def AdmitsKey (allowUndefined : Finset String) (key : String) (existing : Option Requirement)
    (incoming : Requirement) : Prop :=
  match existing with
  | none => key ∈ allowUndefined ∨ incoming.admitsAbsence = true
  | some existing => existing.hasIntersection incoming = true ∨
      (incoming.admitsAbsence = true ∧ existing.admitsAbsence = true)

theorem isCompatible_iff_admitsKey (r requirements : Requirements) (allowUndefined : Finset String) :
    r.isCompatible requirements allowUndefined = true ↔
      ∀ key incoming, requirements.get? key = some incoming → AdmitsKey allowUndefined key (r.get? key) incoming := by
  have tests : r.isCompatible requirements allowUndefined = true ↔ (∀ key ∈ requirements.keys,
      key ∈ allowUndefined ∨ (r.get? key).isSome = true ∨ (requirements.get key).admitsAbsence = true) ∧
      r.intersects requirements = [] := by
    rw [isCompatible, compatible]
    split
    · rename_i key found
      have rejected := List.find?_some found
      refine iff_of_false (by simp) fun both => ?_
      have := both.1 key (List.mem_of_find?_eq_some found)
      simp_all [has]
    · rename_i defined
      have known : ∀ key ∈ requirements.keys, key ∈ allowUndefined ∨ (r.get? key).isSome = true ∨
          (requirements.get key).admitsAbsence = true := by
        intro key member
        have := List.find?_eq_none.mp defined key member
        simp only [has] at this
        grind
      rw [and_iff_right known]
      split <;> simp_all
  rw [tests, intersects_eq_nil]
  constructor
  · rintro ⟨defined, overlap⟩ key incoming found
    cases existing : r.get? key with
    | none =>
      have undefined := defined key (by simp [mem_keys, found])
      simpa [AdmitsKey, existing, get_of_get? requirements found] using undefined
    | some stored => exact overlap key stored incoming existing found
  · intro each
    refine ⟨fun key member => ?_, fun key existing incoming stored found => ?_⟩
    · obtain ⟨incoming, found⟩ := Option.isSome_iff_exists.mp ((requirements.mem_keys key).mp member)
      have admitted := each key incoming found
      cases existing : r.get? key with
      | none =>
        rw [existing] at admitted
        rw [get_of_get? requirements found]
        exact admitted.imp_right .inr
      | some stored => exact .inr (.inl rfl)
    · have admitted := each key incoming found
      rwa [stored] at admitted

theorem admitsKey_single {key value : String} {existing : Option Requirement} {incoming : Requirement}
    (single : incoming.Single value) : AdmitsKey allowUndefined key existing incoming ↔
      match existing with
      | none => key ∈ allowUndefined
      | some existing => existing.has value = true := by
  cases existing with
  | none => simp [AdmitsKey, single.admitsAbsence]
  | some existing => simp [AdmitsKey, single.admitsAbsence, single.hasIntersection_iff]

/-- The requirement that repeated merging under one key leaves behind. -/
def mergeFrom (initial : Option Requirement) (parts : List Requirement) : Option Requirement :=
  parts.foldl (fun merged requirement => some (merge requirement merged)) initial

theorem get?_add (requirements : List Requirement) (key : String) : (r.add requirements).get? key =
      mergeFrom (r.get? key) (requirements.filter (·.key = key)) := by
  induction requirements generalizing r with
  | nil => rfl
  | cons requirement rest ih =>
    have step := ih (r.addOne requirement)
    rw [get?_addOne] at step
    by_cases same : key = requirement.key
    · rw [if_pos same] at step
      rw [List.filter_cons_of_pos (by simp [same])]
      exact step
    · rw [if_neg same] at step
      rw [List.filter_cons_of_neg (by simpa using Ne.symm same)]
      exact step

theorem get?_newRequirements (requirements : List Requirement) (key : String) :
    (newRequirements requirements).get? key = mergeFrom none (requirements.filter (·.key = key)) := by
  rw [newRequirements, get?_add, get?_empty]

end Requirements

/-- What a merged requirement keeps of the requirements it was merged from. Only a merge of
complements stays a complement; it then excludes the listed values that its bounds leave over. -/
structure Meets (merged : Requirement) (parts : List Requirement) : Prop where
  has_iff : ∀ value, merged.has value = true ↔ ∀ r ∈ parts, r.has value = true
  complements : merged.complement = true → ∀ r ∈ parts, r.complement = true
  bounds : merged.complement = true → ∀ value, withinBounds value merged.gte merged.lte = true ↔
    ∀ r ∈ parts, withinBounds value r.gte r.lte = true
  excluded : merged.complement = true → ∀ value, value ∈ merged.values ↔
    withinBounds value merged.gte merged.lte = true ∧ ∃ r ∈ parts, value ∈ r.values
  finite : merged.complement = false → merged.values = ∅ ∨ ∃ r ∈ parts, r.complement = false

namespace Meets

open Requirement

theorem single (r : Requirement) : Meets r [r] where
  has_iff := by simp
  complements := by simp
  bounds := by simp
  excluded := by
    intro _ value
    simp only [List.mem_singleton, exists_eq_left]
    exact ⟨fun member => ⟨r.bounded value member, member⟩, And.right⟩
  finite := by
    intro kind
    exact .inr ⟨r, List.mem_singleton_self r, kind⟩

theorem intersection (meets : Meets merged parts) (r : Requirement) : Meets (r.intersection merged) (r :: parts) where
  has_iff := by
    intro value
    rw [has_intersection, meets.has_iff, List.forall_mem_cons]
  complements := by
    intro kind
    obtain ⟨⟨left, right⟩, -⟩ := (complement_intersection r merged).mp kind
    rw [List.forall_mem_cons]
    exact ⟨left, meets.complements right⟩
  bounds := by
    intro kind value
    obtain ⟨⟨-, right⟩, -⟩ := (complement_intersection r merged).mp kind
    rw [gte_intersection kind, lte_intersection kind, withinBounds_meet, Bool.and_eq_true,
      meets.bounds right, List.forall_mem_cons]
  excluded := by
    intro kind value
    obtain ⟨⟨left, right⟩, -⟩ := (complement_intersection r merged).mp kind
    rw [gte_intersection kind, lte_intersection kind, values_intersection kind, Finset.mem_filter,
      Finset.mem_union, meets.excluded right]
    simp only [List.mem_cons, exists_eq_or_imp]
    constructor
    · rintro ⟨member | ⟨-, member⟩, inside⟩
      · exact ⟨inside, .inl member⟩
      · exact ⟨inside, .inr member⟩
    · rintro ⟨inside, member | member⟩
      · exact ⟨.inl member, inside⟩
      · have both := inside
        rw [withinBounds_meet, Bool.and_eq_true] at both
        exact ⟨.inr ⟨both.2, member⟩, inside⟩
  finite := by
    intro kind
    cases left : r.complement with
    | false => exact .inr ⟨r, List.mem_cons_self, left⟩
    | true =>
      have narrowed := values_intersection_subset left kind
      cases right : merged.complement with
      | false =>
        rcases meets.finite right with empty | ⟨part, member, concrete⟩
        · left
          rw [← Finset.subset_empty, ← empty]
          exact narrowed.1 right
        · exact .inr ⟨part, List.mem_cons_of_mem _ member, concrete⟩
      | true => exact .inl (narrowed.2 right)

theorem mergeFrom (meets : Meets merged parts) (added : List Requirement) :
    ∃ result, Requirements.mergeFrom (some merged) added = some result ∧ Meets result (added.reverse ++ parts) := by
  induction added generalizing merged parts with
  | nil => exact ⟨merged, rfl, meets⟩
  | cons r rest ih =>
    obtain ⟨result, computed, met⟩ := ih (meets.intersection r)
    refine ⟨result, computed, ?_⟩
    simpa only [List.reverse_cons, List.append_assoc, List.singleton_append] using met

theorem of_perm (meets : Meets merged parts) (same : ∀ r, r ∈ parts ↔ r ∈ other) : Meets merged other where
  has_iff := by simpa only [same] using meets.has_iff
  complements := by simpa only [same] using meets.complements
  bounds := by simpa only [same] using meets.bounds
  excluded := by simpa only [same] using meets.excluded
  finite := by simpa only [same] using meets.finite

end Meets

namespace Requirements

theorem get?_newRequirements_meets (requirements : List Requirement) (key : String)
    (found : (newRequirements requirements).get? key = some merged) :
    Meets merged (requirements.filter (·.key = key)) := by
  rw [get?_newRequirements] at found
  cases parts : requirements.filter (·.key = key) with
  | nil =>
    rw [parts] at found
    exact absurd found (by simp [mergeFrom])
  | cons first rest =>
    rw [parts] at found
    obtain ⟨result, computed, met⟩ := (Meets.single first).mergeFrom rest
    obtain rfl := Option.some.inj (computed.symm.trans found)
    apply met.of_perm
    intro r
    rw [List.mem_append, List.mem_reverse, List.mem_singleton, List.mem_cons]
    exact Or.comm

theorem mergeFrom_eq_none (parts : List Requirement) : mergeFrom none parts = none ↔ parts = [] := by
  cases parts with
  | nil => exact iff_of_true rfl rfl
  | cons first rest =>
    obtain ⟨result, computed, -⟩ := (Meets.single first).mergeFrom rest
    exact iff_of_false (fun absent => by cases computed.symm.trans absent) (by simp)

theorem get?_newRequirements_eq_none (requirements : List Requirement) (key : String) :
    (newRequirements requirements).get? key = none ↔ ∀ r ∈ requirements, r.key ≠ key := by
  rw [get?_newRequirements, mergeFrom_eq_none, List.filter_eq_nil_iff]
  simp

/-- Every key of the second map is kept by the first, with no value the second does not admit. -/
def Narrows (r original : Requirements) : Prop :=
  ∀ key requirement, original.get? key = some requirement →
    ∃ narrowed, r.get? key = some narrowed ∧ ∀ value, narrowed.has value = true → requirement.has value = true

variable (r : Requirements)

theorem Narrows.refl : r.Narrows r :=
  fun _ requirement found => ⟨requirement, found, fun _ inside => inside⟩

theorem Narrows.trans {r middle original : Requirements} (first : r.Narrows middle)
    (second : middle.Narrows original) : r.Narrows original := by
  intro key requirement found
  obtain ⟨between, inMiddle, wider⟩ := second key requirement found
  obtain ⟨narrowed, inFirst, admits⟩ := first key between inMiddle
  exact ⟨narrowed, inFirst, fun value inside => wider value (admits value inside)⟩

theorem narrows_addOne (requirement : Requirement) : (r.addOne requirement).Narrows r := by
  intro key existing found
  rw [get?_addOne]
  split
  · exact ⟨_, rfl, fun value inside => by
      rw [found] at inside
      exact ((Requirement.has_intersection _ _ value).mp inside).2⟩
  · exact ⟨existing, found, fun _ inside => inside⟩

theorem addOne_narrows_added (requirement : Requirement) :
    ∃ narrowed, (r.addOne requirement).get? requirement.key = some narrowed ∧
      ∀ value, narrowed.has value = true → requirement.has value = true := by
  rw [get?_addOne, if_pos rfl]
  refine ⟨_, rfl, fun value inside => ?_⟩
  cases existing : r.get? requirement.key with
  | none => rwa [existing] at inside
  | some existing' =>
    rw [existing] at inside
    exact ((Requirement.has_intersection _ _ value).mp inside).1

theorem narrows_add (added : List Requirement) : (r.add added).Narrows r := by
  induction added generalizing r with
  | nil => exact Narrows.refl r
  | cons requirement rest ih => exact (ih (r.addOne requirement)).trans (narrows_addOne r requirement)

theorem add_narrows_added (r : Requirements) (member : requirement ∈ added) :
    ∃ narrowed, (r.add added).get? requirement.key = some narrowed ∧
      ∀ value, narrowed.has value = true → requirement.has value = true := by
  induction added generalizing r with
  | nil => cases member
  | cons first rest ih =>
    rcases List.mem_cons.mp member with rfl | later
    · obtain ⟨placed, found, admits⟩ := addOne_narrows_added r requirement
      obtain ⟨narrowed, kept, tighter⟩ := narrows_add (r.addOne requirement) rest _ placed found
      exact ⟨narrowed, kept, fun value inside => admits value (tighter value inside)⟩
    · exact ih (r.addOne first) later

theorem add_narrows_values (r added : Requirements) : (r.add added.values).Narrows added := by
  intro key requirement found
  have keyed := get?_keyed added found
  have member : requirement ∈ added.values := (mem_values added requirement).mpr (by rw [keyed, found])
  obtain ⟨narrowed, kept, admits⟩ := add_narrows_added r member
  exact ⟨narrowed, keyed ▸ kept, admits⟩

/-- A list with one requirement for each entry has at most one for a key. -/
theorem filter_map_entries {ν : Type} {toRequirement : (Sigma fun _ : String => ν) → Requirement} (key : String)
    {entries : List (Sigma fun _ : String => ν)} (distinct : entries.NodupKeys)
    (keyed : ∀ entry ∈ entries, (toRequirement entry).key = key ↔ entry.1 = key) :
    (entries.map toRequirement).filter (·.key = key) =
      ((entries.dlookup key).map fun value => toRequirement ⟨key, value⟩).toList := by
  induction entries with
  | nil => rfl
  | cons entry rest ih =>
    obtain ⟨absent, distinct'⟩ := List.nodupKeys_cons.mp distinct
    obtain ⟨first, later⟩ := List.forall_mem_cons.mp keyed
    have others := ih distinct' later
    rw [List.map_cons]
    by_cases same : entry.1 = key
    · subst same
      rw [List.dlookup_eq_none.mpr absent] at others
      rw [List.filter_cons_of_pos (by simpa using first), others, List.dlookup_cons_eq]
      rfl
    · rw [List.dlookup_cons_ne _ _ (Ne.symm same), ← others, List.filter_cons_of_neg]
      simpa [first] using same

theorem filter_values (key : String) : r.values.filter (·.key = key) = (r.get? key).toList := by
  rw [values, filter_map_entries key r.entries.nodupKeys, Option.map_id']
  · rfl
  · rintro ⟨own, requirement⟩ member
    rw [r.keyed own requirement (AList.mem_lookup_iff.mpr member)]

theorem get?_add_values (r added : Requirements) (key : String) : (r.add added.values).get? key =
      match added.get? key with
      | none => r.get? key
      | some requirement => some (merge requirement (r.get? key)) := by
  rw [get?_add, filter_values]
  cases added.get? key <;> rfl

/-! What is left open under a key, whether or not the key is defined. -/
section Admitted

variable (r : Requirements) (key value : String)

theorem has_exists : (newRequirement key .opExists []).has value = true := by
  simp [newRequirement, newRequirementWithFlexibility, newUnbounded, Requirement.has]

variable (requirement : Requirement)

theorem has_merge : (merge requirement (r.get? key)).has value = true ↔
    (r.get key).has value = true ∧ requirement.has value = true := by
  cases found : r.get? key with
  | none => simp only [get, found, Option.getD_none, has_exists, true_and, merge]
  | some existing =>
    simp only [get, found, Option.getD_some, merge]
    exact (Requirement.has_intersection _ _ _).trans And.comm

theorem complement_merge (kind : (merge requirement (r.get? key)).complement = true) :
    (r.get key).complement = true ∧ requirement.complement = true := by
  cases found : r.get? key with
  | none =>
    rw [found] at kind
    simp only [get, found, Option.getD_none]
    exact ⟨rfl, kind⟩
  | some existing =>
    rw [found] at kind
    simp only [get, found, Option.getD_some]
    exact ((Requirement.complement_intersection _ _).mp kind).1.symm

theorem get_addOne : ((r.addOne requirement).get key).has value = true ↔
      (r.get key).has value = true ∧ (requirement.key = key → requirement.has value = true) := by
  rw [get, get?_addOne]
  by_cases same : key = requirement.key
  · rw [if_pos same, Option.getD_some, has_merge]
    simp [same]
  · rw [if_neg same]
    exact (and_iff_left fun equal => absurd equal.symm same).symm

theorem complement_get_addOne (kind : ((r.addOne requirement).get key).complement = true) :
    (r.get key).complement = true ∧ (requirement.key = key → requirement.complement = true) := by
  rw [get, get?_addOne] at kind
  by_cases same : key = requirement.key
  · rw [if_pos same, Option.getD_some] at kind
    obtain ⟨own, added⟩ := complement_merge r key requirement kind
    exact ⟨own, fun _ => added⟩
  · rw [if_neg same] at kind
    exact ⟨kind, fun equal => absurd equal.symm same⟩

theorem has_get_add (added : List Requirement) : ((r.add added).get key).has value = true ↔
    (r.get key).has value = true ∧ ∀ q ∈ added, q.key = key → q.has value = true := by
  exact Go.foldl_iff (P := fun r => (r.get key).has value = true) (fun r q => get_addOne r key value q) added r

theorem complement_get_add (added : List Requirement) (kind : ((r.add added).get key).complement = true) :
    (r.get key).complement = true ∧ ∀ q ∈ added, q.key = key → q.complement = true := by
  induction added generalizing r with
  | nil => exact ⟨kind, by simp⟩
  | cons first rest ih =>
    rw [add, List.foldl_cons, ← add] at kind
    obtain ⟨before, later⟩ := ih (r.addOne first) kind
    obtain ⟨own, here⟩ := complement_get_addOne r key first before
    exact ⟨own, List.forall_mem_cons.mpr ⟨here, later⟩⟩

theorem get_cases : (∃ q ∈ r.values, q.key = key ∧ r.get key = q) ∨
    (∀ q ∈ r.values, q.key ≠ key) ∧ r.get key = newRequirement key .opExists [] := by
  cases found : r.get? key with
  | none =>
    refine .inr ⟨fun q member same => ?_, by rw [get, found, Option.getD_none]⟩
    rw [mem_values, same, found] at member
    cases member
  | some q =>
    have keyed := get?_keyed r found
    refine .inl ⟨q, (mem_values r q).mpr (by rw [keyed, found]), keyed, get_of_get? r found⟩

theorem forall_values_has : (∀ q ∈ r.values, q.key = key → q.has value = true) ↔ (r.get key).has value = true := by
  rcases get_cases r key with ⟨q, member, keyed, own⟩ | ⟨absent, own⟩
  · rw [own]
    refine ⟨fun each => each q member keyed, fun admitted other inValues same => ?_⟩
    rw [mem_values, same] at inValues
    rw [← get_of_get? r inValues, own]
    exact admitted
  · rw [own]
    exact ⟨fun _ => has_exists key value, fun _ q member same => absurd same (absent q member)⟩

theorem has_get_add_values (added : Requirements) : ((r.add added.values).get key).has value = true ↔
    (r.get key).has value = true ∧ (added.get key).has value = true := by
  rw [has_get_add, forall_values_has]

theorem has_get_newRequirements_values :
    ((newRequirements r.values).get key).has value = true ↔ (r.get key).has value = true := by
  rw [newRequirements, has_get_add, forall_values_has]
  exact and_iff_right (has_exists key value)

theorem complement_get_add_values (added : Requirements) (kind : ((r.add added.values).get key).complement = true) :
    (r.get key).complement = true ∧ (added.get key).complement = true := by
  obtain ⟨own, each⟩ := complement_get_add r key added.values kind
  refine ⟨own, ?_⟩
  rcases get_cases added key with ⟨q, member, keyed, same⟩ | ⟨-, same⟩
  · rw [same]
    exact each q member keyed
  · rw [same]
    rfl

end Admitted

theorem get_of_alias {key : String} (aliased : normalizeKey key ≠ key) : r.get key = newRequirement key .opExists [] := by
  rcases get_cases r key with ⟨q, -, keyed, -⟩ | ⟨-, own⟩
  · exact absurd (keyed ▸ q.normalized) aliased
  · exact own

end Requirements

end Karpenter.Scheduling
