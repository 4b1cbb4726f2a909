import Mathlib.Data.List.Pairwise
import Mathlib.Order.Defs.PartialOrder

/-! Lists ordered by descending weight. The first element with a property has the highest weight among those that
have it, and the last one tells whether another element of the lowest weight had it, too. -/
namespace Karpenter.Precedence

variable {α : Type*} {β : Type*} {ω : Type*} [PartialOrder ω] (weight : α → ω)

def Descending (l : List α) : Prop := l.Pairwise fun a b => weight b ≤ weight a

/-- The last element with a property. -/
def last (p : α → Bool) (l : List α) : Option α := l.reverse.find? p

/-- The element has the property, and no element that has it weighs more. -/
structure Highest (p : α → Bool) (l : List α) (a : α) : Prop where
  mem : a ∈ l
  has : p a = true
  le : ∀ b ∈ l, p b = true → weight b ≤ weight a

/-- No two elements of the same weight have the property. -/
def Exclusive (p : α → Bool) (l : List α) : Prop :=
  l.Pairwise fun a b => weight a = weight b → ¬ (p a = true ∧ p b = true)

variable {weight}

theorem last_concat (p : α → Bool) (l : List α) (a : α) :
    last p (l ++ [a]) = if p a = true then some a else last p l := by
  rw [last, List.reverse_append, List.reverse_singleton, List.singleton_append, List.find?_cons]
  cases p a <;> rfl

theorem first_concat (p : α → Bool) (l : List α) (a : α) :
    (l ++ [a]).find? p = (l.find? p).or (if p a = true then some a else none) := by
  rw [List.find?_append, List.find?_singleton]

theorem mem_of_last (found : last p l = some a) : a ∈ l ∧ p a = true :=
  ⟨List.mem_reverse.mp (List.mem_of_find?_eq_some found), List.find?_some found⟩

/-- After an element of the lowest weight so far, the last one that has the property decides whether one of
that weight has it. -/
theorem exists_weight_iff (descending : Descending weight (l ++ [b])) :
    (∃ a, last p l = some a ∧ weight a = weight b) ↔ ∃ a ∈ l, p a = true ∧ weight a = weight b := by
  constructor
  · rintro ⟨a, found, same⟩
    exact ⟨a, (mem_of_last found).1, (mem_of_last found).2, same⟩
  · rintro ⟨a, member, has, same⟩
    obtain ⟨ordered, -, lowest⟩ := List.pairwise_append.mp descending
    obtain ⟨before, after, rfl⟩ := List.append_of_mem member
    cases found : last p (before ++ a :: after) with
    | none =>
      have missing := List.find?_eq_none.mp found a (List.mem_reverse.mpr member)
      exact absurd has missing
    | some z =>
      refine ⟨z, rfl, ?_⟩
      have inList := (mem_of_last found).1
      have atLeast := lowest z inList b List.mem_cons_self
      -- The last one does not stand before a, so it weighs no more than a.
      have after_a : z = a ∨ z ∈ after := by
        rw [last, List.reverse_append, List.reverse_cons, List.append_assoc, List.find?_append] at found
        rcases Option.or_eq_some_iff.mp found with inAfter | ⟨-, rest⟩
        · exact .inr (List.mem_reverse.mp (List.mem_of_find?_eq_some inAfter))
        · rw [List.singleton_append, List.find?_cons, has] at rest
          exact .inl (Option.some.inj rest).symm
      rcases after_a with rfl | later
      · exact same
      · have atMost : weight z ≤ weight a :=
          List.rel_of_pairwise_cons (List.pairwise_append.mp ordered).2.1 later
        exact le_antisymm (le_trans atMost (le_of_eq same)) atLeast

theorem highest_of_first (descending : Descending weight l) (found : l.find? p = some a) : Highest weight p l a := by
  refine ⟨List.mem_of_find?_eq_some found, List.find?_some found, fun b member has => ?_⟩
  obtain ⟨-, before, after, rfl, none_before⟩ := List.find?_eq_some_iff_append.mp found
  rcases List.mem_append.mp member with earlier | later
  · have missing := none_before b earlier
    rw [has] at missing
    cases missing
  · rcases List.mem_cons.mp later with rfl | later
    · exact le_rfl
    · exact List.rel_of_pairwise_cons (List.pairwise_append.mp descending).2.1 later

theorem Highest.unique (exclusive : Exclusive weight p l) (first : Highest weight p l a) (second : Highest weight p l b) :
    a = b := by
  by_contra different
  have same : weight a = weight b := le_antisymm (second.le a first.mem first.has) (first.le b second.mem second.has)
  have symmetric : Std.Symm fun x y => weight x = weight y → ¬ (p x = true ∧ p y = true) :=
    ⟨fun _ _ apart equal both => apart equal.symm both.symm⟩
  exact List.Pairwise.forall exclusive first.mem second.mem different same ⟨first.has, second.has⟩

theorem first_value_iff (descending : Descending weight l) (exclusive : Exclusive weight p l) (value : α → Option β)
    (v : β) : (l.find? p).bind value = some v ↔ ∃ a, Highest weight p l a ∧ value a = some v := by
  constructor
  · intro given
    obtain ⟨a, found, given⟩ := Option.bind_eq_some_iff.mp given
    exact ⟨a, highest_of_first descending found, given⟩
  · rintro ⟨a, highest, given⟩
    obtain ⟨z, found⟩ := Option.isSome_iff_exists.mp (List.find?_isSome.mpr ⟨a, highest.mem, highest.has⟩)
    rw [found, Option.bind_some, (highest_of_first descending found).unique exclusive highest]
    exact given

end Karpenter.Precedence
