import Karpenter.Scheduling.Requirement
import Karpenter.Go.Map
import Mathlib.Data.String.Basic

/-! The value that is made up for a label whose requirement leaves several open. Integer arithmetic is
that of 64-bit machine words, and `rand.Intn` panics unless its argument is positive. -/
namespace Karpenter.Scheduling

open Karpenter.Go

/-- The outcome of the choices in one call: the value a set lists first, and the result of `rand.Intn`. -/
structure Draw where
  first : Finset String → String
  intn : Int → Int
  first_mem : ∀ values : Finset String, values.Nonempty → first values ∈ values
  intn_range : ∀ n, 0 < n → 0 ≤ intn n ∧ intn n < n

namespace Draw

theorem sorted_headD_mem (values : Finset String) (nonempty : values.Nonempty) :
    (Go.sorted values).headD "" ∈ values := by
  rw [← Go.mem_sorted]
  cases sorted : Go.sorted values with
  | nil =>
    rw [← Go.toFinset_sorted values, sorted] at nonempty
    exact absurd nonempty (by simp)
  | cons least rest => exact List.mem_cons_self

theorem preferred_mem (value : String) (values : Finset String) (nonempty : values.Nonempty) :
    (if value ∈ values then value else (Go.sorted values).headD "") ∈ values := by
  split
  · assumption
  · exact sorted_headD_mem values nonempty

theorem preferred_range (offset n : Int) (positive : 0 < n) :
    0 ≤ (if 0 ≤ offset ∧ offset < n then offset else 0) ∧ (if 0 ≤ offset ∧ offset < n then offset else 0) < n := by
  split <;> omega

/-- A value that is listed first wherever it occurs, and an integer that is drawn wherever it is in
range. -/
def preferring (value : String) (offset : Int) : Draw where
  first values := if value ∈ values then value else (Go.sorted values).headD ""
  intn n := if 0 ≤ offset ∧ offset < n then offset else 0
  first_mem := preferred_mem value
  intn_range := preferred_range offset

theorem first_preferring (member : value ∈ values) : (preferring value offset).first values = value :=
  if_pos member

theorem intn_preferring (inRange : 0 ≤ offset ∧ offset < n) : (preferring value offset).intn n = offset :=
  if_pos inRange

end Draw

namespace Requirement

variable (r : Requirement)

def sampleMin : Int := r.gte.getD 0

/-- The exclusive end of the sampled range. -/
def sampleMax : Int :=
  match r.lte with
  | some lte => wrap (lte + 1)
  | none => maxInt

/-- The argument of `rand.Intn`. -/
def sampleWidth : Int := wrap (r.sampleMax - r.sampleMin)

def any (draw : Draw) : Option String :=
  match r.operator with
  | .opIn => some (draw.first r.values)
  | .opNotIn | .opExists =>
    if 0 < r.sampleWidth then some (formatInt (wrap (draw.intn r.sampleWidth + r.sampleMin))) else none
  | _ => some ""

/-- The greatest integer that can be sampled. -/
def sampleLast : Int := r.lte.getD (maxInt - 1)

/-- The range is not empty and its width is a machine integer. -/
def Drawable : Prop := r.sampleMin ≤ r.sampleLast ∧ r.sampleLast - r.sampleMin < maxInt

instance : Decidable r.Drawable := inferInstanceAs (Decidable (_ ∧ _))

theorem sampleMin_range : minInt ≤ r.sampleMin ∧ r.sampleMin ≤ maxInt := by
  unfold sampleMin
  cases low : r.gte with
  | none => exact ⟨by decide, by decide⟩
  | some bound => exact r.ranged bound (.inl low)

/-- The machine width is the true one, or the range cannot be drawn from. Bounds in the right order
are what rules out the wrapped difference that would look positive. -/
theorem sampleWidth_cases :
    (r.Drawable ∧ r.sampleWidth = r.sampleLast - r.sampleMin + 1) ∨ (¬ r.Drawable ∧ r.sampleWidth ≤ 0) := by
  have low := r.sampleMin_range
  unfold Drawable sampleWidth sampleMax sampleLast
  cases high : r.lte with
  | none =>
    simp only [Option.getD_none]
    unfold wrap
    simp only [minInt, maxInt] at *
    omega
  | some lte =>
    have range := r.ranged lte (.inr high)
    have ordered : r.gte = none ∨ r.sampleMin ≤ lte := by
      cases bound : r.gte with
      | none => exact .inl rfl
      | some gte =>
        have uncrossed := r.ordered
        simp only [crossed, bound, high, gt_iff_lt, decide_eq_false_iff_not, not_lt] at uncrossed
        simp only [sampleMin, bound, Option.getD_some]
        exact .inr uncrossed
    have zero : r.gte = none → r.sampleMin = 0 := fun none => by rw [sampleMin, none]; rfl
    simp only [Option.getD_some]
    unfold wrap
    simp only [minInt, maxInt] at *
    rcases ordered with unbounded | ordered
    · have := zero unbounded
      omega
    · omega

theorem sampleLast_le : r.sampleLast ≤ maxInt := by
  unfold sampleLast
  cases high : r.lte with
  | none => decide
  | some lte => exact (r.ranged lte (.inr high)).2

theorem sampleWidth_pos : 0 < r.sampleWidth ↔ r.Drawable := by
  rcases r.sampleWidth_cases with ⟨drawable, width⟩ | ⟨undrawable, width⟩
  · refine ⟨fun _ => drawable, fun _ => ?_⟩
    have := drawable.1
    omega
  · exact ⟨fun positive => absurd positive (not_lt.mpr width), fun drawable => absurd drawable undrawable⟩

variable {r}

theorem sampleWidth_of_drawable (drawable : r.Drawable) : r.sampleWidth = r.sampleLast - r.sampleMin + 1 := by
  rcases r.sampleWidth_cases with ⟨-, width⟩ | ⟨undrawable, -⟩
  · exact width
  · exact absurd drawable undrawable

theorem any_concrete (kind : r.complement = false) (nonempty : r.values.Nonempty) (draw : Draw) :
    r.any draw = some (draw.first r.values) := by
  have operator : r.operator = .opIn := by
    rw [operator_eq, kind, if_neg Bool.false_ne_true, if_neg nonempty.ne_empty]
  rw [any, operator]

theorem any_complement (kind : r.complement = true) (draw : Draw) : r.any draw =
      if 0 < r.sampleWidth then some (formatInt (wrap (draw.intn r.sampleWidth + r.sampleMin))) else none := by
  have operator : r.operator = .opNotIn ∨ r.operator = .opExists := by
    rw [operator_eq, kind, if_pos rfl]
    split
    · exact .inr rfl
    · exact .inl rfl
  rcases operator with operator | operator <;> rw [any, operator]

/-- A panic is the only other outcome of a draw from the range. -/
theorem any_undrawable (kind : r.complement = true) (undrawable : ¬ r.Drawable) (draw : Draw) : r.any draw = none := by
  rw [any_complement kind, if_neg (mt r.sampleWidth_pos.mp undrawable)]

theorem any_drawable (kind : r.complement = true) (drawable : r.Drawable) (draw : Draw) :
    r.any draw = some (formatInt (draw.intn r.sampleWidth + r.sampleMin)) ∧
      r.sampleMin ≤ draw.intn r.sampleWidth + r.sampleMin ∧ draw.intn r.sampleWidth + r.sampleMin ≤ r.sampleLast := by
  have positive := r.sampleWidth_pos.mpr drawable
  have width := sampleWidth_of_drawable drawable
  obtain ⟨low, high⟩ := draw.intn_range _ positive
  have least := r.sampleMin_range
  have last := r.sampleLast_le
  have inside : wrap (draw.intn r.sampleWidth + r.sampleMin) = draw.intn r.sampleWidth + r.sampleMin := by
    apply wrap_of_range <;> omega
  refine ⟨?_, by omega, by omega⟩
  rw [any_complement kind, if_pos positive, inside]

theorem exists_draw (kind : r.complement = true) (drawable : r.Drawable) (low : r.sampleMin ≤ n)
    (high : n ≤ r.sampleLast) : ∃ draw, r.any draw = some (formatInt n) := by
  have width := sampleWidth_of_drawable drawable
  refine ⟨.preferring "" (n - r.sampleMin), ?_⟩
  have inRange : 0 ≤ n - r.sampleMin ∧ n - r.sampleMin < r.sampleWidth := by omega
  rw [(any_drawable kind drawable _).1, Draw.intn_preferring inRange, Int.sub_add_cancel]

theorem has_sample (kind : r.complement = true) (low : r.sampleMin ≤ n) (high : n ≤ r.sampleLast) :
    r.has (formatInt n) = true ↔ formatInt n ∉ r.values := by
  rw [has_complement r kind, and_iff_left_iff_imp]
  intro _
  have least := r.sampleMin_range
  have last := r.sampleLast_le
  rw [withinBounds_iff]
  right
  refine ⟨n, integer?_formatInt (by omega) (by omega), ?_, ?_⟩
  · unfold sampleMin at low
    cases bound : r.gte <;> simp_all
  · unfold sampleLast at high
    cases bound : r.lte <;> simp_all

/-- The range can be drawn from and none of its integers is excluded. -/
def Samplable (r : Requirement) : Prop :=
  r.Drawable ∧ ∀ n, r.sampleMin ≤ n → n ≤ r.sampleLast → formatInt n ∉ r.values

theorem any_admitted_iff (kind : r.complement = true) :
    (∀ draw, ∃ value, r.any draw = some value ∧ r.has value = true) ↔ r.Samplable := by
  constructor
  · intro admitted
    have drawable : r.Drawable := by
      by_contra undrawable
      obtain ⟨value, drawn, -⟩ := admitted (.preferring "" 0)
      rw [any_undrawable kind undrawable] at drawn
      cases drawn
    refine ⟨drawable, fun n low high => ?_⟩
    obtain ⟨draw, outcome⟩ := exists_draw kind drawable low high
    obtain ⟨value, drawn, inside⟩ := admitted draw
    rw [outcome, Option.some.injEq] at drawn
    subst drawn
    exact (has_sample kind low high).mp inside
  · rintro ⟨drawable, unexcluded⟩ draw
    obtain ⟨drawn, low, high⟩ := any_drawable kind drawable draw
    exact ⟨_, drawn, (has_sample kind low high).mpr (unexcluded _ low high)⟩

/-- A requirement that admits something yields an admitted value, unless it has to sample a range
that is not samplable. -/
theorem any_admitted (admits : ∃ value, r.has value = true) (samplable : r.complement = true → r.Samplable)
    (draw : Draw) : ∃ value, r.any draw = some value ∧ r.has value = true := by
  cases kind : r.complement with
  | true => exact (any_admitted_iff kind).mpr (samplable kind) draw
  | false =>
    obtain ⟨value, admitted⟩ := admits
    have nonempty : r.values.Nonempty := ⟨value, (has_concrete r kind value).mp admitted⟩
    exact ⟨_, any_concrete kind nonempty draw, (has_concrete r kind _).mpr (draw.first_mem _ nonempty)⟩

/-- A sampled integer is never written as the empty text. -/
theorem any_ne_empty (kind : r.complement = true) (drawn : r.any draw = some value) : value ≠ "" := by
  rintro rfl
  rw [any_complement kind] at drawn
  split at drawn
  · have range := wrap_range (draw.intn r.sampleWidth + r.sampleMin)
    have parsed := integer?_formatInt range.1 range.2
    rw [Option.some.inj drawn] at parsed
    exact absurd parsed (by simp [show integer? "" = none by decide])
  · cases drawn

end Requirement

end Karpenter.Scheduling
