import Mathlib.Data.List.Basic

/-! Properties of a trace that relate every entry to the entries before it. -/
namespace Karpenter.Trace

variable {α : Type*} {P : List α → α → Prop} {l more : List α}

/-- The property holds of every entry with what comes before it. -/
def Each (P : List α → α → Prop) (l : List α) : Prop := ∀ before x after, l = before ++ x :: after → P before x

/-- A trace is extended with entries that have the property after it. -/
theorem each_append : Each P (l ++ more) ↔ Each P l ∧ Each (fun before => P (l ++ before)) more := by
  constructor
  · intro each
    refine ⟨fun before x after split => each before x (after ++ more) ?_, fun before x after split => ?_⟩
    · rw [split, List.append_assoc, List.cons_append]
    · exact each (l ++ before) x after (by rw [split, List.append_assoc])
  · rintro ⟨earlier, later⟩ before x after split
    rcases List.append_eq_append_iff.mp split with ⟨between, rfl, rest⟩ | ⟨between, rfl, rest⟩
    · exact later between x after rest
    · cases between with
      | nil =>
        rw [List.append_nil] at later
        have now : P (before ++ []) x := later [] x after rest.symm
        rwa [List.append_nil] at now
      | cons y between =>
        obtain ⟨rfl, rfl⟩ := List.cons.inj rest
        exact earlier before x between rfl

theorem each_singleton {x : α} : Each P [x] ↔ P [] x := by
  constructor
  · intro each
    exact each [] x [] rfl
  · intro holds before y after split
    cases before with
    | nil =>
      obtain ⟨rfl, -⟩ := List.cons.inj split
      exact holds
    | cons => simp at split

end Karpenter.Trace
