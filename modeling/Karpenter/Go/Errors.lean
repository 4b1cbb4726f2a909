import Mathlib.Data.List.Basic

/-! Loops that stop at the first error. -/
namespace Karpenter.Go

variable {ε : Type u} {α β : Type v}

theorem bind_ok {x : Except ε α} : x >>= next = .ok result ↔ ∃ value, x = .ok value ∧ next value = .ok result := by
  cases x with
  | error err => simp [bind, Except.bind]
  | ok value => simp [bind, Except.bind]

theorem mapError_ok {x : Except ε α} : x.mapError f = .ok value ↔ x = .ok value := by
  cases x <;> simp [Except.mapError]

/-- Every element of the result comes from a pass that went through, and every pass has its element. -/
theorem mapM_ok {f : α → Except ε β} {l : List α} (done : l.mapM f = .ok results) :
    (∀ x ∈ l, ∃ y ∈ results, f x = .ok y) ∧ ∀ y ∈ results, ∃ x ∈ l, f x = .ok y := by
  induction l generalizing results with
  | nil =>
    cases done
    simp
  | cons first rest ih =>
    rw [List.mapM_cons, bind_ok] at done
    obtain ⟨value, passed, done⟩ := done
    rw [bind_ok] at done
    obtain ⟨others, later, built⟩ := done
    cases built
    obtain ⟨forward, backward⟩ := ih later
    constructor
    · refine List.forall_mem_cons.mpr ⟨⟨value, List.mem_cons_self, passed⟩, fun x member => ?_⟩
      obtain ⟨y, inside, same⟩ := forward x member
      exact ⟨y, List.mem_cons_of_mem _ inside, same⟩
    · refine List.forall_mem_cons.mpr ⟨⟨first, List.mem_cons_self, passed⟩, fun y member => ?_⟩
      obtain ⟨x, inside, same⟩ := backward y member
      exact ⟨x, List.mem_cons_of_mem _ inside, same⟩

/-- A rule for a fold that may fail: what holds of no step, and of one step before others, holds of all. -/
theorem foldlM_ok {f : σ → β → Except ε σ} (motive : σ → List β → σ → Prop) (none : ∀ state, motive state [] state)
    (step : ∀ state x rest next last, f state x = .ok next → motive next rest last → motive state (x :: rest) last)
    (done : items.foldlM f state = .ok last) : motive state items last := by
  induction items generalizing state with
  | nil =>
    cases done
    exact none _
  | cons x rest ih =>
    rw [List.foldlM_cons] at done
    obtain ⟨next, stepped, later⟩ := bind_ok.mp done
    exact step state x rest next last stepped (ih later)

/-- A rule for a fold that may panic: what every step keeps, the loop keeps. -/
theorem foldlM_some {R : σ → σ → Prop} (refl : ∀ state, R state state) (trans : ∀ {a b c}, R a b → R b c → R a c)
    {items : List β} (each : ∀ state x next, x ∈ items → f state x = some next → R state next)
    (done : items.foldlM f state = some last) : R state last := by
  induction items generalizing state with
  | nil =>
    cases done
    exact refl _
  | cons x rest ih =>
    rw [List.foldlM_cons] at done
    obtain ⟨next, stepped, later⟩ := Option.bind_eq_some_iff.mp done
    exact trans (each state x next List.mem_cons_self stepped)
      (ih (fun state y next member => each state y next (List.mem_cons_of_mem _ member)) later)

theorem map_of_mapM_ok {f : α → Except ε β} {source : List α} (done : source.mapM f = .ok target)
    (each : ∀ x y, f x = .ok y → h y = g x) : target.map h = source.map g := by
  induction source generalizing target with
  | nil =>
    cases done
    rfl
  | cons x rest ih =>
    rw [List.mapM_cons] at done
    obtain ⟨head, first, done⟩ := bind_ok.mp done
    obtain ⟨tail, later, built⟩ := bind_ok.mp done
    cases built
    rw [List.map_cons, List.map_cons, ih later, each x head first]

theorem map_eq_ok {result : Except ε α} (done : result.map f = .ok y) : ∃ x, result = .ok x ∧ f x = y := by
  cases result with
  | error err => cases done
  | ok x => exact ⟨x, rfl, Except.ok.inj done⟩

end Karpenter.Go
