import Mathlib.Logic.Relation

/-! Programs that call a world. Between two calls the world changes by itself, and the program may be stopped for good,
so what is to hold always has to hold after every call. A program is run again and again. -/
namespace Karpenter.Interaction

variable {Call : Type → Type} {World α β ρ : Type}

/-- Calls are given by the type of their replies. -/
inductive Program (Call : Type → Type) (α : Type) : Type 1 where
  | ret (a : α)
  | call {ρ : Type} (c : Call ρ) (next : ρ → Program Call α)

namespace Program

def bind : Program Call α → (α → Program Call β) → Program Call β
  | .ret a, f => f a
  | .call c next, f => .call c fun r => (next r).bind f

/-- One call, whose reply is returned. -/
def perform (c : Call ρ) : Program Call ρ := .call c .ret

end Program

/-- What a program runs in. -/
structure System (Call : Type → Type) (World : Type) where
  /-- The program that is started in a world. -/
  main : World → Program Call Unit
  answer {ρ : Type} : World → Call ρ → ρ → World → Prop
  interfere : World → World → Prop
  crash : World → World

structure Config (Call : Type → Type) (World : Type) where
  world : World
  running : Option (Program Call Unit) := none

namespace System

variable (system : System Call World)

inductive Step : Config Call World → Config Call World → Prop where
  | start (w : World) : Step ⟨w, none⟩ ⟨w, some (system.main w)⟩
  | call {ρ : Type} {w w' : World} {c : Call ρ} {r : ρ} (next : ρ → Program Call Unit)
    (answered : system.answer w c r w') : Step ⟨w, some (.call c next)⟩ ⟨w', some (next r)⟩
  | finish (w : World) : Step ⟨w, some (.ret ())⟩ ⟨w, none⟩
  | crash (w : World) (running : Option (Program Call Unit)) : Step ⟨w, running⟩ ⟨system.crash w, none⟩
  | interfere {w w' : World} (running : Option (Program Call Unit)) (changed : system.interfere w w') :
    Step ⟨w, running⟩ ⟨w', running⟩

/-- The worlds that runs lead to from a first one. -/
def Reaches (first w : World) : Prop := ∃ running, Relation.ReflTransGen system.Step ⟨first, none⟩ ⟨w, running⟩

/-- Every call of the program keeps the invariant, whatever happens before it, and the result is as wanted. -/
def Safe (invariant : World → Prop) (result : α → World → Prop) : Program Call α → World → Prop
  | .ret a, w => result a w
  | .call c next, w => ∀ before, Relation.ReflTransGen system.interfere w before →
      ∀ r after, system.answer before c r after → invariant after ∧ Safe invariant result (next r) after

/-- The world does not change an assertion by itself. -/
def Stable (assertion : World → Prop) : Prop := ∀ w w', system.interfere w w' → assertion w → assertion w'

variable {system} {invariant assertion : World → Prop} {result : α → World → Prop}

theorem Stable.after (stable : system.Stable assertion) (changes : Relation.ReflTransGen system.interfere w before)
    (holds : assertion w) : assertion before := by
  induction changes with
  | refl => exact holds
  | tail _ changed ih => exact stable _ _ changed ih

theorem safe_call (stable : system.Stable assertion) (holds : assertion w) {c : Call ρ} {next : ρ → Program Call α}
    (each : ∀ before r after, assertion before → system.answer before c r after →
      invariant after ∧ system.Safe invariant result (next r) after) :
    system.Safe invariant result (.call c next) w := fun before changes r after answered =>
  each before r after (stable.after changes holds) answered

theorem safe_bind {wanted : β → World → Prop} (safe : system.Safe invariant result p w)
    (then_ : ∀ a w, result a w → system.Safe invariant wanted (f a) w) : system.Safe invariant wanted (p.bind f) w := by
  induction p generalizing w with
  | ret a => exact then_ a w safe
  | call c next ih =>
    intro before changes r after answered
    obtain ⟨kept, rest⟩ := safe before changes r after answered
    exact ⟨kept, ih r rest⟩

theorem safe_mono {wanted : α → World → Prop} (safe : system.Safe invariant result p w)
    (imp : ∀ a w, result a w → wanted a w) : system.Safe invariant wanted p w := by
  induction p generalizing w with
  | ret a => exact imp a w safe
  | call c next ih =>
    intro before changes r after answered
    obtain ⟨kept, rest⟩ := safe before changes r after answered
    exact ⟨kept, ih r rest⟩

/-- The invariant holds in every world that runs lead to. -/
theorem invariant_of_reaches (start : invariant first) (stable : system.Stable invariant)
    (crash : ∀ w, invariant w → invariant (system.crash w))
    (safe : ∀ w, invariant w → system.Safe invariant (fun _ _ => True) (system.main w) w)
    (reaches : system.Reaches first w) : invariant w := by
  obtain ⟨running, steps⟩ := reaches
  suffices all : ∀ config, Relation.ReflTransGen system.Step ⟨first, none⟩ config → invariant config.world ∧
      ∀ p ∈ config.running, ∃ w₀, Relation.ReflTransGen system.interfere w₀ config.world ∧
        system.Safe invariant (fun _ _ => True) p w₀ from (all _ steps).1
  intro config steps
  induction steps with
  | refl => exact ⟨start, fun p running => nomatch running⟩
  | tail _ step ih =>
    obtain ⟨holds, ongoing⟩ := ih
    cases step with
    | start w =>
      refine ⟨holds, fun p running => ⟨w, .refl, ?_⟩⟩
      cases running
      exact safe w holds
    | call next answered =>
      obtain ⟨w₀, changes, safe⟩ := ongoing _ rfl
      obtain ⟨kept, rest⟩ := safe _ changes _ _ answered
      refine ⟨kept, fun p running => ⟨_, .refl, ?_⟩⟩
      cases running
      exact rest
    | finish w => exact ⟨holds, fun p running => nomatch running⟩
    | crash w running => exact ⟨crash w holds, fun p running => nomatch running⟩
    | interfere running changed =>
      refine ⟨stable _ _ changed holds, fun p isRunning => ?_⟩
      obtain ⟨w₀, changes, safe⟩ := ongoing p isRunning
      exact ⟨w₀, changes.tail changed, safe⟩

section Running

variable (system)

/-- A run from one world to another between two programs. -/
abbrev Runs (w w' : World) : Prop := Relation.ReflTransGen system.Step ⟨w, none⟩ ⟨w', none⟩

/-- The program may return a result in a world, without interference. -/
def Returns : Program Call α → World → α → World → Prop
  | .ret a, w, result, w' => a = result ∧ w = w'
  | .call c next, w, result, w' => ∃ r after, system.answer w c r after ∧ Returns (next r) after result w'

variable {system}

theorem returns_perform (answered : system.answer w c r w') : system.Returns (Program.perform c) w r w' := ⟨r, w', answered, rfl, rfl⟩

theorem returns_bind (first : system.Returns p w a w₁) (second : system.Returns (f a) w₁ b w') :
    system.Returns (p.bind f) w b w' := by
  induction p generalizing w with
  | ret a =>
    obtain ⟨rfl, rfl⟩ := first
    exact second
  | call c next ih =>
    obtain ⟨r, after, answered, rest⟩ := first
    exact ⟨r, after, answered, ih r rest⟩

theorem run_of_returns (returns : system.Returns (system.main w) w () w') : system.Runs w w' := by
  have steps (p : Program Call Unit) (w : World) (returns : system.Returns p w () w') :
      Relation.ReflTransGen system.Step ⟨w, some p⟩ ⟨w', none⟩ := by
    induction p generalizing w with
    | ret a =>
      obtain ⟨rfl, rfl⟩ := returns
      exact .single (.finish w)
    | call c next ih =>
      obtain ⟨r, after, answered, rest⟩ := returns
      exact .head (.call next answered) (ih r after rest)
  exact .head (.start w) (steps _ w returns)

end Running

end System

end Karpenter.Interaction
