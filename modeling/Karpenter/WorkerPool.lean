import Mathlib.Data.List.Basic
import Mathlib.Algebra.Ring.Nat
import Mathlib.Logic.Relation
import Mathlib.Order.WellFounded

/-! Workers that draw numbered pieces of work from a closed channel, in order, and leave as soon as a piece
they worked on is a hit. Hits are recorded under a lock, and an earlier piece replaces a later one. Whatever
the interleaving, all workers leave in the end, and the record is then the first hit of all pieces: a worker
leaves early only after a hit, and every piece before a recorded hit has been handed out. -/
namespace Karpenter.WorkerPool

inductive Worker where
  | idle
  | busy (piece : Nat)
  | done
  deriving DecidableEq

/-- The next piece on the channel, the workers, and what is kept under the lock. -/
structure Pool (α : Type) where
  next : Nat := 0
  workers : List Worker
  record : Option (Nat × α) := none

variable {α : Type} (pieces : Nat) (outcome : Nat → Option α)

/-- The section under the lock: an earlier hit wins. -/
def keepFirst (record : Option (Nat × α)) (piece : Nat) (hit : α) : Option (Nat × α) :=
  match record with
  | none => some (piece, hit)
  | some (other, kept) => if other ≤ piece then some (other, kept) else some (piece, hit)

/-- A worker takes a piece, finds the channel empty, goes on after a miss, or leaves after a hit. -/
inductive Step : Pool α → Pool α → Prop where
  | take {p : Pool α} {w : Nat} (idle : p.workers[w]? = some .idle) (left : p.next < pieces) :
      Step p { p with next := p.next + 1, workers := p.workers.set w (.busy p.next) }
  | exhausted {p : Pool α} {w : Nat} (idle : p.workers[w]? = some .idle) (empty : pieces ≤ p.next) :
      Step p { p with workers := p.workers.set w .done }
  | miss {p : Pool α} {w piece : Nat} (busy : p.workers[w]? = some (.busy piece))
      (missed : outcome piece = none) : Step p { p with workers := p.workers.set w .idle }
  | hit {p : Pool α} {w piece : Nat} {found : α} (busy : p.workers[w]? = some (.busy piece))
      (hits : outcome piece = some found) :
      Step p { p with workers := p.workers.set w .done, record := keepFirst p.record piece found }

def Reaches : Pool α → Pool α → Prop := Relation.ReflTransGen (Step pieces outcome)

/-- No more workers than pieces are started. -/
def start (workers : Nat) : Pool α where
  workers := List.replicate (min workers pieces) .idle

def Pool.finished (p : Pool α) : Prop := ∀ worker ∈ p.workers, worker = .done

/-- The record of a sequential search. -/
def IsFirst (record : Option (Nat × α)) : Prop :=
  match record with
  | none => ∀ piece < pieces, outcome piece = none
  | some (piece, found) => piece < pieces ∧ outcome piece = some found ∧ ∀ earlier < piece, outcome earlier = none

/-- Every hit that was handed out is being worked on or is no earlier than the record. -/
structure Invariant (p : Pool α) : Prop where
  bounded : p.next ≤ pieces
  handed : ∀ piece, .busy piece ∈ p.workers → piece < p.next
  recorded : ∀ piece found, p.record = some (piece, found) → piece < p.next ∧ outcome piece = some found
  covered : ∀ piece found, piece < p.next → outcome piece = some found → .busy piece ∉ p.workers →
    ∃ first kept, p.record = some (first, kept) ∧ first ≤ piece
  left : .done ∈ p.workers → p.next = pieces ∨ p.record ≠ none

variable {pieces} {outcome}

theorem keepFirst_cases (record : Option (Nat × α)) (piece : Nat) (found : α) :
    (keepFirst record piece found = record ∧ ∃ first kept, record = some (first, kept) ∧ first ≤ piece) ∨
    (keepFirst record piece found = some (piece, found) ∧
      ∀ first kept, record = some (first, kept) → piece < first) := by
  cases record with
  | none => exact .inr ⟨rfl, by simp⟩
  | some entry =>
    obtain ⟨first, kept⟩ := entry
    rw [keepFirst]
    split
    · rename_i earlier
      exact .inl ⟨rfl, first, kept, rfl, earlier⟩
    · rename_i later
      refine .inr ⟨rfl, ?_⟩
      rintro _ _ same
      cases same
      omega

section Workers

variable {workers : List Worker} {w : Nat} {old new worker : Worker}

theorem mem_of_mem_set (member : worker ∈ workers.set w new) : worker ∈ workers ∨ worker = new :=
  List.mem_or_eq_of_mem_set member

theorem mem_set_of_ne (here : workers[w]? = some old) (member : worker ∈ workers) (other : worker ≠ old) :
    worker ∈ workers.set w new := by
  obtain ⟨index, found⟩ := List.mem_iff_getElem?.mp member
  apply List.mem_iff_getElem?.mpr
  refine ⟨index, ?_⟩
  rw [List.getElem?_set_ne, found]
  rintro rfl
  rw [here] at found
  exact other (Option.some.inj found).symm

end Workers

theorem Invariant.start (workers : Nat) : Invariant pieces outcome (start pieces workers) where
  bounded := Nat.zero_le _
  handed := by simp [WorkerPool.start]
  recorded := by simp [WorkerPool.start]
  covered := by simp [WorkerPool.start]
  left := by simp [WorkerPool.start]

theorem Invariant.step (invariant : Invariant pieces outcome p) (step : Step pieces outcome p q) :
    Invariant pieces outcome q := by
  obtain ⟨bounded, handed, recorded, covered, left⟩ := invariant
  cases step with
  | @take w idle more =>
    refine ⟨more, ?_, ?_, ?_, ?_⟩
    · intro piece member
      rcases mem_of_mem_set member with before | same
      · exact Nat.lt_succ_of_lt (handed piece before)
      · cases same
        exact Nat.lt_succ_self _
    · intro piece found here
      exact ⟨Nat.lt_succ_of_lt (recorded piece found here).1, (recorded piece found here).2⟩
    · intro piece found early hits absent
      have older : piece ≠ p.next := by
        rintro rfl
        apply absent
        have inside : w < p.workers.length := (List.getElem?_eq_some_iff.mp idle).1
        exact List.mem_set inside _
      exact covered piece found (by dsimp only at early; omega) hits
        fun before => absent (mem_set_of_ne idle before (by simp))
    · intro member
      rcases mem_of_mem_set member with before | same
      · exact (left before).imp_left fun all => absurd all (by omega)
      · cases same
  | @exhausted w idle empty =>
    refine ⟨bounded, ?_, recorded, ?_, fun _ => .inl (by dsimp only; omega)⟩
    · intro piece member
      exact handed piece ((mem_of_mem_set member).resolve_right (by simp))
    · intro piece found early hits absent
      exact covered piece found early hits fun before => absent (mem_set_of_ne idle before (by simp))
  | @miss w worked busy missed =>
    refine ⟨bounded, ?_, recorded, ?_, ?_⟩
    · intro piece member
      exact handed piece ((mem_of_mem_set member).resolve_right (by simp))
    · intro piece found early hits absent
      refine covered piece found early hits fun before => absent (mem_set_of_ne busy before ?_)
      rintro same
      cases same
      rw [missed] at hits
      cases hits
    · intro member
      exact left ((mem_of_mem_set member).resolve_right (by simp))
  | @hit w worked found busy hits =>
    have inside : worked < p.next := handed worked (List.mem_of_getElem? busy)
    refine ⟨bounded, ?_, ?_, ?_, ?_⟩
    · intro piece member
      exact handed piece ((mem_of_mem_set member).resolve_right (by simp))
    · intro piece other here
      rcases keepFirst_cases p.record worked found with ⟨same, -⟩ | ⟨same, -⟩
      · exact recorded piece other (same ▸ here)
      · rw [same] at here
        cases here
        exact ⟨inside, hits⟩
    · intro piece other early otherHits absent
      rcases keepFirst_cases p.record worked found with ⟨same, first, kept, here, earlier⟩ | ⟨same, replaced⟩
      · by_cases this : piece = worked
        · subst this
          exact ⟨first, kept, same.trans here, earlier⟩
        · obtain ⟨first', kept', here', earlier'⟩ := covered piece other early otherHits
            fun before => absent (mem_set_of_ne busy before (by simpa using this))
          exact ⟨first', kept', same.trans here', earlier'⟩
      · refine ⟨worked, found, same, ?_⟩
        by_cases this : piece = worked
        · exact this.ge
        · obtain ⟨first', kept', here', earlier'⟩ := covered piece other early otherHits
            fun before => absent (mem_set_of_ne busy before (by simpa using this))
          exact (replaced first' kept' here').le.trans earlier'
    · intro _
      right
      rcases keepFirst_cases p.record worked found with ⟨same, first, kept, here, -⟩ | ⟨same, -⟩
      · rw [same, here]
        simp
      · rw [same]
        simp

theorem Invariant.reaches (invariant : Invariant pieces outcome p) (run : Reaches pieces outcome p q) :
    Invariant pieces outcome q := by
  induction run with
  | refl => exact invariant
  | tail _ step ih => exact ih.step step

/-- Once all workers have left, the record is that of a sequential search: either the channel was emptied, or
a worker left after a hit, and then everything before the record had been handed out and worked on. -/
theorem Invariant.isFirst (invariant : Invariant pieces outcome p) (finished : p.finished)
    (manned : pieces ≠ 0 → p.workers ≠ []) : IsFirst pieces outcome p.record := by
  obtain ⟨bounded, -, recorded, covered, left⟩ := invariant
  have unworked (piece : Nat) : Worker.busy piece ∉ p.workers := fun member => nomatch finished _ member
  cases record : p.record with
  | some entry =>
    obtain ⟨first, found⟩ := entry
    obtain ⟨inside, hits⟩ := recorded first found record
    refine ⟨inside.trans_le bounded, hits, ?_⟩
    intro earlier before
    by_contra isHit
    obtain ⟨other, otherHits⟩ := Option.ne_none_iff_exists'.mp isHit
    obtain ⟨least, kept, same, le⟩ := covered earlier other (before.trans inside) otherHits (unworked earlier)
    rw [record] at same
    cases same
    omega
  | none =>
    intro piece inside
    by_contra isHit
    obtain ⟨other, otherHits⟩ := Option.ne_none_iff_exists'.mp isHit
    obtain ⟨worker, member⟩ := List.exists_mem_of_ne_nil _ (manned (by omega))
    have exhausted : p.next = pieces := (left (finished worker member ▸ member)).resolve_right (absurd record)
    obtain ⟨least, kept, same, -⟩ := covered piece other (exhausted ▸ inside) otherHits (unworked piece)
    rw [record] at same
    cases same

theorem Step.length_eq (step : Step pieces outcome p q) : q.workers.length = p.workers.length := by
  cases step <;> exact List.length_set

theorem Reaches.length_eq (run : Reaches pieces outcome p q) : q.workers.length = p.workers.length := by
  induction run with
  | refl => rfl
  | tail _ step ih => exact step.length_eq.trans ih

/-- What a worker may still do apart from drawing further pieces. -/
def Worker.pending : Worker → Nat
  | idle => 1
  | busy _ => 2
  | done => 0

def Pool.pending (pieces : Nat) (p : Pool α) : Nat :=
  2 * (pieces - p.next) + (p.workers.map Worker.pending).sum

theorem sum_pending_set {workers : List Worker} (here : workers[w]? = some old) (new : Worker) :
    ((workers.set w new).map Worker.pending).sum + old.pending =
      (workers.map Worker.pending).sum + new.pending := by
  induction workers generalizing w with
  | nil => cases here
  | cons first rest ih =>
    cases w with
    | zero =>
      cases here
      simp only [List.set_cons_zero, List.map_cons, List.sum_cons]
      omega
    | succ w =>
      have later := ih (w := w) here
      simp only [List.set_cons_succ, List.map_cons, List.sum_cons]
      omega

theorem Step.pending_lt {p q : Pool α} (step : Step pieces outcome p q) : q.pending pieces < p.pending pieces := by
  cases step with
  | take idle more =>
    have moved := sum_pending_set idle (.busy p.next)
    simp only [Pool.pending, Worker.pending] at moved ⊢
    omega
  | exhausted idle empty =>
    have moved := sum_pending_set idle .done
    simp only [Pool.pending, Worker.pending] at moved ⊢
    omega
  | miss busy missed =>
    have moved := sum_pending_set busy .idle
    simp only [Pool.pending, Worker.pending] at moved ⊢
    omega
  | hit busy hits =>
    have moved := sum_pending_set busy .done
    simp only [Pool.pending, Worker.pending] at moved ⊢
    omega

/-- A worker that has not left can always go on. -/
theorem exists_step (unfinished : ¬p.finished) : ∃ q, Step pieces outcome p q := by
  simp only [Pool.finished, not_forall] at unfinished
  obtain ⟨worker, member, present⟩ := unfinished
  obtain ⟨w, here⟩ := List.mem_iff_getElem?.mp member
  cases worker with
  | done => exact absurd rfl present
  | idle =>
    rcases Nat.lt_or_ge p.next pieces with more | empty
    · exact ⟨_, .take here more⟩
    · exact ⟨_, .exhausted here empty⟩
  | busy piece =>
    cases worked : outcome piece with
    | none => exact ⟨_, .miss here worked⟩
    | some found => exact ⟨_, .hit here worked⟩

/-- However the workers interleave, they all leave, and what is then recorded has the property. -/
structure Settles (pieces : Nat) (outcome : Nat → Option α) (workers : Nat)
    (property : Option (Nat × α) → Prop) : Prop where
  records : ∀ p, Reaches pieces outcome (start pieces workers) p → p.finished → property p.record
  finishes : ∀ p, Reaches pieces outcome (start pieces workers) p →
    ∃ q, Reaches pieces outcome p q ∧ q.finished
  terminates : ¬∃ run : Nat → Pool α, run 0 = start pieces workers ∧
    ∀ k, Step pieces outcome (run k) (run (k + 1))

theorem exists_finished (p : Pool α) : ∃ q, Reaches pieces outcome p q ∧ q.finished := by
  induction size : p.pending pieces using Nat.strong_induction_on generalizing p with
  | _ size ih =>
    subst size
    by_cases finished : p.finished
    · exact ⟨p, .refl, finished⟩
    · obtain ⟨next, step⟩ : ∃ q, Step pieces outcome p q := exists_step finished
      obtain ⟨last, run, all⟩ := ih _ step.pending_lt next rfl
      exact ⟨last, .head step run, all⟩

theorem not_exists_run (p : Pool α) :
    ¬∃ run : Nat → Pool α, run 0 = p ∧ ∀ k, Step pieces outcome (run k) (run (k + 1)) := by
  rintro ⟨run, -, steps⟩
  have shrinks (k : Nat) : (run k).pending pieces + k ≤ (run 0).pending pieces := by
    induction k with
    | zero => exact le_rfl
    | succ k ih =>
      have less := (steps k).pending_lt
      omega
  have bound := shrinks ((run 0).pending pieces + 1)
  omega

/-- One worker is enough for the first hit to be found. -/
theorem settles_first (pieces : Nat) (outcome : Nat → Option α) (workers : Nat) {property : Option (Nat × α) → Prop}
    (first : ∀ record, IsFirst pieces outcome record → property record) :
    Settles pieces outcome (workers + 1) property where
  records := by
    intro p run finished
    apply first
    apply ((Invariant.start (workers + 1)).reaches run).isFirst finished
    intro some empty
    have length := run.length_eq
    rw [empty, start, List.length_replicate, List.length_nil] at length
    omega
  finishes := fun p _ => exists_finished p
  terminates := not_exists_run _

/-- A sequential search looks at the first piece and then at the others. -/
theorem IsFirst.head_or_tail (first : IsFirst (pieces + 1) outcome record) :
    (∃ found, outcome 0 = some found ∧ record = some (0, found)) ∨
    (outcome 0 = none ∧ ∃ rest, IsFirst pieces (fun piece => outcome (piece + 1)) rest ∧
      record = rest.map fun entry => (entry.1 + 1, entry.2)) := by
  cases record with
  | none =>
    refine .inr ⟨first 0 (Nat.succ_pos _), none, ?_, rfl⟩
    intro piece inside
    exact first (piece + 1) (by omega)
  | some entry =>
    obtain ⟨piece, found⟩ := entry
    obtain ⟨inside, hits, misses⟩ := first
    cases piece with
    | zero => exact .inl ⟨found, hits, rfl⟩
    | succ piece =>
      refine .inr ⟨misses 0 (Nat.succ_pos _), some (piece, found), ⟨by omega, hits, ?_⟩, rfl⟩
      intro earlier before
      exact misses (earlier + 1) (by omega)

end Karpenter.WorkerPool
