import Karpenter.Resources.ResourceList
import Karpenter.Scheduling.Pod
import Mathlib.Data.List.Sort
import Mathlib.Data.String.Basic

/-! The retry loop of the scheduler. A pod that could not be placed goes to the end of the queue with the
length the queue then has; the loop stops when it comes up again at that length, which means that a whole
round went by without a placement, or when an attempt fails on a deadline. What an attempt does is a parameter:
it may depend on everything that happened before and change any state. The errors are kept by the uid of the
pod, where the source keeps them by its address. -/
namespace Karpenter.Provisioning

open Go (Map)
open Resources (ResourceList amount)
open Scheduling (Pod)

structure Queue where
  pods : List Pod
  lastLen : Map String Nat := ∅

/-- More CPU first, then more memory, then the older pod; uids break ties. -/
def byCPUAndMemoryDescending (requests : Pod → ResourceList) (lhs rhs : Pod) : Bool :=
  if amount (requests lhs) "cpu" ≠ amount (requests rhs) "cpu" then
    decide (amount (requests rhs) "cpu" < amount (requests lhs) "cpu")
  else if amount (requests lhs) "memory" ≠ amount (requests rhs) "memory" then
    decide (amount (requests rhs) "memory" < amount (requests lhs) "memory")
  else if lhs.creationTimestamp ≠ rhs.creationTimestamp then
    decide (lhs.creationTimestamp < rhs.creationTimestamp)
  else decide (lhs.uid < rhs.uid)

def newQueue (requests : Pod → ResourceList) (pods : List Pod) : Queue where
  pods := pods.insertionSort fun a b => byCPUAndMemoryDescending requests b a = false

namespace Queue

/-- No pod when the queue is empty or has gone round without progress. -/
def pop (q : Queue) : Option (Pod × Queue) :=
  match q.pods with
  | [] => none
  | p :: rest =>
    if (q.lastLen.lookup p.uid).getD 0 = q.pods.length then none else some (p, { q with pods := rest })

def push (q : Queue) (pod : Pod) : Queue where
  pods := q.pods ++ [pod]
  lastLen := q.lastLen.insert pod.uid (q.pods ++ [pod]).length

end Queue

/-- The loop between two attempts, with every attempt made so far and its error, if any. -/
structure Solving (σ ε : Type) where
  queue : Queue
  state : σ
  podErrors : Map String ε := ∅
  history : List (Pod × Option ε) := []
  timedOut : Bool := false

namespace Solving

-- An attempt, and whether an error of it wraps `context.DeadlineExceeded`. The search for devices has a timeout of
-- its own, so such an error does not take a deadline of the caller.
variable {σ ε : Type} (attempt : σ → Pod → σ × Option ε) (deadlineExceeded : ε → Bool)

/-- What becomes of a popped pod. One that fails on a deadline is dropped without an error. -/
def record (s : Solving σ ε) (pod : Pod) (q : Queue) : σ × Option ε → Solving σ ε
  | (state, none) =>
    { queue := q, state, podErrors := s.podErrors.erase pod.uid, history := s.history ++ [(pod, none)] }
  | (state, some err) =>
    if deadlineExceeded err then
      { queue := q, state, podErrors := s.podErrors, history := s.history ++ [(pod, some err)], timedOut := true }
    else
      { queue := q.push pod, state, podErrors := s.podErrors.insert pod.uid err
        history := s.history ++ [(pod, some err)] }

/-- One turn of the loop; `none` when it stops. -/
def turn (s : Solving σ ε) : Option (Solving σ ε) :=
  if s.timedOut then none
  else s.queue.pop.map fun (pod, q) => s.record deadlineExceeded pod q (attempt s.state pod)

/-- At most the given number of turns. -/
def solve : Nat → Solving σ ε → Solving σ ε
  | 0, s => s
  | fuel + 1, s =>
    match s.turn attempt deadlineExceeded with
    | none => s
    | some next => solve fuel next

/-- The pods placed so far, in order. -/
def placed (history : List (Pod × Option ε)) : List Pod :=
  (history.filter fun entry => entry.2.isNone).map Prod.fst

theorem placed_append (history : List (Pod × Option ε)) (entry : Pod × Option ε) :
    placed (history ++ [entry]) = placed history ++ if entry.2.isNone then [entry.1] else [] := by
  obtain ⟨pod, outcome⟩ := entry
  cases outcome <;> simp [placed]

/-- The state of a round. The pods at the end of the queue are those that failed since the last placement;
the others were pushed to a longer queue, or not at all. -/
structure Round (pods : List Pod) (s : Solving σ ε) (front back : List Pod) (recent : List (Pod × Option ε)) :
    Prop where
  running : s.timedOut = false
  queue : s.queue.pods = front ++ back
  stale : ∀ p ∈ front, (s.queue.lastLen.lookup p.uid).getD 0 = 0 ∨
    (front ++ back).length < (s.queue.lastLen.lookup p.uid).getD 0
  current : ∀ p ∈ back, s.queue.lastLen.lookup p.uid = some (front ++ back).length
  attempts : ∃ older, s.history = older ++ recent
  failed : recent.map Prod.fst = back ∧ ∀ entry ∈ recent, entry.2.isNone = false
  partition : (placed s.history ++ (front ++ back)).Perm pods
  clean : ∀ p ∈ placed s.history, s.podErrors.lookup p.uid = none
  reported : ∀ p ∈ back, (s.podErrors.lookup p.uid).isSome = true

/-- Falls with every turn: a placement shortens the queue, a failure the part of it not yet tried. -/
def potential (front back : List Pod) : Nat := (front ++ back).length * (front ++ back).length + front.length

section Rounds

variable {attempt deadlineExceeded} {pods front back : List Pod} {s next : Solving σ ε}

theorem Round.pop_eq (round : Round pods s front back recent) : s.queue.pop = match front with
      | [] => none
      | p :: rest => some (p, { s.queue with pods := rest ++ back }) := by
  cases front with
  | nil =>
    rw [Queue.pop, round.queue, List.nil_append]
    cases back with
    | nil => rfl
    | cons p rest =>
      have again := round.current p List.mem_cons_self
      simp only [again, Option.getD_some, List.nil_append, if_true]
  | cons p rest =>
    have apart : (s.queue.lastLen.lookup p.uid).getD 0 ≠ (p :: (rest ++ back)).length := by
      rcases round.stale p List.mem_cons_self with zero | longer
      · rw [zero, List.length_cons]
        omega
      · rw [List.cons_append] at longer
        omega
    rw [Queue.pop, round.queue, List.cons_append]
    simp only [if_neg apart]

variable (attempt deadlineExceeded) in
theorem Round.turn_eq_none (round : Round pods s front back recent) :
    s.turn attempt deadlineExceeded = none ↔ front = [] := by
  rw [turn, round.running, round.pop_eq]
  cases front with
  | nil => simp
  | cons p rest => simp

theorem Round.distinct (round : Round pods s front back recent) (uids : (pods.map (·.uid)).Nodup) :
    ((placed s.history ++ (front ++ back)).map (·.uid)).Nodup :=
  (round.partition.map _).nodup_iff.mpr uids

/-- The first pod is placed: the others all have to be tried again. -/
theorem Round.place (uids : (pods.map (·.uid)).Nodup) (state : σ) (round : Round pods s (p :: front) back recent) :
    Round pods (s.record deadlineExceeded p { s.queue with pods := front ++ back } (state, none)) (front ++ back)
      [] [] := by
  have distinct := round.distinct uids
  constructor
  · rfl
  · simp [record]
  · intro x member
    rw [List.append_nil]
    rcases List.mem_append.mp member with early | late
    · refine (round.stale x (List.mem_cons_of_mem _ early)).imp_right fun longer => ?_
      simp only [List.cons_append, List.length_cons] at longer
      exact Nat.lt_of_succ_lt longer
    · right
      show (front ++ back).length < (s.queue.lastLen.lookup x.uid).getD 0
      rw [round.current x late]
      simp
  · simp
  · exact ⟨_, (List.append_nil _).symm⟩
  · simp
  · refine List.Perm.trans ?_ round.partition
    simp [record, placed_append]
  · intro x member
    simp only [record, placed_append, Option.isNone_none, if_true] at member ⊢
    rcases List.mem_append.mp member with before | now
    · have none := round.clean x before
      by_cases same : x.uid = p.uid
      · rw [same, AList.lookup_erase]
      · rw [AList.lookup_erase_ne same, none]
    · rw [List.mem_singleton.mp now, AList.lookup_erase]
  · simp

/-- The first pod fails: it goes to the end of the queue. -/
theorem Round.fail (uids : (pods.map (·.uid)).Nodup) (state : σ) (inTime : deadlineExceeded err = false)
    (round : Round pods s (p :: front) back recent) :
    Round pods (s.record deadlineExceeded p { s.queue with pods := front ++ back } (state, some err)) front
      (back ++ [p]) (recent ++ [(p, some err)]) := by
  rw [record, inTime, if_neg Bool.false_ne_true]
  have distinct := round.distinct uids
  simp only [List.map_append, List.map_cons, List.cons_append, List.nodup_append, List.nodup_cons] at distinct
  have others : ∀ x ∈ placed s.history ++ (front ++ back), x.uid ≠ p.uid := by
    intro x member equal
    rcases List.mem_append.mp member with before | waiting
    · exact distinct.2.2 x.uid (List.mem_map_of_mem before) p.uid List.mem_cons_self equal
    · apply distinct.2.1.1
      rw [← equal, ← List.map_append]
      exact List.mem_map_of_mem waiting
  have length : (front ++ (back ++ [p])).length = (p :: front ++ back).length := by
    simp only [List.length_append, List.length_cons, List.length_nil]
    omega
  have pushed : ({ s.queue with pods := front ++ back } : Queue).push p =
      ⟨front ++ (back ++ [p]), s.queue.lastLen.insert p.uid (front ++ (back ++ [p])).length⟩ := by
    simp [Queue.push]
  obtain ⟨older, history⟩ := round.attempts
  rw [pushed]
  constructor
  · rfl
  · rfl
  · intro x member
    rw [Map.lookup_insert_eq,
      if_neg (others x (List.mem_append_right _ (List.mem_append_left _ member))), length]
    exact round.stale x (List.mem_cons_of_mem _ member)
  · intro x member
    rw [Map.lookup_insert_eq]
    rcases List.mem_append.mp member with before | now
    · rw [if_neg (others x (List.mem_append_right _ (List.mem_append_right _ before))), length]
      exact round.current x before
    · rw [List.mem_singleton.mp now, if_pos rfl]
  · refine ⟨older, ?_⟩
    show s.history ++ [(p, some err)] = _
    rw [history, List.append_assoc]
  · constructor
    · rw [List.map_append, round.failed.1]
      rfl
    · intro entry member
      rcases List.mem_append.mp member with before | now
      · exact round.failed.2 entry before
      · rw [List.mem_singleton.mp now]
        rfl
  · refine List.Perm.trans ?_ round.partition
    simp only [placed_append, Option.isNone_some, Bool.false_eq_true, if_false, List.append_nil]
    apply List.Perm.append_left
    rw [← List.append_assoc]
    exact List.perm_append_singleton p (front ++ back)
  · intro x member
    simp only [placed_append, Option.isNone_some, Bool.false_eq_true, if_false, List.append_nil] at member
    rw [Map.lookup_insert_eq, if_neg (others x (List.mem_append_left _ member))]
    exact round.clean x member
  · intro x member
    rw [Map.lookup_insert_eq]
    rcases List.mem_append.mp member with before | now
    · rw [if_neg (others x (List.mem_append_right _ (List.mem_append_right _ before)))]
      exact round.reported x before
    · rw [List.mem_singleton.mp now, if_pos rfl]
      rfl

/-- An attempt failed on a deadline, and the loop has ended. -/
def TimesOut (deadlineExceeded : ε → Bool) (s : Solving σ ε) : Prop :=
  s.timedOut = true ∧ ∃ entry ∈ s.history, entry.2.any deadlineExceeded = true

variable (attempt) in
theorem TimesOut.turn_eq_none (out : s.TimesOut deadlineExceeded) : s.turn attempt deadlineExceeded = none := by
  rw [turn, if_pos out.1]

theorem Round.step (uids : (pods.map (·.uid)).Nodup) (round : Round pods s front back recent)
    (turns : s.turn attempt deadlineExceeded = some next) : next.TimesOut deadlineExceeded ∨
      ∃ front' back' recent', Round pods next front' back' recent' ∧ potential front' back' < potential front back := by
  rw [turn, round.running, round.pop_eq] at turns
  cases front with
  | nil => cases turns
  | cons p rest =>
    obtain rfl := Option.some.inj turns
    dsimp only
    obtain ⟨state, outcome⟩ := attempt s.state p
    cases outcome with
    | none =>
      refine .inr ⟨_, _, _, round.place uids state, ?_⟩
      simp only [potential, List.cons_append, List.length_cons, List.append_nil]
      nlinarith
    | some err =>
      cases inTime : deadlineExceeded err with
      | true =>
        rw [record, inTime, if_pos rfl]
        exact .inl ⟨rfl, (p, some err), List.mem_append_right _ (List.mem_singleton_self _), inTime⟩
      | false =>
        refine .inr ⟨_, _, _, round.fail uids state inTime, ?_⟩
        simp only [potential, List.cons_append, List.length_cons, List.length_append, List.length_nil]
        nlinarith

theorem solve_stopped (stopped : s.turn attempt deadlineExceeded = none) (fuel : Nat) :
    s.solve attempt deadlineExceeded fuel = s := by
  cases fuel with
  | zero => rfl
  | succ fuel => rw [solve, stopped]

variable (attempt deadlineExceeded) in
theorem Round.solve (uids : (pods.map (·.uid)).Nodup) (round : Round pods s front back recent)
    (enough : potential front back ≤ fuel) : (s.solve attempt deadlineExceeded fuel).TimesOut deadlineExceeded ∨
      ∃ back' recent', Round pods (s.solve attempt deadlineExceeded fuel) [] back' recent' := by
  induction fuel generalizing s front back recent with
  | zero =>
    have none : front = [] := List.length_eq_zero_iff.mp (by simp only [potential] at enough; omega)
    subst none
    exact .inr ⟨back, recent, round⟩
  | succ fuel ih =>
    rw [Solving.solve]
    split
    · rename_i stopped
      obtain rfl := (round.turn_eq_none attempt deadlineExceeded).mp stopped
      exact .inr ⟨back, recent, round⟩
    · rename_i next turns
      rcases round.step uids turns with out | ⟨front', back', recent', after, falls⟩
      · rw [solve_stopped (out.turn_eq_none attempt)]
        exact .inl out
      · exact ih after (by omega)

theorem solve_add (s : Solving σ ε) (first second : Nat) : s.solve attempt deadlineExceeded (first + second) =
    (s.solve attempt deadlineExceeded first).solve attempt deadlineExceeded second := by
  induction first generalizing s with
  | zero => rw [Nat.zero_add, solve]
  | succ first ih =>
    rw [Nat.succ_add, solve, solve]
    split
    · rename_i stopped
      rw [solve_stopped stopped]
    · exact ih _

end Rounds

/-- The loop before its first attempt. -/
def begin (requests : Pod → ResourceList) (pods : List Pod) (state : σ) : Solving σ ε where
  queue := newQueue requests pods
  state := state

theorem begin_round (requests : Pod → ResourceList) (pods : List Pod) (state : σ) :
    Round (ε := ε) pods (begin requests pods state) (newQueue requests pods).pods [] [] where
  running := rfl
  queue := (List.append_nil _).symm
  stale := fun _ _ => .inl rfl
  current := by simp
  attempts := ⟨[], rfl⟩
  failed := by simp
  partition := by
    rw [List.append_nil]
    exact List.perm_insertionSort _ pods
  clean := by simp [begin, placed]
  reported := by simp

/-- How often a pod was placed. -/
def placements (s : Solving σ ε) (pod : Pod) : Nat :=
  s.history.countP fun entry => decide (entry.1.uid = pod.uid) && entry.2.isNone

theorem placements_eq (s : Solving σ ε) (pod : Pod) :
    s.placements pod = ((placed s.history).map (·.uid)).count pod.uid := by
  rw [placements, placed, List.map_map, List.count_eq_countP, List.countP_map, List.countP_filter]
  apply List.countP_congr
  simp [beq_iff_eq]

/-- An attempt for the pod failed and nothing was placed since. -/
def FailedSinceProgress (s : Solving σ ε) (pod : Pod) : Prop :=
  ∃ older recent err, s.history = older ++ recent ∧ (pod, some err) ∈ recent ∧
    ∀ entry ∈ recent, entry.2.isNone = false

/-- Whatever the attempts do, the loop stops within a number of attempts that depends on the number of pods
only. If none of its attempts failed on a deadline, every pod is then placed once and has no error, or it is not
placed, has an error and was tried since the last placement. -/
theorem solve_places_or_reports (requests : Pod → ResourceList) (pods : List Pod) (state : σ)
    (uids : (pods.map (·.uid)).Nodup) : ∃ final : Solving σ ε, (∀ fuel, pods.length * (pods.length + 1) ≤ fuel →
        (begin requests pods state).solve attempt deadlineExceeded fuel = final) ∧
      final.turn attempt deadlineExceeded = none ∧
      ((∀ entry ∈ final.history, entry.2.any deadlineExceeded = false) → ∀ p ∈ pods,
        (final.placements p = 1 ∧ final.podErrors.lookup p.uid = none) ∨
        (final.placements p = 0 ∧ (final.podErrors.lookup p.uid).isSome = true ∧ final.FailedSinceProgress p)) := by
  have length : (newQueue requests pods).pods.length = pods.length := List.length_insertionSort _ pods
  have enough : potential (newQueue requests pods).pods [] ≤ pods.length * (pods.length + 1) := by
    rw [potential, List.append_nil, length, Nat.mul_succ]
  have done := (begin_round (ε := ε) requests pods state).solve attempt deadlineExceeded uids enough
  have stopped : ((begin requests pods state).solve attempt deadlineExceeded
      (pods.length * (pods.length + 1))).turn attempt deadlineExceeded = none := by
    rcases done with out | ⟨back, recent, round⟩
    · exact out.turn_eq_none attempt
    · exact (round.turn_eq_none attempt deadlineExceeded).mpr rfl
  refine ⟨_, fun fuel more => ?_, stopped, fun inTime p member => ?_⟩
  · obtain ⟨extra, rfl⟩ := Nat.exists_eq_add_of_le more
    rw [solve_add, solve_stopped stopped]
  · obtain ⟨-, entry, made, late⟩ | ⟨back, recent, round⟩ := done
    · rw [inTime entry made] at late
      cases late
    have distinct := round.distinct uids
    rw [List.map_append, List.nodup_append] at distinct
    rw [placements_eq]
    rcases List.mem_append.mp (round.partition.mem_iff.mpr member) with before | waiting
    · left
      exact ⟨List.count_eq_one_of_mem distinct.1 (List.mem_map_of_mem before), round.clean p before⟩
    · rw [List.nil_append] at waiting
      right
      refine ⟨List.count_eq_zero.mpr fun before => ?_, round.reported p waiting, ?_⟩
      · exact distinct.2.2 p.uid before p.uid (List.mem_map_of_mem waiting) rfl
      · obtain ⟨older, history⟩ := round.attempts
        rw [← round.failed.1] at waiting
        obtain ⟨⟨pod, outcome⟩, inRecent, rfl⟩ := List.mem_map.mp waiting
        have failure := round.failed.2 _ inRecent
        cases outcome with
        | none => cases failure
        | some err => exact ⟨older, recent, err, history, inRecent, round.failed.2⟩

/-- The pod `a` can be placed once another pod was, and `c` never. -/
def dependentAttempt (count : Nat) (pod : Pod) : Nat × Option String :=
  if pod.uid = "c" then (count, some "never")
  else if pod.uid = "a" ∧ count = 0 then (count, some "not yet")
  else (count + 1, none)

def dependentPods : List Pod :=
  [{ key := ⟨"default", "a"⟩, uid := "a" }, { key := ⟨"default", "b"⟩, uid := "b" },
    { key := ⟨"default", "c"⟩, uid := "c" }]

theorem solve_places_or_reports_dependent : ∃ final : Solving Nat String, (∀ fuel, 12 ≤ fuel →
        (begin (fun _ => ∅) dependentPods 0).solve dependentAttempt (· = "deadline") fuel = final) ∧
      final.turn dependentAttempt (· = "deadline") = none ∧
      ∀ p ∈ dependentPods, (final.placements p = 1 ∧ final.podErrors.lookup p.uid = none) ∨
        (final.placements p = 0 ∧ (final.podErrors.lookup p.uid).isSome = true ∧ final.FailedSinceProgress p) := by
  obtain ⟨final, stops, stopped, settled⟩ := solve_places_or_reports dependentAttempt (· = "deadline")
    (fun _ => ∅) dependentPods 0 (by decide)
  refine ⟨final, stops, stopped, settled ?_⟩
  rw [← stops 12 le_rfl]
  decide +kernel

/-- The search for the devices of the first pod runs into its timeout. The loop ends with it, and no pod is placed
or has an error, although the others were not even tried. -/
theorem solve_drops_pods :
    let final := (begin (fun _ => ∅) dependentPods ()).solve (fun _ _ => ((), some "deadline")) (· = "deadline") 12
    final.timedOut = true ∧ ∀ p ∈ dependentPods, final.placements p = 0 ∧ final.podErrors.lookup p.uid = none := by
  decide +kernel

end Solving

end Karpenter.Provisioning
