import Karpenter.Repair.Policy

/-! The reboots of a NodeClaim are counted, and after two of them within a day it is replaced instead. The history
keeps the times of two reboots in a cache whose items expire a day after they are written. An operation reads the clock
once; that expired items are removed from the cache at times makes no difference, as they are not returned. -/
namespace Karpenter.Repair

open Go (Map)

def rebootHistoryWindow : Int := 24 * 60 * 60 * 1000000000

def rebootsBeforeReplacement : Nat := 2

structure RebootHistoryEntry where
  committedAt : List Int := []
  capped : committedAt.length ≤ rebootsBeforeReplacement := by decide

structure CacheItem where
  entry : RebootHistoryEntry
  expiration : Int

structure RebootHistory where
  recent : Map String CacheItem := ∅

/-- The policy decision for a NodeClaim. -/
structure RepairCandidate where
  uid : String
  action : Option RepairAction
  rebootEscalated : Bool := false

namespace RebootHistory

def get (h : RebootHistory) (uid : String) (now : Int) : Option RebootHistoryEntry :=
  (h.recent.lookup uid).bind fun item => if item.expiration < now then none else some item.entry

def recentReboots (h : RebootHistory) (uid : String) (now : Int) : RebootHistoryEntry :=
  match h.get uid now with
  | none => {}
  | some entry =>
    { committedAt := entry.committedAt.filter fun at_ => now - rebootHistoryWindow < at_
      capped := (List.length_filter_le _ _).trans entry.capped }

theorem capped_append {entry : RebootHistoryEntry} (fewer : entry.committedAt.length < rebootsBeforeReplacement)
    (now : Int) : (entry.committedAt ++ [now]).length ≤ rebootsBeforeReplacement := by
  rw [List.length_append]
  exact fewer

def recordCommittedReboot (h : RebootHistory) (uid : String) (now : Int) : RebootHistory :=
  if fewer : (h.recentReboots uid now).committedAt.length < rebootsBeforeReplacement then
    { recent := h.recent.insert uid
        { entry := ⟨(h.recentReboots uid now).committedAt ++ [now], capped_append fewer now⟩
          expiration := now + rebootHistoryWindow } }
  else h

/-- The candidate after its history is applied, and whether it has a repair action at all. -/
def resolve (h : RebootHistory) (candidate : RepairCandidate) (now : Int) : RepairCandidate × Bool :=
  match candidate.action with
  | none => ({ candidate with rebootEscalated := false }, false)
  | some action =>
    if action = .rebootNode ∧ rebootsBeforeReplacement ≤ (h.recentReboots candidate.uid now).committedAt.length then
      ({ candidate with action := some .replaceNode, rebootEscalated := true }, true)
    else ({ candidate with rebootEscalated := false }, true)

end RebootHistory

/-- Where the repair of a NodeClaim is: its committed reboots with the latest first, and whether a reboot was decided
on after them. -/
structure RepairRun where
  history : RebootHistory := {}
  clock : Int
  commits : List Int := []
  decided : Bool := false

/-- The runs of repair for a NodeClaim. A reboot is committed after it was decided on, and recorded at that time. -/
inductive Runs (uid : String) : RepairRun → Prop where
  | start (clock : Int) : Runs uid { clock }
  | resolve {s : RepairRun} (run : Runs uid s) (now : Int) (later : s.clock ≤ now) (action : Option RepairAction) :
    Runs uid { s with
      clock := now
      decided := s.decided || decide ((s.history.resolve { uid, action } now).1.action = some .rebootNode) }
  | commit {s : RepairRun} (run : Runs uid s) (now : Int) (later : s.clock ≤ now) (decided : s.decided = true) :
    Runs uid
      { history := s.history.recordCommittedReboot uid now
        clock := now
        commits := now :: s.commits }
  | other {s : RepairRun} (run : Runs uid s) (now : Int) (later : s.clock ≤ now) (nodeClaim : String)
    (differs : nodeClaim ≠ uid) :
    Runs uid { s with history := s.history.recordCommittedReboot nodeClaim now, clock := now }

/-- The committed reboots in the day before a time. -/
def within (now : Int) (commits : List Int) : List Int := commits.filter fun at_ => now - rebootHistoryWindow < at_

theorem within_within (le : earlier ≤ now) (commits : List Int) :
    within now (within earlier commits) = within now commits := by
  rw [within, within, List.filter_filter]
  refine List.filter_congr fun at_ _ => ?_
  rw [Bool.and_eq_left_iff_imp, decide_eq_true_eq, decide_eq_true_eq]
  omega

/-- What holds of a run: the history knows the reboots of the last day, fewer than two while one is decided on, and in
no day there were more. -/
structure Tracks (uid : String) (s : RepairRun) : Prop where
  past : ∀ at_ ∈ s.commits, at_ ≤ s.clock
  known : ∀ now, s.clock ≤ now → (s.history.recentReboots uid now).committedAt = (within now s.commits).reverse
  room : s.decided = true → (within s.clock s.commits).length < rebootsBeforeReplacement
  closedOpen : ∀ start, (s.commits.filter fun at_ => start ≤ at_ ∧ at_ < start + rebootHistoryWindow).length ≤
    rebootsBeforeReplacement
  openClosed : ∀ start, (s.commits.filter fun at_ => start < at_ ∧ at_ ≤ start + rebootHistoryWindow).length ≤
    rebootsBeforeReplacement

theorem length_within_le (le : earlier ≤ now) (commits : List Int) :
    (within now commits).length ≤ (within earlier commits).length := by
  rw [← within_within le]
  exact List.length_filter_le _ _

theorem within_eq_nil (old : ∀ at_ ∈ commits, at_ + rebootHistoryWindow ≤ now) : within now commits = [] := by
  refine List.filter_eq_nil_iff.mpr fun at_ member => ?_
  have := old at_ member
  rw [decide_eq_true_eq]
  omega

section Operations

variable {h : RebootHistory}

theorem action_resolve_reboot : (h.resolve { uid, action } now).1.action = some .rebootNode ↔
    action = some .rebootNode ∧ (h.recentReboots uid now).committedAt.length < rebootsBeforeReplacement := by
  rw [RebootHistory.resolve]
  cases action with
  | none => simp
  | some action =>
    dsimp only
    split
    · rename_i escalates
      simp [escalates.2]
    · rename_i stays
      rw [Option.some.injEq]
      exact ⟨fun reboot => ⟨reboot, not_le.mp fun exhausted => stays ⟨reboot, exhausted⟩⟩, And.left⟩

/-- A reboot that is decided on becomes a replacement exactly if the history is full. -/
theorem escalated_resolve : (h.resolve { uid, action := some .rebootNode } now).1 =
        { uid, action := some .replaceNode, rebootEscalated := true } ↔
      rebootsBeforeReplacement ≤ (h.recentReboots uid now).committedAt.length := by
  rw [RebootHistory.resolve]
  dsimp only
  split
  · rename_i escalates
    simp [escalates.2]
  · rename_i stays
    simpa using stays

theorem recentReboots_record_ne (differs : other ≠ uid) :
    (h.recordCommittedReboot other now).recentReboots uid later = h.recentReboots uid later := by
  rw [RebootHistory.recordCommittedReboot]
  split
  · rw [RebootHistory.recentReboots, RebootHistory.get, Map.lookup_insert_eq, if_neg differs.symm, ← RebootHistory.get,
      ← RebootHistory.recentReboots]
  · rfl

/-- A reboot is kept for a day after it is recorded. -/
theorem recentReboots_record (fewer : (h.recentReboots uid now).committedAt.length < rebootsBeforeReplacement) :
    ((h.recordCommittedReboot uid now).recentReboots uid later).committedAt =
      if now + rebootHistoryWindow < later then []
      else ((h.recentReboots uid now).committedAt ++ [now]).filter fun at_ => later - rebootHistoryWindow < at_ := by
  rw [RebootHistory.recordCommittedReboot, dif_pos fewer, RebootHistory.recentReboots, RebootHistory.get,
    Map.lookup_insert_eq, if_pos rfl, Option.bind_some]
  by_cases expired : now + rebootHistoryWindow < later
  · simp only [if_pos expired]
  · simp only [if_neg expired]

end Operations

section Runs

variable {s : RepairRun}

theorem Tracks.advance (tracks : Tracks uid s) (later : s.clock ≤ now)
    (known : ∀ now, (history.recentReboots uid now).committedAt = (s.history.recentReboots uid now).committedAt)
    (room : decided = true → (within now s.commits).length < rebootsBeforeReplacement) :
    Tracks uid { s with history, clock := now, decided } where
  past at_ member := (tracks.past at_ member).trans later
  known now' le := (known now').trans (tracks.known now' (later.trans le))
  room := room
  closedOpen := tracks.closedOpen
  openClosed := tracks.openClosed

/-- With a reboot at the end of a window there is at most one before it in the window. -/
theorem Tracks.room_in (few : (within now s.commits).length < rebootsBeforeReplacement) {inWindow : Int → Prop}
    [DecidablePred inWindow] (recent : inWindow now → ∀ at_, inWindow at_ → now - rebootHistoryWindow < at_)
    (before : (s.commits.filter fun at_ => inWindow at_).length ≤ rebootsBeforeReplacement) :
    ((now :: s.commits).filter fun at_ => inWindow at_).length ≤ rebootsBeforeReplacement := by
  rw [List.filter_cons]
  split
  · rename_i inside
    have sub : (s.commits.filter fun at_ => inWindow at_).length ≤ (within now s.commits).length :=
      (List.monotone_filter_right s.commits fun at_ member => decide_eq_true
        (recent (of_decide_eq_true inside) at_ (of_decide_eq_true member))).length_le
    exact sub.trans_lt few
  · exact before

theorem Tracks.commit (tracks : Tracks uid s) (later : s.clock ≤ now) (decided : s.decided = true) : Tracks uid
      { history := s.history.recordCommittedReboot uid now
        clock := now
        commits := now :: s.commits } := by
  have few : (within now s.commits).length < rebootsBeforeReplacement :=
    (length_within_le later s.commits).trans_lt (tracks.room decided)
  have fewer : (s.history.recentReboots uid now).committedAt.length < rebootsBeforeReplacement := by
    rw [tracks.known now later, List.length_reverse]
    exact few
  have past : ∀ at_ ∈ now :: s.commits, at_ ≤ now :=
    List.forall_mem_cons.mpr ⟨le_rfl, fun at_ member => (tracks.past at_ member).trans later⟩
  refine ⟨past, fun now' le => ?_, fun impossible => (Bool.false_ne_true impossible).elim, fun start => ?_,
    fun start => ?_⟩
  · rw [recentReboots_record fewer]
    split
    · rename_i expired
      rw [within_eq_nil fun at_ member => ?_, List.reverse_nil]
      have := past at_ member
      omega
    · -- what the item was cut down to when it was written is what is left of the reboots
      have cut : within now' (now :: within now s.commits) = within now' (now :: s.commits) :=
        (List.filter_append [now] _).trans
          ((congrArg _ (within_within le s.commits)).trans (List.filter_append [now] s.commits).symm)
      rw [tracks.known now later, ← List.reverse_cons, List.filter_reverse]
      exact congrArg List.reverse cut
  · exact Tracks.room_in few (fun inside at_ inWindow => by omega) (tracks.closedOpen start)
  · exact Tracks.room_in few (fun inside at_ inWindow => by omega) (tracks.openClosed start)

theorem Tracks.of_runs (run : Runs uid s) : Tracks uid s := by
  induction run with
  | start clock => exact ⟨by simp, fun _ _ => rfl, fun impossible => (Bool.false_ne_true impossible).elim, by simp, by simp⟩
  | @resolve s run now later action ih =>
    refine ih.advance later (fun _ => rfl) fun decided => ?_
    rcases (Bool.or_eq_true _ _).mp decided with before | here
    · exact (length_within_le later _).trans_lt (ih.room before)
    · have fewer := (action_resolve_reboot.mp (of_decide_eq_true here)).2
      rw [ih.known now later, List.length_reverse] at fewer
      exact fewer
  | commit run now later decided ih => exact ih.commit later decided
  | other run now later nodeClaim differs ih =>
    exact ih.advance later (fun _ => by rw [recentReboots_record_ne differs])
      fun decided => (length_within_le later _).trans_lt (ih.room decided)

/-- In no day are there more than two reboots of a NodeClaim, and the decision for a reboot becomes one for a
replacement exactly after two reboots within a day. -/
theorem reboots_capped (uid : String) (s : RepairRun) (run : Runs uid s) :
    (∀ start, (s.commits.filter fun at_ => start ≤ at_ ∧ at_ < start + rebootHistoryWindow).length ≤ 2) ∧
      (∀ start, (s.commits.filter fun at_ => start < at_ ∧ at_ ≤ start + rebootHistoryWindow).length ≤ 2) ∧
      ∀ now, s.clock ≤ now → ((s.history.resolve { uid, action := some .rebootNode } now).1 =
          { uid, action := some .replaceNode, rebootEscalated := true } ↔
        (s.commits.filter fun at_ => now - rebootHistoryWindow < at_ ∧ at_ ≤ now).length = 2) := by
  have tracks := Tracks.of_runs run
  refine ⟨tracks.closedOpen, tracks.openClosed, fun now later => ?_⟩
  have recent : within now s.commits = s.commits.filter fun at_ => now - rebootHistoryWindow < at_ ∧ at_ ≤ now := by
    refine List.filter_congr fun at_ member => ?_
    have := tracks.past at_ member
    rw [decide_eq_decide]
    omega
  have atMost := tracks.openClosed (now - rebootHistoryWindow)
  rw [sub_add_cancel] at atMost
  rw [escalated_resolve, tracks.known now later, List.length_reverse, recent]
  exact ⟨fun full => le_antisymm atMost full, fun two => two.ge⟩

/-- A NodeClaim after two reboots in a second. -/
def rebootedTwice : RepairRun where
  history := (({} : RebootHistory).recordCommittedReboot "a" 0).recordCommittedReboot "a" 1000000000
  clock := 1000000000
  commits := [1000000000, 0]

theorem reboots_capped_twice : (rebootedTwice.history.resolve { uid := "a", action := some .rebootNode } 2000000000).1 =
    { uid := "a", action := some .replaceNode, rebootEscalated := true } := by
  have first : Runs "a" _ := .commit (.resolve (.start 0) 0 le_rfl (some .rebootNode)) 0 le_rfl (by decide +kernel)
  have second : Runs "a" rebootedTwice :=
    .commit (.resolve first 1000000000 (by decide) (some .rebootNode)) 1000000000 le_rfl (by decide +kernel)
  exact ((reboots_capped "a" rebootedTwice second).2.2 2000000000 (by decide)).mpr (by decide +kernel)

end Runs

end Karpenter.Repair
