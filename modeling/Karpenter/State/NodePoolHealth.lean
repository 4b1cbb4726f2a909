import Karpenter.RingBuffer
import Karpenter.Resources.ResourceList

/-! The registration health of the NodePools: one ring buffer of the latest launch outcomes per NodePool, and the dry
run of an update on a copy of it. The copy is built from the storage of the buffer, which starts at the oldest outcome
only until the buffer has wrapped. -/
namespace Karpenter.NodePoolHealth

open Go (Map)

abbrev bufferSize : Nat := 4

/-- The share of failures from which a NodePool is unhealthy. -/
def thresholdFalse : ℚ := 1 / 2

inductive Status where
  | unknown
  | healthy
  | unhealthy
deriving DecidableEq

abbrev Tracker := RingBuffer Bool bufferSize

def newTracker : Tracker := RingBuffer.new bufferSize

namespace Tracker

variable (t : Tracker)

def update (success : Bool) : Tracker := t.insert success

def unhealthyCount : Nat := t.items.countP (! ·)

def status : Status :=
  if t.len = 0 then .unknown
  else if thresholdFalse ≤ (unhealthyCount t : ℚ) / bufferSize then .unhealthy
  else .healthy

/-- The outcomes that stand for a status. -/
def outcomes : Status → List Bool
  | .unknown => []
  | .healthy => [true]
  | .unhealthy => List.replicate ⌊(bufferSize : ℚ) * thresholdFalse⌋.toNat false

def setStatus (status : Status) : Tracker := t.reset.insertAll (outcomes status)

theorem threshold_iff (count : Nat) : thresholdFalse ≤ (count : ℚ) / bufferSize ↔ 2 ≤ count := by
  rw [thresholdFalse, div_le_div_iff₀ two_pos (by norm_num)]
  norm_cast
  rw [Nat.one_mul, bufferSize]
  omega

theorem status_update (success : Bool) :
    status (update t success) = if 2 ≤ unhealthyCount (update t success) then .unhealthy else .healthy := by
  have some_ : (update t success).len ≠ 0 := by
    rw [update, RingBuffer.len]
    by_cases room : t.values.length < bufferSize
    · rw [(t.insert_of_room success room).1, List.length_append, List.length_singleton]
      omega
    · have full : t.values.length = bufferSize := le_antisymm t.bounded (Nat.not_lt.mp room)
      rw [(t.insert_of_full success full).1, List.length_set, full]
      exact NeZero.ne bufferSize
  rw [status, if_neg some_]
  simp only [threshold_iff]

end Tracker

structure State where
  trackers : Map String Tracker

variable (s : State)

namespace State

def new : State := ⟨∅⟩

/-- The tracker of the NodePool, which is created when it is first asked for. -/
def nodePoolNodeRegistration (nodePoolUID : String) : Tracker × State :=
  match s.trackers.lookup nodePoolUID with
  | some tracker => (tracker, s)
  | none => (newTracker, ⟨s.trackers.insert nodePoolUID newTracker⟩)

def status (nodePoolUID : String) : Status × State :=
  let (tracker, s) := s.nodePoolNodeRegistration nodePoolUID
  (Tracker.status tracker, s)

def update (nodePoolUID : String) (launchStatus : Bool) : State :=
  let (tracker, s) := s.nodePoolNodeRegistration nodePoolUID
  ⟨s.trackers.insert nodePoolUID (Tracker.update tracker launchStatus)⟩

def setStatus (nodePoolUID : String) (status : Status) : State :=
  let (tracker, s) := s.nodePoolNodeRegistration nodePoolUID
  ⟨s.trackers.insert nodePoolUID (Tracker.setStatus tracker status)⟩

/-- The storage of the tracker goes into a new one, slot by slot. -/
def dryRun (nodePoolUID : String) (launchStatus : Bool) : Tracker × State :=
  let (originalTracker, s) := s.nodePoolNodeRegistration nodePoolUID
  let trackerCopy := newTracker.insertAll originalTracker.items
  (Tracker.update trackerCopy launchStatus, s)

/-- The tracker of a NodePool, a new one where there is none yet. -/
def tracker (nodePoolUID : String) : Tracker := (s.nodePoolNodeRegistration nodePoolUID).1

variable (uid : String)

theorem tracker_eq : s.tracker uid = (s.trackers.lookup uid).getD newTracker := by
  rw [tracker, nodePoolNodeRegistration]
  cases s.trackers.lookup uid <;> rfl

variable (other : String)

theorem trackers_nodePoolNodeRegistration : (s.nodePoolNodeRegistration uid).2.tracker other = s.tracker other := by
  rw [tracker_eq, tracker_eq, nodePoolNodeRegistration]
  cases found : s.trackers.lookup uid with
  | some tracker => rfl
  | none =>
    simp only [Map.lookup_insert_eq]
    split
    · rename_i same
      rw [same, found]
      rfl
    · rfl

theorem tracker_insert (t : Tracker) :
    (State.mk ((s.nodePoolNodeRegistration uid).2.trackers.insert uid t)).tracker other =
      if other = uid then t else s.tracker other := by
  rw [tracker_eq, Map.lookup_insert_eq]
  split
  · rfl
  · rw [← tracker_eq, trackers_nodePoolNodeRegistration]

theorem tracker_update (success : Bool) : (s.update uid success).tracker other =
    if other = uid then Tracker.update (s.tracker uid) success else s.tracker other :=
  s.tracker_insert uid other _

theorem tracker_setStatus (status : Status) : (s.setStatus uid status).tracker other =
    if other = uid then Tracker.setStatus (s.tracker uid) status else s.tracker other :=
  s.tracker_insert uid other _

end State

/-- A call that records outcomes. -/
inductive Event where
  | update (nodePoolUID : String) (launchStatus : Bool)
  | setStatus (nodePoolUID : String) (status : Status)

def State.apply : Event → State
  | .update nodePoolUID launchStatus => s.update nodePoolUID launchStatus
  | .setStatus nodePoolUID status => s.setStatus nodePoolUID status

def run (events : List Event) : State := events.foldl State.apply State.new

/-- The outcomes of a NodePool since its status was last set, those that stand for that status included. -/
def record (nodePoolUID : String) (outcomes : List Bool) : Event → List Bool
  | .update other launchStatus => if nodePoolUID = other then outcomes ++ [launchStatus] else outcomes
  | .setStatus other status => if nodePoolUID = other then Tracker.outcomes status else outcomes

def recorded (events : List Event) (nodePoolUID : String) : List Bool := events.foldl (record nodePoolUID) []

theorem holds_apply {s : State} {uid : String} (holds : (s.tracker uid).Holds outcomes) (event : Event) :
    ((s.apply event).tracker uid).Holds (record uid outcomes event) := by
  cases event with
  | update other launchStatus =>
    rw [State.apply, record, State.tracker_update]
    split
    · rename_i same
      rw [← same]
      exact holds.insert launchStatus
    · exact holds
  | setStatus other status =>
    rw [State.apply, record, State.tracker_setStatus]
    split
    · exact RingBuffer.holds_new.insertAll _
    · exact holds

theorem holds_run (events : List Event) (uid : String) : ((run events).tracker uid).Holds (recorded events uid) :=
  List.foldl_rel (r := fun s outcomes => (State.tracker s uid).Holds outcomes) RingBuffer.holds_new
    fun event _ _ _ holds => holds_apply holds event

def failures (outcomes : List Bool) : Nat := outcomes.countP (! ·)

/-- The buffer has wrapped, its first slot does not hold the outcome that the update replaces, and that difference
decides the status. -/
def Misled (outcomes : List Bool) (success : Bool) : Prop :=
  bufferSize ≤ outcomes.length ∧
    outcomes[outcomes.length - bufferSize]? ≠
      outcomes[outcomes.length - bufferSize + (bufferSize - outcomes.length % bufferSize) % bufferSize]? ∧
    failures (outcomes.drop (outcomes.length - bufferSize)) + failures [success] = 2

instance (outcomes : List Bool) (success : Bool) : Decidable (Misled outcomes success) :=
  inferInstanceAs (Decidable (_ ∧ _ ∧ _))

/-- Two counts that differ by the value each of them gave up reach the threshold together unless the values differ and
the count before was just at it. -/
theorem reached_iff (updated : real + failures [oldest] = count) (dry : copied + failures [first] = count) :
    (2 ≤ copied ↔ 2 ≤ real) ↔ ¬ (some oldest ≠ some first ∧ count = 2) := by
  cases oldest <;> cases first <;> simp [failures] at updated dry ⊢ <;> omega

theorem status_eq_iff (real copied : Nat) :
    ((if 2 ≤ copied then Status.unhealthy else .healthy) = if 2 ≤ real then .unhealthy else .healthy) ↔
      (2 ≤ copied ↔ 2 ≤ real) := by
  by_cases first : 2 ≤ copied <;> by_cases second : 2 ≤ real <;> simp [first, second]

/-- One update of a tracker and of its copy. -/
theorem status_copy_iff {t : Tracker} (holds : t.Holds outcomes) (success : Bool) :
    Tracker.status (Tracker.update (newTracker.insertAll t.items) success) = Tracker.status (Tracker.update t success) ↔
      ¬ Misled outcomes success := by
  obtain ⟨items, head⟩ : (newTracker.insertAll t.items).items = t.items ∧ (newTracker.insertAll t.items).head = 0 :=
    t.new_insertAll_items
  generalize newTracker.insertAll t.items = copy at *
  have length : t.values.length = min outcomes.length bufferSize := holds.length
  have same : copy.values.length = t.values.length := congrArg List.length items
  rw [Tracker.status_update, Tracker.status_update, status_eq_iff]
  by_cases room : t.values.length < bufferSize
  · have counts : Tracker.unhealthyCount (Tracker.update copy success) =
        Tracker.unhealthyCount (Tracker.update t success) := by
      have dry := RingBuffer.countP_insert_of_room (! ·) (same ▸ room) success
      have updated := RingBuffer.countP_insert_of_room (! ·) room success
      rw [items] at dry
      exact dry.trans updated.symm
    rw [counts]
    refine ⟨fun _ misled => ?_, fun _ => Iff.rfl⟩
    have := misled.1
    omega
  · have full : t.values.length = bufferSize := le_antisymm t.bounded (Nat.not_lt.mp room)
    have wrapped : bufferSize ≤ outcomes.length := by omega
    have updated := RingBuffer.countP_insert_of_full (! ·) full success
    have dry := RingBuffer.countP_insert_of_full (! ·) (same.trans full) success
    have kept : t.items.countP (! ·) = failures (outcomes.drop (outcomes.length - bufferSize)) := by
      rw [← t.contents_perm.countP_eq, holds.contents]
      rfl
    rw [RingBuffer.contents_of_head_zero head, items, holds.first wrapped, kept] at dry
    rw [holds.oldest, kept] at updated
    have inside : outcomes.length - bufferSize +
        (bufferSize - outcomes.length % bufferSize) % bufferSize < outcomes.length := by
      have := Nat.mod_lt (bufferSize - outcomes.length % bufferSize) (Nat.pos_of_neZero bufferSize)
      omega
    have start : outcomes.length - bufferSize < outcomes.length := by omega
    rw [Misled, List.getElem?_eq_getElem start, List.getElem?_eq_getElem inside]
    rw [List.getElem?_eq_getElem start] at updated
    rw [List.getElem?_eq_getElem inside] at dry
    rw [and_iff_right wrapped]
    exact reached_iff updated dry

/-- The dry run of an outcome foresees the status after it unless the buffer has wrapped and the copy gives up another
outcome than the oldest one. -/
theorem dryRun_status_iff (events : List Event) (nodePoolUID : String) (success : Bool) :
    Tracker.status ((run events).dryRun nodePoolUID success).1 =
        (((run events).update nodePoolUID success).status nodePoolUID).1 ↔
      ¬ Misled (recorded events nodePoolUID) success := by
  have updated : (((run events).update nodePoolUID success).status nodePoolUID).1 =
      Tracker.status (((run events).update nodePoolUID success).tracker nodePoolUID) := rfl
  rw [updated, State.tracker_update, if_pos rfl]
  exact status_copy_iff (holds_run events nodePoolUID) success

/-- One failure, then successes until it is the oldest outcome, in a storage whose first slot is a success: a second
failure leaves the NodePool healthy, and its dry run says unhealthy. -/
theorem dryRun_after_wrap : let events := [true, false, true, true, true].map (Event.update "pool")
    Tracker.status ((run events).dryRun "pool" false).1 = .unhealthy ∧
      (((run events).update "pool" false).status "pool").1 = .healthy := by
  decide +kernel

end Karpenter.NodePoolHealth
