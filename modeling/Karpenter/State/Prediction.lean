import Karpenter.Ranking
import Karpenter.Resources.ResourceList
import Mathlib.Data.Prod.Lex
import Mathlib.Data.String.Basic

/-! The predictions of workloads: every source has a prediction for one workload at most, and of the sources that
target a workload the one that was created first is active, with the name as tie-break. The store keeps the entries of
a workload sorted and an index from sources to workloads; both are edited when a source moves, changes or goes. -/
namespace Karpenter.Predictions

open Go (Map)
open Resources (ResourceList)
open Ranking

/-- A namespace has no slash, so the text of the pair tells where it ends. -/
structure NamespacedName where
  ns : String
  name : String
  plain : '/' ∉ ns.toList
deriving DecidableEq

def NamespacedName.text (n : NamespacedName) : String := n.ns ++ "/" ++ n.name

structure WorkloadReference where
  group : String
  kind : String
  ns : String
  name : String
deriving DecidableEq

/-- The predicted requests by container. -/
structure Prediction where
  containers : Map String ResourceList

structure WorkloadEntry where
  prediction : Prediction
  source : NamespacedName
  createdAt : Int

def stronger (a b : WorkloadEntry) : Bool :=
  if a.createdAt ≠ b.createdAt then a.createdAt < b.createdAt else a.source.text < b.source.text

/-- Equality by value of what may be missing. -/
def deepEqual : Option Prediction → Option Prediction → Bool
  | none, none => true
  | some p, some q => p.containers.deepEqual (Map.deepEqual fun a b => decide (a = b)) q.containers
  | _, _ => false

structure Store where
  byWorkload : Map WorkloadReference (List WorkloadEntry)
  bySource : Map NamespacedName WorkloadReference

variable (s : Store)

namespace Store

def new : Store := ⟨∅, ∅⟩

def entries (workload : WorkloadReference) : List WorkloadEntry :=
  (s.byWorkload.lookup workload).getD []

def active (workload : WorkloadReference) : Option Prediction :=
  match s.entries workload with
  | [] => none
  | first :: _ => some first.prediction

def get (workload : WorkloadReference) : Option Prediction := s.active workload

def len : Nat := s.byWorkload.entries.length

def reset : Bool × Store := (decide (0 < s.len), new)

/-- The entries of a workload are written back, or its key goes with the last of them. -/
def write (workload : WorkloadReference) (entries : List WorkloadEntry) : Store :=
  if entries.isEmpty then { s with byWorkload := s.byWorkload.erase workload }
  else { s with byWorkload := s.byWorkload.insert workload entries }

def removeEntry (workload : WorkloadReference) (source : NamespacedName) : Bool × Store :=
  let removed := s.write workload (remove WorkloadEntry.source source (s.entries workload))
  (!deepEqual (s.active workload) (removed.active workload), removed)

/-- A source that targeted another workload leaves it. -/
def leave (source : NamespacedName) (workload : WorkloadReference) : Bool × Store :=
  match s.bySource.lookup source with
  | some prev => if prev ≠ workload then s.removeEntry prev source else (false, s)
  | none => (false, s)

/-- No two entries of a workload are equally strong, so every sort by strength gives the same list. -/
def enter (workload : WorkloadReference) (entry : WorkloadEntry) : Store where
  bySource := s.bySource.insert entry.source workload
  byWorkload := s.byWorkload.insert workload
    ((upsert WorkloadEntry.source entry (s.entries workload)).insertionSort fun a b => !stronger b a)

def set (source : NamespacedName) (workload : WorkloadReference) (p : Prediction) (createdAt : Int) :
    Bool × Store :=
  let (changed, s) := s.leave source workload
  let entered := s.enter workload ⟨p, source, createdAt⟩
  (!deepEqual (s.active workload) (entered.active workload) || changed, entered)

def delete (source : NamespacedName) : Bool × Store :=
  match s.bySource.lookup source with
  | none => (false, s)
  | some workload => { s with bySource := s.bySource.erase source }.removeEntry workload source

end Store

/-- What a source asked for last. -/
structure Target where
  workload : WorkloadReference
  prediction : Prediction
  createdAt : Int

/-- The sources that have a prediction, each with its target. -/
def Live := NamespacedName → Option Target

inductive Call where
  | set (source : NamespacedName) (workload : WorkloadReference) (p : Prediction) (createdAt : Int)
  | delete (source : NamespacedName)
  | reset

def Store.apply : Call → Store
  | .set source workload p createdAt => (s.set source workload p createdAt).2
  | .delete source => (s.delete source).2
  | .reset => s.reset.2

def run (calls : List Call) : Store := calls.foldl Store.apply Store.new

def Live.apply (live : Live) : Call → Live
  | .set source workload p createdAt => fun other => if other = source then some ⟨workload, p, createdAt⟩ else live other
  | .delete source => fun other => if other = source then none else live other
  | .reset => fun _ => none

/-- The latest set of a source that no delete of it and no reset followed. -/
def latest (calls : List Call) : Live := calls.foldl Live.apply fun _ => none

/-- The prediction of the strongest source that targets the workload. -/
def Live.Strongest (live : Live) (workload : WorkloadReference) (p : Prediction) : Prop :=
  ∃ source createdAt, live source = some ⟨workload, p, createdAt⟩ ∧
    ∀ other target, other ≠ source → live other = some target → target.workload = workload →
      createdAt < target.createdAt ∨ (createdAt = target.createdAt ∧ source.text < other.text)

def Live.Targeted (live : Live) (workload : WorkloadReference) : Prop :=
  ∃ source target, live source = some target ∧ target.workload = workload

/-- The same containers with the same quantity of every resource, or both missing. -/
def SameValue : Option Prediction → Option Prediction → Prop :=
  Option.Rel fun p q => ∀ container, Option.Rel (fun a b : ResourceList => ∀ resource,
    Option.Rel (· = ·) (a.lookup resource) (b.lookup resource)) (p.containers.lookup container)
      (q.containers.lookup container)

theorem deepEqual_iff (p q : Option Prediction) : deepEqual p q = true ↔ SameValue p q := by
  have lists (a b : ResourceList) : a.deepEqual (fun x y => decide (x = y)) b = true ↔
      ∀ resource, Option.Rel (· = ·) (a.lookup resource) (b.lookup resource) :=
    Map.deepEqual_iff fun x y => decide_eq_true_iff
  cases p with
  | none => cases q with
    | none => exact iff_of_true rfl .none
    | some q => exact iff_of_false Bool.false_ne_true (by rintro ⟨⟩)
  | some p => cases q with
    | none => exact iff_of_false Bool.false_ne_true (by rintro ⟨⟩)
    | some q =>
      rw [deepEqual, Map.deepEqual_iff lists]
      exact ⟨fun same => .some same, by rintro ⟨same⟩; exact same⟩

theorem SameValue.refl (p : Option Prediction) : SameValue p p := by
  have lists (a : Option ℚ) : Option.Rel (· = ·) a a := by
    cases a with
    | none => exact .none
    | some a => exact .some rfl
  have maps (a : Option ResourceList) : Option.Rel (fun a b : ResourceList => ∀ resource,
      Option.Rel (· = ·) (a.lookup resource) (b.lookup resource)) a a := by
    cases a with
    | none => exact .none
    | some a => exact .some fun resource => lists _
  cases p with
  | none => exact .none
  | some p => exact .some fun container => maps _

/-- Whether a store shows another value for some workload. -/
def Changes (before after : Store) : Prop := ∃ workload, ¬ SameValue (before.get workload) (after.get workload)

/-! The text of a source is its own, so the strength of an entry is a rank without ties. -/

def WorkloadEntry.rank (entry : WorkloadEntry) : Int ×ₗ String := toLex (entry.createdAt, entry.source.text)

/-- The text up to the first slash is the namespace. -/
theorem NamespacedName.text_injective {a b : NamespacedName} (same : a.text = b.text) : a = b := by
  have chars := congrArg String.toList same
  simp only [text, String.toList_append, List.append_assoc] at chars
  have upto (n : NamespacedName) (rest : List Char) : (n.ns.toList ++ '/' :: rest).takeWhile (· ≠ '/') = n.ns.toList := by
    rw [List.takeWhile_append_of_pos fun c inside => by simpa using ne_of_mem_of_not_mem inside n.plain]
    simp
  have first := (upto a _).symm.trans ((congrArg (List.takeWhile (· ≠ '/')) chars).trans (upto b _))
  rw [first] at chars
  obtain ⟨ns, name, plain⟩ := a
  obtain ⟨ns', name', plain'⟩ := b
  obtain rfl := String.toList_inj.mp first
  obtain rfl := String.toList_inj.mp (List.cons.inj (List.append_cancel_left chars)).2
  rfl

variable {a b : WorkloadEntry}

theorem source_of_rank (same : a.rank = b.rank) : a.source = b.source :=
  NamespacedName.text_injective (congrArg (fun rank => (ofLex rank).2) same)

theorem rank_lt_iff : a.rank < b.rank ↔
    a.createdAt < b.createdAt ∨ (a.createdAt = b.createdAt ∧ a.source.text < b.source.text) :=
  Prod.Lex.toLex_lt_toLex

theorem stronger_iff : stronger a b = true ↔ a.rank < b.rank := by
  rw [stronger, rank_lt_iff]
  split
  · rename_i differ
    rw [decide_eq_true_iff]
    exact ⟨.inl, fun less => less.resolve_right fun same => differ same.1⟩
  · rename_i same
    have same := not_not.mp same
    rw [decide_eq_true_iff, same]
    exact ⟨fun less => .inr ⟨rfl, less⟩, fun less => (less.resolve_left (lt_irrefl _)).2⟩

theorem not_stronger_iff (a b : WorkloadEntry) : (!stronger b a) = true ↔ a.rank ≤ b.rank := by
  rw [Bool.not_eq_true', ← Bool.not_eq_true, stronger_iff, not_lt]

/-! What the edits of the store do to the entries of every workload. -/
namespace Store

theorem active_eq (workload : WorkloadReference) :
    s.active workload = (s.entries workload).head?.map WorkloadEntry.prediction := by
  rw [active]
  cases s.entries workload <;> rfl

variable (workload other : WorkloadReference)

theorem entries_write (entries : List WorkloadEntry) :
    (s.write workload entries).entries other = if other = workload then entries else s.entries other := by
  rw [write]
  split
  · rename_i empty
    rw [Store.entries, Map.lookup_erase_eq]
    split
    · exact (List.isEmpty_iff.mp empty).symm
    · rfl
  · rw [Store.entries, Map.lookup_insert_eq]
    split
    · rfl
    · rfl

theorem bySource_write (workload : WorkloadReference) (entries : List WorkloadEntry) :
    (s.write workload entries).bySource = s.bySource := by
  rw [write]
  split <;> rfl

theorem entries_enter (entry : WorkloadEntry) : (s.enter workload entry).entries other = if other = workload then
      (upsert WorkloadEntry.source entry (s.entries workload)).insertionSort (fun a b => a.rank ≤ b.rank)
      else s.entries other := by
  have order : (fun a b : WorkloadEntry => (!stronger b a) = true) = fun a b => a.rank ≤ b.rank := by
    funext a b
    exact propext (not_stronger_iff a b)
  rw [enter, Store.entries, Map.lookup_insert_eq]
  split
  · simp only [Option.getD_some]
    congr
  · rfl

/-- The lists are not kept when they are empty. -/
def Compact : Prop := ∀ workload, s.byWorkload.lookup workload ≠ some []

theorem Compact.write {s : Store} (compact : s.Compact) (workload : WorkloadReference) (entries : List WorkloadEntry) :
    (s.write workload entries).Compact := by
  intro other
  rw [Store.write]
  split
  · rw [Map.lookup_erase_eq]
    split
    · exact Option.some_ne_none _ |>.symm
    · exact compact other
  · rename_i some_
    rw [Map.lookup_insert_eq]
    split
    · intro empty
      exact some_ (List.isEmpty_iff.mpr (Option.some.inj empty))
    · exact compact other

end Store

/-- The store holds the live sources: its index names the workload of each, and the entries of a workload are the
sources that target it, sorted. -/
structure Represents (s : Store) (live : Live) : Prop where
  indexed : ∀ source, s.bySource.lookup source = (live source).map Target.workload
  mem_entries : ∀ workload entry, entry ∈ s.entries workload ↔
    live entry.source = some ⟨workload, entry.prediction, entry.createdAt⟩
  ranked : ∀ workload, Ranked WorkloadEntry.source WorkloadEntry.rank (s.entries workload)
  compact : s.Compact

theorem represents_new : Represents Store.new fun _ => none where
  indexed _ := rfl
  mem_entries _ _ := iff_of_false List.not_mem_nil (Option.some_ne_none _).symm
  ranked _ := ⟨List.Pairwise.nil, List.Pairwise.nil⟩
  compact _ := (Option.some_ne_none _).symm

section Represents

variable {s : Store} {live : Live} (rep : Represents s live)
include rep

theorem Represents.get_eq_some (workload : WorkloadReference) (p : Prediction) :
    s.get workload = some p ↔ live.Strongest workload p := by
  have first := fun e => (rep.ranked workload).head?_eq_some (e := e) fun a _ b _ same => source_of_rank same
  rw [Store.get, Store.active_eq, Option.map_eq_some_iff]
  constructor
  · rintro ⟨entry, head, rfl⟩
    obtain ⟨member, strongest⟩ := (first entry).mp head
    refine ⟨entry.source, entry.createdAt, (rep.mem_entries workload entry).mp member, ?_⟩
    rintro other ⟨_, q, createdAt⟩ differs found rfl
    exact rank_lt_iff.mp (strongest ⟨q, other, createdAt⟩ ((rep.mem_entries _ _).mpr found) differs)
  · rintro ⟨source, createdAt, found, strongest⟩
    refine ⟨⟨p, source, createdAt⟩, (first _).mpr ⟨(rep.mem_entries _ _).mpr found, fun other member differs => ?_⟩, rfl⟩
    exact rank_lt_iff.mpr (strongest other.source _ differs ((rep.mem_entries _ _).mp member) rfl)

theorem Represents.get_eq_none (workload : WorkloadReference) : s.get workload = none ↔ ¬ live.Targeted workload := by
  rw [Store.get, Store.active_eq, Option.map_eq_none_iff, List.head?_eq_none_iff, List.eq_nil_iff_forall_not_mem]
  constructor
  · rintro empty ⟨source, ⟨_, p, createdAt⟩, found, rfl⟩
    exact empty ⟨p, source, createdAt⟩ ((rep.mem_entries _ _).mpr found)
  · intro untargeted entry member
    exact untargeted ⟨entry.source, _, (rep.mem_entries _ _).mp member, rfl⟩

end Represents

/-- Where only one workload's entries differ, the comparison of its predictions tells whether anything changed. -/
theorem changes_iff {before after : Store} {workload : WorkloadReference}
    (frame : ∀ other, other ≠ workload → after.entries other = before.entries other) :
    Changes before after ↔ (!deepEqual (before.active workload) (after.active workload)) = true := by
  rw [Bool.not_eq_true', ← Bool.not_eq_true, deepEqual_iff]
  constructor
  · rintro ⟨other, differ⟩ same
    by_cases here : other = workload
    · exact differ (here ▸ same)
    · rw [Store.get, Store.get, Store.active_eq, Store.active_eq, frame other here] at differ
      exact differ (SameValue.refl _)
  · exact fun differ => ⟨workload, differ⟩

section Removing

variable (s : Store) (workload : WorkloadReference) (source : NamespacedName)

variable (other : WorkloadReference)

theorem entries_removeEntry : (s.removeEntry workload source).2.entries other =
      if other = workload then remove WorkloadEntry.source source (s.entries workload) else s.entries other :=
  s.entries_write workload other _

theorem bySource_removeEntry : (s.removeEntry workload source).2.bySource = s.bySource := s.bySource_write workload _

theorem removeEntry_changes : (s.removeEntry workload source).1 = true ↔ Changes s (s.removeEntry workload source).2 :=
  (changes_iff fun other differs => by rw [Store.entries_write, if_neg differs]).symm

theorem not_changes : ¬ Changes s s := fun ⟨_, differ⟩ => differ (SameValue.refl _)

theorem delete_changes : (s.delete source).1 = true ↔ Changes s (s.delete source).2 := by
  rw [Store.delete]
  cases s.bySource.lookup source with
  | none => exact iff_of_false Bool.false_ne_true (not_changes s)
  | some workload => exact removeEntry_changes { s with bySource := s.bySource.erase source } workload source

end Removing

section Steps

variable {s : Store} {live : Live} (rep : Represents s live)
include rep

/-- Only the workload that the index names loses an entry. -/
theorem Represents.mem_removed {source : NamespacedName} {target : Target} (found : live source = some target)
    (workload : WorkloadReference) (entry : WorkloadEntry) :
    (entry ∈ if workload = target.workload then remove WorkloadEntry.source source (s.entries target.workload)
      else s.entries workload) ↔ entry ∈ s.entries workload ∧ entry.source ≠ source := by
  split
  · rename_i same
    rw [mem_remove (rep.ranked _).distinct, same]
  · rename_i other
    refine ⟨fun member => ⟨member, fun same => ?_⟩, And.left⟩
    have there := (rep.mem_entries workload entry).mp member
    rw [same, found] at there
    exact other (congrArg Target.workload (Option.some.inj there)).symm

theorem Represents.ranked_removed (target workload : WorkloadReference) (source : NamespacedName) :
    Ranked WorkloadEntry.source WorkloadEntry.rank (if workload = target then
      remove WorkloadEntry.source source (s.entries target) else s.entries workload) := by
  split
  · exact (rep.ranked target).remove source
  · exact rep.ranked workload

theorem Represents.delete (source : NamespacedName) : Represents (s.delete source).2 (live.apply (.delete source)) := by
  have index := rep.indexed source
  cases found : live source with
  | none =>
    rw [found, Option.map_none] at index
    have gone : s.delete source = (false, s) := by rw [Store.delete, index]
    have same : live.apply (.delete source) = live := by
      funext other
      simp only [Live.apply]
      split
      · rename_i same
        rw [same, found]
      · rfl
    rw [gone, same]
    exact rep
  | some target =>
    rw [found, Option.map_some] at index
    have removed : s.delete source =
        { s with bySource := s.bySource.erase source }.removeEntry target.workload source := by
      rw [Store.delete, index]
    rw [removed]
    refine ⟨fun other => ?_, fun workload entry => ?_, fun workload => ?_, ?_⟩
    · simp only [bySource_removeEntry, Map.lookup_erase_eq, Live.apply, rep.indexed]
      split <;> rfl
    · rw [entries_removeEntry]
      refine (rep.mem_removed found workload entry).trans ?_
      rw [rep.mem_entries]
      simp only [Live.apply]
      split
      · rename_i same
        exact iff_of_false (fun both => both.2 same) (Option.some_ne_none _).symm
      · rename_i differs
        exact and_iff_left differs
    · rw [entries_removeEntry]
      exact rep.ranked_removed target.workload workload source
    · exact Store.Compact.write (s := { s with bySource := s.bySource.erase source }) rep.compact _ _

end Steps

/-- What the store is once the source has left any other workload: its index still names that one. -/
structure Left (s : Store) (source : NamespacedName) (workload : WorkloadReference) (result : Bool × Store) : Prop where
  bySource : result.2.bySource = s.bySource
  mem_entries : ∀ other entry, entry ∈ result.2.entries other ↔
    entry ∈ s.entries other ∧ (entry.source = source → other = workload)
  same : result.2.entries workload = s.entries workload
  ranked : ∀ other, Ranked WorkloadEntry.source WorkloadEntry.rank (result.2.entries other)
  compact : result.2.Compact
  changed : result.1 = true ↔ Changes s result.2

section Steps

variable {s : Store} {live : Live} (rep : Represents s live)
include rep

/-- A source without another workload leaves nothing. -/
theorem Represents.left_self {source : NamespacedName} {workload : WorkloadReference}
    (none_ : ∀ target, live source = some target → target.workload = workload) : Left s source workload (false, s) where
  bySource := rfl
  mem_entries other entry := by
    refine ⟨fun member => ⟨member, ?_⟩, And.left⟩
    rintro rfl
    exact none_ _ ((rep.mem_entries _ _).mp member)
  same := rfl
  ranked := rep.ranked
  compact := rep.compact
  changed := iff_of_false Bool.false_ne_true (not_changes s)

theorem Represents.left (source : NamespacedName) (workload : WorkloadReference) :
    Left s source workload (s.leave source workload) := by
  have index := rep.indexed source
  rw [Store.leave]
  cases found : live source with
  | none =>
    rw [found, Option.map_none] at index
    rw [index]
    exact rep.left_self fun target there => by rw [found] at there; cases there
  | some target =>
    rw [found, Option.map_some] at index
    rw [index]
    dsimp only
    split
    · rename_i moves
      refine ⟨bySource_removeEntry _ _ _, fun other entry => ?_, ?_, fun other => ?_, ?_, removeEntry_changes _ _ _⟩
      · rw [entries_removeEntry, rep.mem_removed found]
        refine and_congr_right fun member => ⟨fun differs same => absurd same differs, fun stays same => ?_⟩
        have there := (rep.mem_entries other entry).mp member
        rw [same, found] at there
        exact moves ((congrArg Target.workload (Option.some.inj there)).trans (stays same))
      · rw [entries_removeEntry, if_neg (Ne.symm moves)]
      · rw [entries_removeEntry]
        exact rep.ranked_removed target.workload other source
      · exact rep.compact.write _ _
    · rename_i stays
      refine rep.left_self fun other there => ?_
      rw [found] at there
      rw [← Option.some.inj there]
      exact not_not.mp stays

end Steps

section Set

variable {s : Store}

theorem Left.mem_enter (left : Left s source workload result) (p : Prediction) (createdAt : Int)
    (other : WorkloadReference) (entry : WorkloadEntry) :
    entry ∈ (result.2.enter workload ⟨p, source, createdAt⟩).entries other ↔
      (other = workload ∧ entry = ⟨p, source, createdAt⟩) ∨ (entry ∈ s.entries other ∧ entry.source ≠ source) := by
  rw [Store.entries_enter]
  split
  · rename_i here
    rw [List.mem_insertionSort, mem_upsert (left.ranked workload).distinct, left.same, here, and_iff_right rfl]
  · rename_i elsewhere
    rw [left.mem_entries]
    constructor
    · rintro ⟨member, stays⟩
      exact .inr ⟨member, fun same => elsewhere (stays same)⟩
    · rintro (⟨here, -⟩ | ⟨member, differs⟩)
      · exact absurd here elsewhere
      · exact ⟨member, fun same => absurd same differs⟩

theorem Represents.set {live : Live} (rep : Represents s live) (source : NamespacedName) (workload : WorkloadReference)
    (p : Prediction) (createdAt : Int) :
    Represents (s.set source workload p createdAt).2 (live.apply (.set source workload p createdAt)) := by
  have left := rep.left source workload
  rw [Store.set]
  refine ⟨fun other => ?_, fun other entry => ?_, fun other => ?_, fun other => ?_⟩
  · simp only [Store.enter, Map.lookup_insert_eq, left.bySource, Live.apply, rep.indexed]
    split <;> rfl
  · refine (left.mem_enter p createdAt other entry).trans ?_
    rw [rep.mem_entries]
    simp only [Live.apply]
    obtain ⟨q, from_, time⟩ := entry
    split
    · rename_i same
      have same : from_ = source := same
      subst same
      constructor
      · rintro (⟨rfl, equal⟩ | ⟨-, differs⟩)
        · cases equal
          rfl
        · exact absurd rfl differs
      · intro equal
        cases equal
        exact .inl ⟨rfl, rfl⟩
    · rename_i differs
      constructor
      · rintro (⟨-, equal⟩ | ⟨found, -⟩)
        · cases equal
          exact absurd rfl differs
        · exact found
      · exact fun found => .inr ⟨found, differs⟩
  · simp only [Store.entries_enter]
    split
    · exact (left.ranked workload).sort_upsert _
    · exact left.ranked other
  · intro empty
    simp only [Store.enter, Map.lookup_insert_eq] at empty
    split at empty
    · rename_i here
      have member := (left.mem_enter p createdAt other ⟨p, source, createdAt⟩).mpr (.inl ⟨here, rfl⟩)
      rw [Store.entries, Store.enter, Map.lookup_insert_eq, if_pos here, empty] at member
      cases member
    · exact left.compact other empty

theorem Represents.set_changes (rep : Represents s live) (source : NamespacedName) (workload : WorkloadReference)
    (p : Prediction) (createdAt : Int) :
    (s.set source workload p createdAt).1 = true ↔ Changes s (s.set source workload p createdAt).2 := by
  have left := rep.left source workload
  have entered := @changes_iff (s.leave source workload).2
    ((s.leave source workload).2.enter workload ⟨p, source, createdAt⟩) workload
    fun other differs => by rw [Store.entries_enter, if_neg differs]
  rw [Store.set]
  simp only [Bool.or_eq_true, ← entered, left.changed]
  -- The workload the source leaves and the one it enters are compared at different times, and are different.
  have before : s.get workload = (s.leave source workload).2.get workload := by
    rw [Store.get, Store.get, Store.active_eq, Store.active_eq, left.same]
  have after : ∀ other, other ≠ workload →
      ((s.leave source workload).2.enter workload ⟨p, source, createdAt⟩).get other =
        (s.leave source workload).2.get other := by
    intro other differs
    rw [Store.get, Store.get, Store.active_eq, Store.active_eq, Store.entries_enter, if_neg differs]
  constructor
  · rintro (⟨other, differ⟩ | ⟨other, differ⟩)
    · by_cases here : other = workload
      · subst here
        exact ⟨other, before ▸ differ⟩
      · exact absurd (SameValue.refl _) (after other here ▸ differ)
    · by_cases here : other = workload
      · subst here
        exact absurd (SameValue.refl _) (before ▸ differ)
      · exact ⟨other, (after other here).symm ▸ differ⟩
  · rintro ⟨other, differ⟩
    by_cases here : other = workload
    · subst here
      exact .inl ⟨other, before ▸ differ⟩
    · exact .inr ⟨other, after other here ▸ differ⟩

end Set

theorem Represents.apply {s : Store} (rep : Represents s live) (call : Call) :
    Represents (s.apply call) (live.apply call) := by
  cases call with
  | set source workload p createdAt => exact rep.set source workload p createdAt
  | delete source => exact rep.delete source
  | reset => exact represents_new

theorem represents_run (calls : List Call) : Represents (run calls) (latest calls) :=
  List.foldl_rel represents_new fun call _ _ _ rep => rep.apply call

/-- The store shows what the latest calls of the sources ask for, in whatever order the calls came, and reports
whether a call changed the prediction of any workload. -/
theorem store_eq_latest (calls : List Call) :
    (∀ workload, (run calls).get workload = none ↔ ¬ (latest calls).Targeted workload) ∧
    (∀ workload p, (run calls).get workload = some p ↔ (latest calls).Strongest workload p) ∧
    (∀ source workload p createdAt, ((run calls).set source workload p createdAt).1 = true ↔
      Changes (run calls) ((run calls).set source workload p createdAt).2) ∧
    ∀ source, ((run calls).delete source).1 = true ↔ Changes (run calls) ((run calls).delete source).2 := by
  have rep := represents_run calls
  exact ⟨rep.get_eq_none, rep.get_eq_some, rep.set_changes, delete_changes _⟩

/-- Two sources of one age contend for a workload and the smaller name wins; when it moves on, the other one is
promoted. -/
example :
    let deployment : WorkloadReference := ⟨"apps", "Deployment", "default", "web"⟩
    let other : WorkloadReference := ⟨"apps", "Deployment", "default", "db"⟩
    let small : Prediction := ⟨(∅ : Map String ResourceList).insert "c" ∅⟩
    let large : Prediction := ⟨(∅ : Map String ResourceList).insert "d" ∅⟩
    let contended := run [.set ⟨"default", "b", by decide⟩ deployment large 3,
      .set ⟨"default", "a", by decide⟩ deployment small 3]
    deepEqual (contended.get deployment) (some small) = true ∧
      deepEqual ((contended.set ⟨"default", "a", by decide⟩ other small 3).2.get deployment) (some large) = true := by
  decide +kernel

end Karpenter.Predictions
