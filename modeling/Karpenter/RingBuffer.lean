import Mathlib.Algebra.GroupWithZero.Nat
import Mathlib.Algebra.Order.Ring.Nat
import Mathlib.Data.List.Rotate

/-! A ring buffer: values are appended until the storage is full, then the oldest one is replaced. Read from the
oldest value on, the storage holds the latest values in the order they came in. -/
namespace Karpenter

/-- The head moves only once the storage is full. -/
structure RingBuffer (α : Type u) (capacity : Nat) where
  values : List α
  head : Nat
  bounded : values.length ≤ capacity
  aligned : head = 0 ∨ (values.length = capacity ∧ head < capacity)

namespace RingBuffer

variable {α : Type u} {capacity : Nat}

def new (capacity : Nat) : RingBuffer α capacity := ⟨[], 0, Nat.zero_le _, .inl rfl⟩

def reset (_ : RingBuffer α capacity) : RingBuffer α capacity := new capacity

def len (b : RingBuffer α capacity) : Nat := b.values.length

/-- The storage as it is, not from the oldest value on. -/
def items (b : RingBuffer α capacity) : List α := b.values

theorem aligned_replace [NeZero capacity] {values : List α} {head : Nat} (bounded : values.length ≤ capacity)
    (full : ¬ values.length < capacity) (value : α) : (head + 1) % capacity = 0 ∨
      ((values.set head value).length = capacity ∧ (head + 1) % capacity < capacity) := by
  refine .inr ⟨?_, Nat.mod_lt _ (Nat.pos_of_neZero capacity)⟩
  rw [List.length_set]
  omega

def insert [NeZero capacity] (b : RingBuffer α capacity) (value : α) : RingBuffer α capacity :=
  if room : b.values.length < capacity then
    { values := b.values ++ [value]
      head := b.head
      bounded := by rw [List.length_append, List.length_singleton]; omega
      aligned := b.aligned.imp_right fun full => absurd full.1 (Nat.ne_of_lt room) }
  else
    { values := b.values.set b.head value
      head := (b.head + 1) % capacity
      bounded := by rw [List.length_set]; exact b.bounded
      aligned := aligned_replace b.bounded room value }

def insertAll [NeZero capacity] (b : RingBuffer α capacity) (values : List α) : RingBuffer α capacity :=
  values.foldl insert b

/-- The values from the oldest on. -/
def contents (b : RingBuffer α capacity) : List α := b.values.rotate b.head

theorem contents_perm (b : RingBuffer α capacity) : b.contents.Perm b.items := List.rotate_perm b.values b.head

theorem head_of_room (b : RingBuffer α capacity) (room : b.values.length < capacity) : b.head = 0 := by
  rcases b.aligned with zero | ⟨full, -⟩
  · exact zero
  · omega

variable [NeZero capacity] (b : RingBuffer α capacity) (value : α)

theorem insert_of_room (room : b.values.length < capacity) :
    (b.insert value).values = b.values ++ [value] ∧ (b.insert value).head = 0 := by
  rw [insert, dif_pos room]
  exact ⟨rfl, b.head_of_room room⟩

theorem insert_of_full (full : b.values.length = capacity) :
    (b.insert value).values = b.values.set b.head value ∧ (b.insert value).head = (b.head + 1) % capacity := by
  rw [insert, dif_neg (by omega)]
  exact ⟨rfl, rfl⟩

theorem head_lt_of_full (full : b.values.length = capacity) : b.head < b.values.length := by
  have positive := Nat.pos_of_neZero capacity
  rcases b.aligned with zero | ⟨-, less⟩
  · omega
  · omega

/-- Replacing the element at the head and moving on drops the first and appends the new one. -/
theorem rotate_set {l : List α} {head : Nat} (inside : head < l.length) (value : α) :
    (l.set head value).rotate ((head + 1) % l.length) = (l.rotate head).tail ++ [value] := by
  have moved : (l.set head value).rotate ((head + 1) % l.length) = (l.set head value).rotate (head + 1) := by
    have same := List.rotate_mod (l.set head value) (head + 1)
    rwa [List.length_set] at same
  have before : l = l.take head ++ l[head] :: l.drop (head + 1) := by
    rw [List.getElem_cons_drop, List.take_append_drop]
  have after : l.set head value = l.take head ++ [value] ++ l.drop (head + 1) := by
    rw [List.set_eq_take_append_cons_drop, if_pos inside, List.append_assoc]
    rfl
  have front : (l.take head).length = head := by
    rw [List.length_take]
    omega
  have longer : (l.take head ++ [value]).length = head + 1 := by
    rw [List.length_append, front, List.length_singleton]
  have turned : l.rotate head = l[head] :: l.drop (head + 1) ++ l.take head := by
    conv_lhs => rw [before]
    have := List.rotate_append_length_eq (l.take head) (l[head] :: l.drop (head + 1))
    rwa [front] at this
  have last := List.rotate_append_length_eq (l.take head ++ [value]) (l.drop (head + 1))
  rw [longer] at last
  rw [moved, after, last, turned, List.cons_append, List.tail_cons, List.append_assoc]

/-- A full buffer forgets its oldest value. -/
theorem contents_insert : (b.insert value).contents =
    if b.values.length < capacity then b.contents ++ [value] else b.contents.tail ++ [value] := by
  split
  · rename_i room
    obtain ⟨values, head⟩ := b.insert_of_room value room
    rw [contents, contents, values, head, b.head_of_room room, List.rotate_zero, List.rotate_zero]
  · have full : b.values.length = capacity := by
      have := b.bounded
      omega
    obtain ⟨values, head⟩ := b.insert_of_full value full
    have replaced := rotate_set (b.head_lt_of_full full) value
    rw [full] at replaced
    rw [contents, contents, values, head, replaced]

/-- What a buffer holds after a list of values went into it: the latest ones, with the head where the next value
goes. -/
structure Holds (b : RingBuffer α capacity) (inserted : List α) : Prop where
  contents : b.contents = inserted.drop (inserted.length - capacity)
  head : b.head = if inserted.length < capacity then 0 else inserted.length % capacity

variable {b}

omit [NeZero capacity] in
theorem Holds.length (holds : b.Holds inserted) : b.values.length = min inserted.length capacity := by
  have same := congrArg List.length holds.contents
  rw [RingBuffer.contents, List.length_rotate, List.length_drop] at same
  omega

theorem holds_new : (new capacity : RingBuffer α capacity).Holds [] := by
  constructor
  · rw [List.drop_nil]
    exact List.rotate_nil 0
  · rw [List.length_nil, if_pos (Nat.pos_of_neZero capacity)]
    rfl

theorem Holds.insert (holds : b.Holds inserted) (value : α) : (b.insert value).Holds (inserted ++ [value]) := by
  have length := holds.length
  constructor
  · rw [contents_insert, holds.contents, List.length_append, List.length_singleton]
    split
    · have none_ : inserted.length - capacity = 0 := by omega
      have still : inserted.length + 1 - capacity = 0 := by omega
      rw [none_, still, List.drop_zero, List.drop_zero]
    · have one : inserted.length + 1 - capacity = inserted.length - capacity + 1 := by omega
      have within : inserted.length - capacity + 1 ≤ inserted.length := by
        have := Nat.pos_of_neZero capacity
        omega
      rw [one, List.tail_drop, List.drop_append_of_le_length within]
  · rw [List.length_append, List.length_singleton]
    by_cases room : b.values.length < capacity
    · rw [(b.insert_of_room value room).2]
      split
      · rfl
      · have filled : inserted.length + 1 = capacity := by omega
        rw [filled, Nat.mod_self]
    · have full : b.values.length = capacity := by omega
      rw [(b.insert_of_full value full).2, holds.head, if_neg (by omega), if_neg (by omega), Nat.mod_add_mod]

theorem Holds.insertAll (holds : b.Holds inserted) (values : List α) :
    (b.insertAll values).Holds (inserted ++ values) := by
  induction values generalizing b inserted with
  | nil =>
    rw [List.append_nil]
    exact holds
  | cons first rest ih =>
    have step := ih (holds.insert first)
    rwa [List.append_assoc] at step

/-- A full storage gives up what the head pointed at, so a count over it changes by that value and the new one. -/
theorem countP_insert_of_full (p : α → Bool) (full : b.values.length = capacity) (value : α) :
    (b.insert value).items.countP p + b.contents.head?.toList.countP p = b.items.countP p + [value].countP p := by
  have kept : b.contents = b.contents.head?.toList ++ b.contents.tail := by
    cases b.contents <;> rfl
  rw [← (b.insert value).contents_perm.countP_eq, ← b.contents_perm.countP_eq, contents_insert, if_neg (by omega),
    List.countP_append]
  conv_rhs => rw [kept, List.countP_append]
  omega

theorem countP_insert_of_room (p : α → Bool) (room : b.values.length < capacity) (value : α) :
    (b.insert value).items.countP p = b.items.countP p + [value].countP p := by
  rw [items, (b.insert_of_room value room).1, List.countP_append]
  rfl

omit [NeZero capacity] in
theorem Holds.oldest (holds : b.Holds inserted) : b.contents.head? = inserted[inserted.length - capacity]? := by
  rw [holds.contents, List.head?_drop]

/-- The value the first slot of a full storage holds. -/
theorem Holds.first (holds : b.Holds inserted) (full : capacity ≤ inserted.length) : b.items.head? =
      inserted[inserted.length - capacity + (capacity - inserted.length % capacity) % capacity]? := by
  have positive := Nat.pos_of_neZero capacity
  have length : b.values.length = capacity := by
    rw [holds.length]
    omega
  have head : b.head = inserted.length % capacity := by
    rw [holds.head, if_neg (by omega)]
  have less : inserted.length % capacity < capacity := Nat.mod_lt _ positive
  have wraps : ((capacity - inserted.length % capacity) % capacity + inserted.length % capacity) % capacity = 0 := by
    rw [Nat.mod_add_mod, Nat.sub_add_cancel less.le, Nat.mod_self]
  have read := congrArg (fun l => l[(capacity - inserted.length % capacity) % capacity]?) holds.contents
  rw [List.getElem?_drop, RingBuffer.contents, List.getElem?_rotate (by rw [length]; exact Nat.mod_lt _ positive), length, head,
    wraps] at read
  rw [← read, items, List.head?_eq_getElem?]

/-- Putting the storage of a buffer into a new one loses the position of the head. -/
theorem new_insertAll_items (b : RingBuffer α capacity) :
    ((new capacity).insertAll b.items).items = b.items ∧ ((new capacity).insertAll b.items).head = 0 := by
  have holds := (holds_new : (new capacity : RingBuffer α capacity).Holds []).insertAll b.items
  rw [List.nil_append] at holds
  have bounded : b.items.length ≤ capacity := b.bounded
  have head : ((new capacity).insertAll b.items).head = 0 := by
    rw [holds.head]
    split
    · rfl
    · have filled : b.items.length = capacity := by omega
      rw [filled, Nat.mod_self]
  have none_ : b.items.length - capacity = 0 := by omega
  have contents := holds.contents
  rw [RingBuffer.contents, head, List.rotate_zero, none_, List.drop_zero] at contents
  exact ⟨contents, head⟩

omit [NeZero capacity] in
theorem contents_of_head_zero (zero : b.head = 0) : b.contents = b.items := by
  rw [contents, zero, List.rotate_zero]
  rfl

end RingBuffer

end Karpenter
