import Karpenter.Go.Map
import Mathlib.Algebra.Order.Ring.Rat
import Mathlib.Algebra.Order.Floor.Ring
import Mathlib.Data.Rat.Floor

/-! Kubernetes quantities as exact rationals. `value` is the integer reading `Quantity.Value()`, which
rounds away from zero. Suffixes, formats and canonical text are not represented. A missing entry of a
quantity map reads as zero, which is what `amount` returns. -/
namespace Karpenter.Resources

abbrev Quantity := ℚ

def value (q : Quantity) : Int := if 0 ≤ q then q.ceil else q.floor

/-- A whole-number, non-negative quantity. -/
def Whole (q : Quantity) : Prop := ∃ n : ℕ, q = n

theorem value_natCast (n : ℕ) : value (n : Quantity) = n := by
  have nonneg : (0 : Quantity) ≤ n := Nat.cast_nonneg n
  rw [value, if_pos nonneg, ← Int.cast_natCast, Rat.ceil_intCast]

theorem Whole.cast_value (whole : Whole q) : ((value q : Int) : Quantity) = q := by
  obtain ⟨n, rfl⟩ := whole
  rw [value_natCast]
  rfl

theorem Whole.nonneg (whole : Whole q) : 0 ≤ q := by
  obtain ⟨n, rfl⟩ := whole
  exact Nat.cast_nonneg n

theorem Whole.zero : Whole 0 := ⟨0, rfl⟩

theorem Whole.add (first : Whole p) (second : Whole q) : Whole (p + q) := by
  obtain ⟨m, rfl⟩ := first
  obtain ⟨n, rfl⟩ := second
  exact ⟨m + n, by push_cast; rfl⟩

/-- A whole number that may be negative. -/
def Integral (q : Quantity) : Prop := ∃ z : ℤ, q = z

theorem Integral.cast_value (integral : Integral q) : ((value q : ℤ) : Quantity) = q := by
  obtain ⟨z, rfl⟩ := integral
  rw [value]
  split
  · rw [Rat.ceil_intCast]
  · rw [Rat.floor_intCast]

abbrev Quantities := Go.Map String Quantity

def amount (m : Quantities) (name : String) : Quantity := (m.lookup name).getD 0

def addQuantities (dst src : Quantities) : Quantities := dst.mergeAll (fun old q => old.getD 0 + q) src

def subQuantities (dst src : Quantities) : Quantities := dst.mergeAll (fun old q => old.getD 0 - q) src

/-- Subtracts only from the entries that exist. -/
def deductQuantities (dst src : Quantities) : Quantities := dst.mergePresent (fun old q => old - q) src

/-- The larger of both quantities under every name. -/
def maxQuantities (dst src : Quantities) : Quantities :=
  dst.mergeAll (fun old q => old.elim q fun largest => if largest < q then q else largest) src

@[simp] theorem amount_empty (name : String) : amount ∅ name = 0 := rfl

variable (dst src : Quantities)

theorem amount_addQuantities (name : String) :
    amount (addQuantities dst src) name = amount dst name + amount src name := by
  unfold amount addQuantities
  rw [Go.Map.lookup_mergeAll]
  cases src.lookup name <;> simp

theorem amount_subQuantities (name : String) :
    amount (subQuantities dst src) name = amount dst name - amount src name := by
  unfold amount subQuantities
  rw [Go.Map.lookup_mergeAll]
  cases src.lookup name <;> simp

theorem lookup_deductQuantities (name : String) :
    (deductQuantities dst src).lookup name = (dst.lookup name).map (· - amount src name) := by
  unfold amount deductQuantities
  rw [Go.Map.lookup_mergePresent]
  cases src.lookup name <;> simp

theorem amount_maxQuantities (name : String) (dstNonneg : 0 ≤ amount dst name) (srcNonneg : 0 ≤ amount src name) :
    amount (maxQuantities dst src) name = max (amount dst name) (amount src name) := by
  unfold amount maxQuantities at *
  rw [Go.Map.lookup_mergeAll]
  cases found : src.lookup name with
  | none => simpa using dstNonneg
  | some q =>
    cases stored : dst.lookup name with
    | none => simpa [found] using srcNonneg
    | some largest =>
      by_cases larger : largest < q
      · simp [larger, larger.le]
      · simp [larger, not_lt.mp larger]

section Keyed

/-! Quantities grouped under a key: the counters of a counter set, the dimensions of a device. -/

variable {κ : Type u} [DecidableEq κ]

abbrev Keyed (κ : Type u) := Go.Map κ Quantities

def quantity? (m : Keyed κ) (key : κ) (name : String) : Option Quantity :=
  (m.lookup key).bind (·.lookup name)

def amountAt (m : Keyed κ) (key : κ) (name : String) : Quantity := (quantity? m key name).getD 0

theorem amountAt_eq (m : Keyed κ) (key : κ) (name : String) :
    amountAt m key name = (m.lookup key).elim 0 (amount · name) := by
  unfold amountAt quantity? amount
  cases m.lookup key <;> rfl

@[simp] theorem amountAt_empty (key : κ) (name : String) : amountAt (∅ : Keyed κ) key name = 0 := rfl

/-- Adds the new quantities, opening a group where there is none. -/
def addKeyed (dst src : Keyed κ) : Keyed κ :=
  dst.mergeAll (fun old quantities => addQuantities (old.getD ∅) quantities) src

/-- Adds the new quantities, taking over a group where there is none. -/
def accumulateKeyed (dst src : Keyed κ) : Keyed κ :=
  dst.mergeAll (fun old quantities => old.elim quantities (addQuantities · quantities)) src

/-- Subtracts only from entries that exist in groups that exist. -/
def deductKeyed (dst src : Keyed κ) : Keyed κ := dst.mergePresent deductQuantities src

def maxKeyed (dst src : Keyed κ) : Keyed κ :=
  dst.mergeAll (fun old quantities => maxQuantities (old.getD ∅) quantities) src

theorem amountAt_addKeyed (dst src : Keyed κ) (key : κ) (name : String) :
    amountAt (addKeyed dst src) key name = amountAt dst key name + amountAt src key name := by
  simp only [amountAt_eq, addKeyed, Go.Map.lookup_mergeAll]
  cases src.lookup key with
  | none => simp
  | some quantities => cases dst.lookup key <;> simp [amount_addQuantities]

/-- Adding keeps the entries of both sides. -/
theorem quantity?_addKeyed_eq_none (dst src : Keyed κ) (key : κ) (name : String) :
    quantity? (addKeyed dst src) key name = none ↔ quantity? dst key name = none ∧ quantity? src key name = none := by
  simp only [quantity?, addKeyed, addQuantities, Go.Map.lookup_mergeAll]
  cases src.lookup key with
  | none => simp
  | some quantities =>
    simp only [Option.bind_some, Go.Map.lookup_mergeAll]
    cases quantities.lookup name <;> cases dst.lookup key <;> simp

theorem quantity?_deductKeyed (dst src : Keyed κ) (key : κ) (name : String) :
    quantity? (deductKeyed dst src) key name = (quantity? dst key name).map (· - amountAt src key name) := by
  simp only [quantity?, amountAt_eq, deductKeyed, Go.Map.lookup_mergePresent]
  cases src.lookup key with
  | none => cases dst.lookup key <;> simp
  | some quantities => cases dst.lookup key <;> simp [lookup_deductQuantities]

theorem amountAt_insert (m : Keyed κ) (key other : κ) (quantities : Quantities) (name : String) :
    amountAt (m.insert key quantities) other name =
      if other = key then amount quantities name else amountAt m other name := by
  simp only [amountAt_eq, Go.Map.lookup_insert_eq]
  split <;> rfl

end Keyed

end Karpenter.Resources
