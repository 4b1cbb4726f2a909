import Mathlib.Data.Nat.Digits.Defs
import Mathlib.Data.Int.Init

/-! Decimal conversion of 64-bit integers as the Go standard library performs it.
`atoi` keeps the value that accompanies an error, because callers may discard the error:
a malformed text yields zero and a text outside the 64-bit range yields the nearest bound. -/
namespace Karpenter.Go

def minInt : Int := -2 ^ 63

def maxInt : Int := 2 ^ 63 - 1

/-- Two's complement wrap-around of 64-bit signed arithmetic. -/
def wrap (value : Int) : Int := (value + 2 ^ 63) % 2 ^ 64 - 2 ^ 63

theorem wrap_of_range (low : minInt ≤ value) (high : value ≤ maxInt) : wrap value = value := by
  simp only [minInt, maxInt] at low high
  simp only [wrap]
  omega

theorem wrap_range (value : Int) : minInt ≤ wrap value ∧ wrap value ≤ maxInt := by
  simp only [wrap, minInt, maxInt]
  omega

inductive NumError where
  | badText
  | outOfRange
  deriving DecidableEq, Repr

/-- Digit scan of `strconv.ParseUint` in base ten. A bad character is reported before an overflow
at the same position, and an overflow ends the scan at once. -/
def parseUint : List Char → Nat → Nat × Option NumError
  | [], total => (total, none)
  | c :: rest, total =>
    if c.isDigit then
      if 2 ^ 64 ≤ 10 * total + (c.toNat - '0'.toNat) then (2 ^ 64 - 1, some .outOfRange)
      else parseUint rest (10 * total + (c.toNat - '0'.toNat))
    else (0, some .badText)

/-- The part of `strconv.ParseInt` after the sign has been read. -/
def parseMagnitude (negative : Bool) (digits : List Char) : Int × Option NumError :=
  if digits.isEmpty then (0, some .badText)
  else match parseUint digits 0 with
    | (_, some .badText) => (0, some .badText)
    | (magnitude, _) =>
      if negative then
        if 2 ^ 63 < magnitude then (minInt, some .outOfRange) else (-magnitude, none)
      else
        if 2 ^ 63 ≤ magnitude then (maxInt, some .outOfRange) else (magnitude, none)

/-- `strconv.Atoi` on a 64-bit platform: the value together with the error. -/
def atoi (text : String) : Int × Option NumError :=
  match text.toList with
  | '+' :: digits => parseMagnitude false digits
  | '-' :: digits => parseMagnitude true digits
  | digits => parseMagnitude false digits

/-- The integer a text denotes when `atoi` reports no error. -/
def integer? (text : String) : Option Int :=
  match atoi text with
  | (value, none) => some value
  | (_, some _) => none

theorem parseMagnitude_range : minInt ≤ (parseMagnitude negative digits).1 ∧
    (parseMagnitude negative digits).1 ≤ maxInt := by
  simp only [parseMagnitude, minInt, maxInt]
  split
  · omega
  · split
    · omega
    · split <;> split <;> constructor <;> simp only [] <;> omega

/-- Every value `atoi` returns, with or without an error, is a 64-bit integer. -/
theorem atoi_range (text : String) : minInt ≤ (atoi text).1 ∧ (atoi text).1 ≤ maxInt := by
  unfold atoi
  split <;> exact parseMagnitude_range

theorem integer?_eq_some : integer? text = some value ↔ atoi text = (value, none) := by
  unfold integer?
  split <;> simp_all

theorem integer?_range (read : integer? text = some value) : minInt ≤ value ∧ value ≤ maxInt := by
  have range := atoi_range text
  rw [integer?_eq_some.mp read] at range
  exact range

theorem parseUint_digits (digits : ∀ c ∈ text, c.isDigit = true) (bound : Nat.ofDigitChars 10 text total < 2 ^ 64) :
    parseUint text total = (Nat.ofDigitChars 10 text total, none) := by
  induction text generalizing total with
  | nil => simp only [parseUint, Nat.ofDigitChars_nil]
  | cons c rest ih =>
    rw [Nat.ofDigitChars_cons] at bound ⊢
    have grows : 10 * total + (c.toNat - '0'.toNat) ≤
        Nat.ofDigitChars 10 rest (10 * total + (c.toNat - '0'.toNat)) := by
      rw [Nat.ofDigitChars_eq_ofDigitChars_zero]
      have : 1 ≤ 10 ^ rest.length := Nat.one_le_pow _ _ (by omega)
      nlinarith
    have small : ¬ 2 ^ 64 ≤ 10 * total + (c.toNat - '0'.toNat) := by omega
    rw [parseUint, if_pos (digits c List.mem_cons_self), if_neg small]
    exact ih (fun d member => digits d (List.mem_cons_of_mem _ member)) bound

/-- `strconv.FormatInt` in base ten. -/
def formatInt : Int → String
  | .ofNat n => String.ofList (Nat.toDigits 10 n)
  | .negSucc n => String.ofList ('-' :: Nat.toDigits 10 (n + 1))

/-- A decimal text of an integer with leading zeros. -/
def padded (zeros : Nat) : Int → String
  | .ofNat n => String.ofList (List.replicate zeros '0' ++ Nat.toDigits 10 n)
  | .negSucc n => String.ofList ('-' :: (List.replicate zeros '0' ++ Nat.toDigits 10 (n + 1)))

theorem parseUint_zeros (zeros : Nat) (text : List Char) :
    parseUint (List.replicate zeros '0' ++ text) 0 = parseUint text 0 := by
  induction zeros with
  | zero => rfl
  | succ zeros ih =>
    rw [List.replicate_succ, List.cons_append, parseUint]
    exact ih

theorem parseMagnitude_toDigits (zeros n : Nat) (bound : n < 2 ^ 64) :
    parseMagnitude negative (List.replicate zeros '0' ++ Nat.toDigits 10 n) =
      if negative then
        if 2 ^ 63 < n then (minInt, some .outOfRange) else (-n, none)
      else
        if 2 ^ 63 ≤ n then (maxInt, some .outOfRange) else (n, none) := by
  have scanned : parseUint (Nat.toDigits 10 n) 0 = (n, none) := by
    have value : Nat.ofDigitChars 10 (Nat.toDigits 10 n) 0 = n := Nat.ofDigitChars_ten_toDigits
    rw [parseUint_digits (fun c member => Nat.isDigit_of_mem_toDigits (by decide) (by decide) member)
      (by rw [value]; exact bound), value]
  have nonempty : (List.replicate zeros '0' ++ Nat.toDigits 10 n).isEmpty = false := by
    simp [Nat.toDigits_ne_nil]
  simp only [parseMagnitude, nonempty, parseUint_zeros, scanned, Bool.false_eq_true, if_false]

theorem unsigned_padded (zeros n : Nat) :
    ∃ c rest, List.replicate zeros '0' ++ Nat.toDigits 10 n = c :: rest ∧ c.isDigit = true := by
  cases zeros with
  | succ zeros => exact ⟨'0', _, rfl, rfl⟩
  | zero =>
    cases h : Nat.toDigits 10 n with
    | nil => exact absurd h Nat.toDigits_ne_nil
    | cons c rest =>
      have member : c ∈ Nat.toDigits 10 n := by
        rw [h]
        exact List.mem_cons_self
      exact ⟨c, rest, rfl, Nat.isDigit_of_mem_toDigits (by decide) (by decide) member⟩

/-- Leading zeros do not change the integer that a text denotes. -/
theorem integer?_padded (zeros : Nat) (low : minInt ≤ value) (high : value ≤ maxInt) :
    integer? (padded zeros value) = some value := by
  rw [integer?_eq_some]
  simp only [minInt, maxInt] at low high
  cases value with
  | ofNat n =>
    simp only [Int.ofNat_eq_natCast] at low high
    obtain ⟨c, rest, text, digit⟩ := unsigned_padded zeros n
    have read : atoi (padded zeros (.ofNat n)) =
        parseMagnitude false (List.replicate zeros '0' ++ Nat.toDigits 10 n) := by
      simp only [atoi, padded, String.toList_ofList, text]
      split
      · simp_all +decide
      · simp_all +decide
      · rfl
    rw [read, parseMagnitude_toDigits zeros n (by omega)]
    simp only [Bool.false_eq_true, if_false]
    rw [if_neg (by omega)]
    rfl
  | negSucc n =>
    have read : atoi (padded zeros (.negSucc n)) =
        parseMagnitude true (List.replicate zeros '0' ++ Nat.toDigits 10 (n + 1)) := by
      simp only [atoi, padded, String.toList_ofList]
    rw [read, parseMagnitude_toDigits zeros (n + 1) (by omega)]
    simp only [if_true]
    rw [if_neg (by omega)]
    simp only [Int.negSucc_eq, Nat.cast_add, Nat.cast_one]

theorem length_padded (zeros : Nat) (value : Int) : (padded zeros value).length = zeros + (padded 0 value).length := by
  cases value with
  | ofNat n => simp [padded]
  | negSucc n =>
    simp [padded]
    omega

/-- Formatting a 64-bit integer and reading it back is the identity. -/
theorem integer?_formatInt (low : minInt ≤ value) (high : value ≤ maxInt) :
    integer? (formatInt value) = some value := by
  have unpadded : formatInt value = padded 0 value := by
    cases value <;> rfl
  rw [unpadded]
  exact integer?_padded 0 low high

end Karpenter.Go
