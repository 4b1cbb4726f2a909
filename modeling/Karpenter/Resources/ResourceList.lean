import Karpenter.Resources.Quantity

/-! Resource lists and the helpers of the resources package. Quantities are exact; a missing resource
reads as zero, as the zero value of a Go map does. -/
namespace Karpenter.Resources

open Go (Map)

abbrev ResourceList := Quantities

/-- The resource under which every node counts one. -/
def node : String := "nodes"

def merge (resources : List ResourceList) : ResourceList := resources.foldl addQuantities ∅

def mergeInto (dest src : ResourceList) : ResourceList := addQuantities dest src

/-- Only the resources of the left list are kept. -/
def subtract (lhs rhs : ResourceList) : ResourceList := deductQuantities lhs rhs

/-- Resources that only the second list has become negative. -/
def subtractFrom (dest src : ResourceList) : ResourceList :=
  Map.mergeAll (fun current quantity => current.getD 0 - quantity) dest src

def maxResources (resources : List ResourceList) : ResourceList := resources.foldl maxQuantities ∅

/-- The smaller of both quantities of every resource that both lists have. -/
def minQuantities (dst src : ResourceList) : ResourceList :=
  dst.filterMapValues fun name quantity => (src.lookup name).map fun other =>
    if other < quantity then other else quantity

def minResources : List ResourceList → ResourceList
  | [] => ∅
  | first :: rest => rest.foldl minQuantities first

/-- `lo.Assign`: the second list overrides the first. -/
def assign (first second : ResourceList) : ResourceList := first.mergeAll (fun _ quantity => quantity) second

/-- Nothing fits a list with a negative quantity. -/
def fits (candidate total : ResourceList) : Bool :=
  total.entries.all (fun entry => decide (0 ≤ entry.2)) &&
    candidate.entries.all fun entry => decide (entry.2 ≤ amount total entry.1)

theorem lookup_addQuantities (dst src : ResourceList) (name : String) : (addQuantities dst src).lookup name =
      match src.lookup name with
      | none => dst.lookup name
      | some quantity => some (amount dst name + quantity) := by
  unfold addQuantities amount
  rw [Map.lookup_mergeAll]
  cases src.lookup name <;> rfl

/-- Lists that agree under every name; the order of the entries is not observable. -/
def Agree (first second : ResourceList) : Prop := ∀ name, first.lookup name = second.lookup name

theorem Agree.add (agree : Agree first second) (added : ResourceList) :
    Agree (addQuantities first added) (addQuantities second added) := by
  intro name
  rw [lookup_addQuantities, lookup_addQuantities, amount, amount, agree name]

theorem agree_empty_add (resources : ResourceList) : Agree (addQuantities ∅ resources) resources := by
  intro name
  rw [lookup_addQuantities, amount_empty]
  cases resources.lookup name with
  | none => rfl
  | some quantity => exact congrArg some (zero_add quantity)

theorem merge_append (resources : List ResourceList) (last : ResourceList) :
    merge (resources ++ [last]) = addQuantities (merge resources) last := by
  rw [merge, merge, List.foldl_append]
  rfl

theorem lookup_subtract (lhs rhs : ResourceList) (name : String) :
    (subtract lhs rhs).lookup name = (lhs.lookup name).map (· - amount rhs name) :=
  lookup_deductQuantities lhs rhs name

theorem fits_iff (candidate total : ResourceList) : fits candidate total = true ↔
      (∀ name quantity, total.lookup name = some quantity → 0 ≤ quantity) ∧
        ∀ name quantity, candidate.lookup name = some quantity → quantity ≤ amount total name := by
  unfold fits
  rw [Bool.and_eq_true, List.all_eq_true, List.all_eq_true]
  constructor
  · rintro ⟨nonneg, within⟩
    exact ⟨fun name quantity found => by simpa using nonneg _ (Map.mem_entries_iff.mpr found),
      fun name quantity found => by simpa using within _ (Map.mem_entries_iff.mpr found)⟩
  · rintro ⟨nonneg, within⟩
    exact ⟨fun entry member => by simpa using nonneg _ _ (Map.mem_entries_iff.mp member),
      fun entry member => by simpa using within _ _ (Map.mem_entries_iff.mp member)⟩

theorem Agree.fits (agree : Agree first second) (fit : fits second total = true) : Resources.fits first total = true := by
  rw [fits_iff] at fit ⊢
  exact ⟨fit.1, fun name quantity found => fit.2 name quantity ((agree name).symm.trans found)⟩

/-- Every quantity of the list is non-negative. -/
def Nonneg (resources : ResourceList) : Prop :=
  ∀ name quantity, resources.lookup name = some quantity → 0 ≤ quantity

theorem nonneg_single (name : String) (nonneg : 0 ≤ quantity) : Nonneg (AList.insert name quantity ∅) := by
  intro other found here
  rw [Map.lookup_insert_eq] at here
  split at here
  · cases here
    exact nonneg
  · cases here

theorem nonneg_two_cores : Nonneg (AList.insert "cpu" 2 ∅) := nonneg_single "cpu" (by decide)

theorem Nonneg.amount (nonneg : Nonneg resources) (name : String) : 0 ≤ amount resources name := by
  unfold Resources.amount
  cases found : resources.lookup name with
  | none => exact le_rfl
  | some quantity => exact nonneg name quantity found

theorem foldl_maxQuantities_le_iff {resources : List ResourceList} (nonneg : ∀ list ∈ resources, Nonneg list)
    (startNonneg : 0 ≤ amount start name) : amount (resources.foldl maxQuantities start) name ≤ bound ↔
      amount start name ≤ bound ∧ ∀ list ∈ resources, amount list name ≤ bound := by
  induction resources generalizing start with
  | nil => simp
  | cons first rest ih =>
    obtain ⟨here, later⟩ := List.forall_mem_cons.mp nonneg
    have step := amount_maxQuantities start first name startNonneg (here.amount name)
    rw [List.foldl_cons, ih later (step ▸ le_max_of_le_left startNonneg), step, max_le_iff, List.forall_mem_cons, and_assoc]

theorem amount_le_maxResources (nonneg : ∀ list ∈ resources, Nonneg list) (member : list ∈ resources) (name : String) :
    amount list name ≤ amount (maxResources resources) name :=
  ((foldl_maxQuantities_le_iff nonneg le_rfl).mp le_rfl).2 list member

theorem maxResources_le (nonneg : ∀ list ∈ resources, Nonneg list) (room : 0 ≤ bound)
    (each : ∀ list ∈ resources, amount list name ≤ bound) : amount (maxResources resources) name ≤ bound :=
  (foldl_maxQuantities_le_iff nonneg le_rfl).mpr ⟨room, each⟩

end Karpenter.Resources
