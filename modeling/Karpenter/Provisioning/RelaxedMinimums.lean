import Karpenter.Provisioning.ParallelPlacement
import Karpenter.Scheduling.Meet

/-! The annotation that says whether minimum values were relaxed for a NodeClaim. A NodeClaim is a shallow copy of its
template, so that all NodeClaims of a template share one map of annotations, and so do the drafts that another
template replaces. -/
namespace Karpenter.Provisioning

open Go (Map)
open CloudProvider
open Scheduling

def nodeClaimMinValuesRelaxedAnnotationKey : String := "karpenter.sh/nodeclaim-min-values-relaxed"

/-- Some minimum is lower than it was. -/
def minValuesRelaxed (original updated : Requirements) : Bool :=
  original.keys.any fun key =>
    match (original.get key).minValues, (updated.get key).minValues with
    | some before, some now => decide (now < before)
    | _, _ => false

/-- A NodeClaim with the template it was made from and the requirements it was made with. -/
structure Draft where
  index : Nat
  template : NodeClaimTemplate
  requirements : Requirements

def Draft.lowered (d : Draft) : Bool := minValuesRelaxed d.template.requirements d.requirements

/-- What the workers share while they try the templates: the NodeClaim to use, the annotations of each template, and
the drafts that were annotated, the latest first. -/
structure Drafting where
  record : Option (Nat × Option (NodeClaim × CanAddResult)) := none
  annotations : Nat → Map String String
  drafts : List Draft

def annotated (annotations : Nat → Map String String) (index : Nat) (relaxed : Bool) : Nat → Map String String :=
  Function.update annotations index ((annotations index).insert nodeClaimMinValuesRelaxedAnnotationKey
    (if relaxed then "true" else "false"))

/-- The section under the lock, once a template was tried. -/
def Scheduler.underLock (settings : Settings) (s : Scheduler) (a : Attempt) (d : Drafting) (index : Nat) : Drafting :=
  match s.nodeClaimTemplates[index]?, s.tryNew settings a s.nodeClaimTemplates 0 index with
  | some (template, _), some outcome =>
    if d.record.any (·.1 ≤ index) then d
    else match outcome with
      | none => { d with record := some (index, none) }
      | some (n, result) =>
        { record := some (index, some (n, result))
          annotations := annotated d.annotations index (minValuesRelaxed n.requirements result.requirements)
          drafts := ⟨index, template, result.requirements⟩ :: d.drafts }
  | _, _ => d

/-- A scheduling loop with the annotations and the NodeClaims it created. -/
structure Loop where
  scheduler : Scheduler
  annotations : Nat → Map String String
  drafts : List Draft := []
  created : List Draft := []

/-- Between pods the NodeClaims are sorted somehow; the workers are done with the templates in some order. -/
inductive LoopAction where
  | sort (order : List NodeClaim → List NodeClaim) (perm : ∀ claims, (order claims).Perm claims)
  | place (a : Attempt) (order : List Nat)

namespace Loop

variable (settings : Settings)

def tryTemplates (l : Loop) (a : Attempt) (order : List Nat) : Drafting :=
  order.foldl (l.scheduler.underLock settings a) { annotations := l.annotations, drafts := l.drafts }

def addToNewNodeClaim (l : Loop) (a : Attempt) (order : List Nat) : Loop :=
  let tried := l.tryTemplates settings a order
  match tried.record, l.scheduler.commitNew settings a tried.record with
  | some (index, _), some (some next) =>
    { scheduler := next
      annotations := tried.annotations
      drafts := tried.drafts
      created := match l.scheduler.nodeClaimTemplates[index]?, next.newNodeClaims.getLast? with
        | some (template, _), some n => ⟨index, template, n.requirements⟩ :: l.created
        | _, _ => l.created }
  | _, _ => { l with annotations := tried.annotations, drafts := tried.drafts }

def step (l : Loop) : LoopAction → Loop
  | .sort order _ => { l with scheduler := { l.scheduler with newNodeClaims := order l.scheduler.newNodeClaims } }
  | .place a order =>
    match l.scheduler.addToInflightNode settings a with
    | some (some next) => { l with scheduler := next }
    | some none => l.addToNewNodeClaim settings a order
    | none => l

def run (l : Loop) (actions : List LoopAction) : Loop := actions.foldl (step settings) l

/-- The annotation of every NodeClaim that was created says whether its own minimums were lowered. -/
def AnnotatedAlone (l : Loop) : Prop :=
  ∀ c ∈ l.created,
    (l.annotations c.index).lookup nodeClaimMinValuesRelaxedAnnotationKey = some "true" ↔ c.lowered = true

/-- The draft of a template that was annotated last. -/
def latest (l : Loop) (index : Nat) : Option Draft := l.drafts.find? (·.index = index)

end Loop

theorem minValues_newNodeClaim (template : NodeClaimTemplate) (groups : List DaemonOverheadGroup)
    (its : List InstanceType) (mode : ReservedOfferingMode) (credit : Map String Int) (hostname key : String) :
    ((newNodeClaim template groups its mode credit hostname).requirements.get key).minValues =
      (template.requirements.get key).minValues := by
  rw [Requirements.get, Requirements.get, newNodeClaim, Requirements.get?_addOne,
    Requirements.get?_newRequirements_values]
  split
  · cases template.requirements.get? key with
    | none => rfl
    | some existing =>
      rw [Option.getD_some, Option.getD_some, Requirements.merge, Requirement.minValues_intersection]
      rfl
  · rfl

theorem minValuesRelaxed_iff (original updated : Requirements) : minValuesRelaxed original updated = true ↔
    ∃ key before now, (original.get key).minValues = some before ∧ (updated.get key).minValues = some now ∧
      now < before := by
  rw [minValuesRelaxed, List.any_eq_true]
  constructor
  · rintro ⟨key, -, lower⟩
    split at lower
    · rename_i before now old new
      exact ⟨key, before, now, old, new, of_decide_eq_true lower⟩
    · cases lower
  · rintro ⟨key, before, now, old, new, lower⟩
    refine ⟨key, ?_, by rw [old, new]; exact decide_eq_true lower⟩
    -- a key without a requirement has no minimum
    rw [Requirements.mem_keys]
    cases found : original.get? key with
    | some _ => rfl
    | none =>
      rw [Requirements.get, found] at old
      cases old

section Drafts

variable {settings : Settings} {s : Scheduler} {a : Attempt} {d : Drafting} {l : Loop}

theorem minValuesRelaxed_of_tryNew (from_ : s.nodeClaimTemplates[index]? = some (template, groups))
    (tried : s.tryNew settings a s.nodeClaimTemplates 0 index = some (some (n, result))) :
    minValuesRelaxed n.requirements result.requirements =
      minValuesRelaxed template.requirements result.requirements := by
  rw [Scheduler.tryNew, from_, Option.bind_some] at tried
  dsimp only [Scheduler.tryTemplate] at tried
  cases options : s.optionsWithinLimits template with
  | none =>
    rw [options] at tried
    cases tried
  | some its =>
    rw [options, Option.map_some] at tried
    have same : n = s.draft a (0 + index) template groups its := by
      unfold Scheduler.templateOutcome at tried
      grind
    rw [Bool.eq_iff_iff, minValuesRelaxed_iff, minValuesRelaxed_iff, same, Scheduler.draft]
    simp only [minValues_newNodeClaim]

/-- The annotations of a template are those of its latest draft, and the NodeClaim to use is one of the drafts. -/
structure Drafting.Consistent (s : Scheduler) (d : Drafting) : Prop where
  marked : ∀ index draft, d.drafts.find? (·.index = index) = some draft →
    (d.annotations index).lookup nodeClaimMinValuesRelaxedAnnotationKey =
      some (if draft.lowered then "true" else "false")
  recorded : ∀ index n result, d.record = some (index, some (n, result)) →
    ∃ template groups, s.nodeClaimTemplates[index]? = some (template, groups) ∧
      ⟨index, template, result.requirements⟩ ∈ d.drafts

theorem Drafting.Consistent.underLock (settings : Settings) (a : Attempt) (consistent : d.Consistent s) (index : Nat) :
    (s.underLock settings a d index).Consistent s ∧ d.drafts ⊆ (s.underLock settings a d index).drafts := by
  rw [Scheduler.underLock]
  split
  · rename_i template groups outcome from_ tried
    split
    · exact ⟨consistent, List.Subset.refl _⟩
    · split
      · exact ⟨⟨consistent.marked, by simp⟩, List.Subset.refl _⟩
      · rename_i n result
        refine ⟨⟨?_, ?_⟩, List.subset_cons_self _ _⟩
        · intro other draft found
          rw [List.find?_cons] at found
          split at found
          · rename_i same
            cases found
            obtain rfl := of_decide_eq_true same
            dsimp only
            rw [annotated, Function.update_self, AList.lookup_insert, minValuesRelaxed_of_tryNew from_ tried]
            rfl
          · rename_i different
            dsimp only
            rw [annotated, Function.update_of_ne (Ne.symm (of_decide_eq_false different))]
            exact consistent.marked other draft found
        · rintro _ _ _ ⟨⟩
          exact ⟨template, groups, from_, List.mem_cons_self⟩
  · exact ⟨consistent, List.Subset.refl _⟩

theorem Drafting.Consistent.foldl (settings : Settings) (a : Attempt) (consistent : d.Consistent s) (order : List Nat) :
    (order.foldl (s.underLock settings a) d).Consistent s ∧
      d.drafts ⊆ (order.foldl (s.underLock settings a) d).drafts := by
  induction order generalizing d with
  | nil => exact ⟨consistent, List.Subset.refl _⟩
  | cons index rest ih =>
    obtain ⟨next, kept⟩ := consistent.underLock settings a index
    obtain ⟨final, later⟩ := ih next
    exact ⟨final, List.Subset.trans kept later⟩

/-- The NodeClaim that was created last has the requirements that trying its template gave. -/
theorem getLast?_of_commitNew (committed : s.commitNew settings a (some (index, some (n, result))) = some (some next)) :
    ∃ placed, next.newNodeClaims.getLast? = some placed ∧ placed.requirements = result.requirements := by
  rw [Scheduler.commitNew, Option.bind_some] at committed
  dsimp only at committed
  rw [NodeClaim.add] at committed
  split at committed
  · cases committed
  · cases committed
    exact ⟨_, List.getLast?_concat, rfl⟩

/-- The drafts are annotated as above, and every NodeClaim that was created was a draft. -/
structure Loop.Consistent (l : Loop) : Prop where
  marked : ∀ index draft, l.latest index = some draft →
    (l.annotations index).lookup nodeClaimMinValuesRelaxedAnnotationKey =
      some (if draft.lowered then "true" else "false")
  drafted : l.created ⊆ l.drafts

theorem Loop.Consistent.addToNewNodeClaim (consistent : l.Consistent) (order : List Nat) :
    (l.addToNewNodeClaim settings a order).Consistent := by
  have start : Drafting.Consistent l.scheduler { annotations := l.annotations, drafts := l.drafts } :=
    ⟨consistent.marked, by simp⟩
  obtain ⟨tried, kept⟩ := start.foldl settings a order
  have earlier : l.created ⊆ (l.tryTemplates settings a order).drafts := List.Subset.trans consistent.drafted kept
  rw [Loop.addToNewNodeClaim]
  split
  · rename_i index outcome next recorded committed
    refine ⟨tried.marked, ?_⟩
    split
    · rename_i template groups placed from_ last
      rw [recorded] at committed
      cases outcome with
      | none => cases committed
      | some pair =>
        obtain ⟨n, result⟩ := pair
        obtain ⟨_, last', same⟩ := getLast?_of_commitNew committed
        obtain ⟨template', groups', from', drafted⟩ := tried.recorded index n result recorded
        rw [from_] at from'
        rw [last] at last'
        cases from'
        cases last'
        rw [← same] at drafted
        exact List.cons_subset.mpr ⟨drafted, earlier⟩
    · exact earlier
  · exact ⟨tried.marked, earlier⟩

theorem Loop.Consistent.step (consistent : l.Consistent) (action : LoopAction) :
    (l.step settings action).Consistent := by
  cases action with
  | sort order perm => exact ⟨consistent.marked, consistent.drafted⟩
  | place a order =>
    rw [Loop.step]
    split
    · exact ⟨consistent.marked, consistent.drafted⟩
    · exact consistent.addToNewNodeClaim order
    · exact consistent

theorem Loop.Consistent.run (consistent : l.Consistent) (actions : List LoopAction) :
    (l.run settings actions).Consistent := by
  induction actions generalizing l with
  | nil => exact consistent
  | cons action rest ih => exact ih (consistent.step action)

end Drafts

/-- After a loop each annotation is about its own NodeClaim exactly when every NodeClaim that was created agrees with
the draft that was made last from the same template, whether or not that draft was used. -/
theorem annotatedAlone_iff (settings : Settings) (scheduler : Scheduler) (annotations : Nat → Map String String)
    (actions : List LoopAction) : let l := Loop.run settings { scheduler, annotations } actions
    l.AnnotatedAlone ↔ ∀ c ∈ l.created, ∀ draft, l.latest c.index = some draft → draft.lowered = c.lowered := by
  intro l
  have consistent : l.Consistent := Loop.Consistent.run ⟨by simp [Loop.latest], List.nil_subset _⟩ actions
  refine forall₂_congr fun c member => ?_
  obtain ⟨draft, found⟩ : ∃ draft, l.latest c.index = some draft := by
    refine Option.isSome_iff_exists.mp (List.find?_isSome.mpr ⟨c, consistent.drafted member, ?_⟩)
    exact decide_eq_true rfl
  rw [consistent.marked c.index draft found]
  simp only [found, Option.some.injEq, forall_eq']
  cases draft.lowered <;> cases c.lowered <;> simp

/-- An instance type of one size, with room for any of the pods below. -/
def sizedType (size : String) : InstanceType :=
  coresType size 2 (Requirements.newRequirements [newRequirement "size" .opIn [size]])

/-- A NodePool that asks for two sizes. -/
def twoSizes : Scheduler where
  nodeClaimTemplates := [({
      nodePoolName := "default"
      requirements := Requirements.newRequirements [newRequirementWithFlexibility "size" .opExists (some 2) []]
      instanceTypeOptions := [sizedType "small", sizedType "large"] },
    [{ instanceTypes := [sizedType "small", sizedType "large"] }])]
  remainingResources := ∅
  bestEffortMinValues := true

def sizedAttempt (name : String) (requirements : Requirements) : Attempt where
  pod := { key := ⟨"default", name⟩ }
  podData := { requests := ∅, requirements, strictRequirements := requirements }
  collaborators := fun _ => { addRequirements := fun _ _ _ nodeRequirements => .ok nodeRequirements }
  hostname := fun _ => name

def sizedSettings : Settings := untolerating {capacityTypeLabelKey, "size"} "reservation-id"

/-- Any size does for the first pod; the second, which asks for one, gets a NodeClaim of its own. -/
def sizedLoop : Loop :=
  Loop.run sizedSettings { scheduler := twoSizes, annotations := fun _ => ∅ }
    [.place (sizedAttempt "any" Requirements.empty) [0],
      .place (sizedAttempt "picky" (Requirements.newRequirements [newRequirement "size" .opIn ["small"]])) [0]]

/-- The minimum was lowered for the second NodeClaim only, and the annotation says so of both. -/
theorem relaxed_annotation_shared : sizedLoop.created.map (·.lowered) = [true, false] ∧
      sizedLoop.created.map (fun c =>
        (sizedLoop.annotations c.index).lookup nodeClaimMinValuesRelaxedAnnotationKey) = [some "true", some "true"] ∧
      ¬ sizedLoop.AnnotatedAlone := by
  unfold Loop.AnnotatedAlone
  decide +kernel

end Karpenter.Provisioning
