import Karpenter.Repair.Reboot

/-! A reboot is made at most once: all calls to the provider are for one operation, and none is made once another boot
was seen. The boot ID that tells whether the node has rebooted is recorded before the first call, unless it is empty;
so both hold in all runs exactly if no boot ID follows an empty one and none comes back. -/
namespace Karpenter.Repair

open Interaction Interaction.System

/-- No boot ID follows an empty one, and none comes back after another. -/
structure Settled (boots : Nat → String) : Prop where
  empty : ∀ i j, i ≤ j → boots i = "" → boots j = ""
  fresh : ∀ i j k, i ≤ j → j ≤ k → boots i ≠ "" → boots k = boots i → boots j = boots i

/-- The request says validly how long to drain. -/
def Episode.Valid (ep : Episode) : Prop := ∃ tgp, ep.terminationGracePeriod = .ok tgp

/-- What holds while the reboot is requested. -/
structure Requested (ep : Episode) (boots : Nat → String) (w : RebootWorld) : Prop where
  carried : ∀ op ∈ w.calls, op = rebootOperationID ep w.claim
  recorded : ∀ b ∈ w.claim.annotations.preBootID, ∃ i ≤ w.stage, boots i = b ∧ b ≠ ""
  unrecorded : w.claim.annotations.preBootID = none → w.calls ≠ [] → ∃ i ≤ w.stage, boots i = ""
  changed : w.changed = true → ∃ b ∈ w.claim.annotations.preBootID, ∃ i j, i ≤ j ∧ j ≤ w.stage ∧ boots i = b ∧ boots j ≠ b

structure AtMostOnce (ep : Episode) (boots : Nat → String) (w : RebootWorld) : Prop where
  same : ∃ preBootID, ∀ op ∈ w.calls, op = operationID ep preBootID
  inTime : w.late = false
  requested : w.claim.reason = .requested → ep.Valid → Requested ep boots w

/-- Worlds that differ in nothing that the calls depend on. -/
structure Similar (w w' : RebootWorld) : Prop where
  reason : w'.claim.reason = w.claim.reason
  annotations : w'.claim.annotations = w.claim.annotations
  calls : w'.calls = w.calls
  changed : w'.changed = w.changed
  late : w'.late = w.late
  stage : w.stage ≤ w'.stage

/-- An assertion about what the calls depend on. -/
def Local (assertion : RebootWorld → Prop) : Prop := ∀ w w', Similar w w' → assertion w → assertion w'

variable {ep : Episode} {boots : Nat → String} {w w' : RebootWorld}

theorem Interferes.similar (interferes : Interferes w w') : Similar w w' := by
  cases interferes <;> exact ⟨rfl, rfl, rfl, rfl, rfl, by simp⟩

/-- Boots that the node has gone through stay so. -/
theorem Similar.reached {P : Nat → Prop} (similar : Similar w w') : (∃ i ≤ w.stage, P i) → ∃ i ≤ w'.stage, P i :=
  fun ⟨i, le, holds⟩ => ⟨i, le.trans similar.stage, holds⟩

theorem Requested.similar (requested : Requested ep boots w) (similar : Similar w w') : Requested ep boots w' where
  carried := by
    rw [similar.calls, rebootOperationID, similar.annotations]
    exact requested.carried
  recorded := by
    rw [similar.annotations]
    exact fun b member => similar.reached (requested.recorded b member)
  unrecorded := by
    rw [similar.annotations, similar.calls]
    exact fun none_ some_ => similar.reached (requested.unrecorded none_ some_)
  changed := by
    rw [similar.annotations, similar.changed]
    intro changed
    obtain ⟨b, member, i, j, le, le', known⟩ := requested.changed changed
    exact ⟨b, member, i, j, le, le'.trans similar.stage, known⟩

theorem local_atMostOnce : Local (AtMostOnce ep boots) := fun w w' similar once => by
  refine ⟨?_, similar.late.trans once.inTime, fun reason valid => ?_⟩
  · rw [similar.calls]
    exact once.same
  · exact (once.requested (similar.reason.symm.trans reason) valid).similar similar

theorem Local.stable {assertion : RebootWorld → Prop} (isLocal : Local assertion) :
    (rebootSystem ep boots).Stable assertion := fun _ _ interferes => isLocal _ _ interferes.similar

theorem Local.and {first second : RebootWorld → Prop} (isLocal : Local first) (isLocal' : Local second) :
    Local fun w => first w ∧ second w := fun w w' similar both =>
  ⟨isLocal w w' similar both.1, isLocal' w w' similar both.2⟩

theorem Similar.rfl {w : RebootWorld} : Similar w w := ⟨.refl _, .refl _, .refl _, .refl _, .refl _, le_refl _⟩

theorem Written.similar (made : Written w written ok w') (similar : Similar w written) : Similar w w' := by
  rcases made with rfl | ⟨-, rfl⟩
  · exact similar
  · exact .rfl

/-- Only reading the node, writing the annotations or the condition and calling the provider matter. -/
def RebootCall.harmless {ρ : Type} : RebootCall ρ → Bool
  | .getNode | .patchAnnotations _ | .patchStatus _ | .reboot _ => false
  | _ => true

theorem similar_of_harmless {ρ : Type} {c : RebootCall ρ} {r : ρ} (harmless : c.harmless = true)
    (answers : Answers boots w c r w') : Similar w w' := by
  cases c with
  | getNode | patchAnnotations | patchStatus | reboot => cases harmless
  | drain =>
    obtain rfl := answers
    exact .rfl
  | patchNode | deleteNodeClaim => exact Written.similar answers ⟨rfl, rfl, rfl, rfl, rfl, le_rfl⟩
  | tightenTerminationTimestamp => exact Written.similar answers .rfl
  | now | issuanceStartedAt =>
    obtain ⟨-, rfl⟩ := answers
    exact .rfl
  | ensureIssuanceStarted | clearIssuanceStarted =>
    obtain rfl := answers
    exact ⟨rfl, rfl, rfl, rfl, rfl, le_rfl⟩

section Safe

variable {assertion : RebootWorld → Prop}

/-- The controller keeps the invariant and returns with an assertion. -/
abbrev Keeps (ep : Episode) (boots : Nat → String) {α : Type} (result : α → RebootWorld → Prop) (p : Reconcile α)
    (w : RebootWorld) : Prop := (rebootSystem ep boots).Safe (AtMostOnce ep boots) result p w

/-- An assertion about what the calls depend on, with the invariant as a part. -/
structure Keeping (ep : Episode) (boots : Nat → String) (assertion : RebootWorld → Prop) : Prop where
  isLocal : Local assertion
  once : ∀ w, assertion w → AtMostOnce ep boots w

theorem keeping_once : Keeping ep boots (AtMostOnce ep boots) := ⟨local_atMostOnce, fun _ => id⟩

theorem keeps_harmless {ρ : Type} {c : RebootCall ρ} (harmless : c.harmless = true) (keeping : Keeping ep boots assertion)
    (holds : assertion w) : Keeps ep boots (fun _ => assertion) (Program.perform c) w :=
  safe_call keeping.isLocal.stable holds fun _ _ _ holds answered =>
    have kept := keeping.isLocal _ _ (similar_of_harmless harmless answered) holds
    ⟨keeping.once _ kept, kept⟩

theorem keeps_andThen {p : Reconcile Bool} (first : Keeps ep boots (fun _ => assertion) p w)
    (stops : f false = .ret ()) (goesOn : ∀ w, assertion w → Keeps ep boots (fun _ _ => True) (f true) w) :
    Keeps ep boots (fun _ _ => True) (p.bind f) w :=
  safe_bind first fun ok w holds => by
    cases ok with
    | false =>
      rw [stops]
      trivial
    | true => exact goesOn w holds

theorem keeps_patchNode (patch : NodePatch) (keeping : Keeping ep boots assertion) (holds : assertion w) (needed : Prop)
    [Decidable needed] :
    Keeps ep boots (fun _ => assertion) (if needed then Program.perform (.patchNode patch) else .ret true) w := by
  split
  · exact keeps_harmless rfl keeping holds
  · exact holds

theorem keeps_write {c : RebootCall Bool} {written : RebootWorld → RebootWorld} (keeping : Keeping ep boots assertion)
    (holds : assertion w) (writes : ∀ w ok w', Answers boots w c ok w' → Written w (written w) ok w')
    {result : Bool → RebootWorld → Prop} (made : ∀ w, assertion w → AtMostOnce ep boots (written w) ∧ ∀ ok, result ok (written w))
    (failed : ∀ w, assertion w → result false w) : Keeps ep boots result (Program.perform c) w :=
  safe_call keeping.isLocal.stable holds fun before ok after holds answered => by
    rcases writes _ _ _ answered with rfl | ⟨rfl, rfl⟩
    · exact ⟨(made _ holds).1, (made _ holds).2 ok⟩
    · exact ⟨keeping.once _ holds, failed _ holds⟩

/-- The condition can be written unless it is set back to requested. -/
theorem AtMostOnce.setReason (once : AtMostOnce ep boots w) (other : reason ≠ .requested) :
    AtMostOnce ep boots { w with claim := w.claim.setReason reason w.clock } :=
  ⟨once.same, once.inTime, fun requested => absurd requested other⟩

theorem keeps_patchStatus (other : reason ≠ .requested) (once : AtMostOnce ep boots w) :
    Keeps ep boots (fun _ => AtMostOnce ep boots) (Program.perform (.patchStatus reason)) w :=
  keeps_write keeping_once once (fun _ _ _ => id)
    (fun _ once => ⟨once.setReason other, fun _ => once.setReason other⟩) fun _ => id

/-- The annotations may go once the reboot is issued, or if it was not valid. -/
theorem keeps_setTerminal (nodeClaim : RebootClaim) (other : reason ≠ .requested) (once : AtMostOnce ep boots w)
    (ended : ep.Valid → w.claim.reason ≠ .requested) :
    Keeps ep boots (fun _ => AtMostOnce ep boots) (setTerminal nodeClaim reason) w := by
  have keeping : Keeping ep boots fun w => AtMostOnce ep boots w ∧ (ep.Valid → w.claim.reason ≠ .requested) :=
    ⟨local_atMostOnce.and fun w w' similar ended valid => similar.reason ▸ ended valid, fun _ => And.left⟩
  refine safe_bind (keeps_harmless rfl keeping ⟨once, ended⟩) fun _ w holds => ?_
  refine safe_bind (?_ : Keeps ep boots (fun _ => AtMostOnce ep boots) _ w) fun ok w once => ?_
  · split
    · refine keeps_write keeping holds (fun _ _ _ => id) (fun w holds => ?_) fun _ => And.left
      have kept : AtMostOnce ep boots { w with claim := { w.claim with annotations := {} } } :=
        ⟨holds.1.same, holds.1.inTime, fun requested valid => absurd requested (holds.2 valid)⟩
      exact ⟨kept, fun _ => kept⟩
    · exact holds.1
  · cases ok with
    | false => exact once
    | true => exact keeps_patchStatus other once

theorem keeps_tightenTermination (once : AtMostOnce ep boots w) :
    Keeps ep boots (fun _ => AtMostOnce ep boots) (tightenTermination ep) w := by
  rw [tightenTermination]
  split
  · exact safe_bind (keeps_harmless rfl keeping_once once) fun _ _ => keeps_harmless rfl keeping_once
  · exact once

theorem keeps_transitionToFailed (nodeClaim : RebootClaim) (node : Option RebootNode) (once : AtMostOnce ep boots w)
    (invalid : outcome = .invalidRequest → ¬ ep.Valid) :
    Keeps ep boots (fun _ _ => True) (transitionToFailed ep nodeClaim node outcome) w := by
  refine keeps_andThen (?_ : Keeps ep boots (fun _ => AtMostOnce ep boots) _ w) rfl fun w once => ?_
  · cases node with
    | none => exact once
    | some node => exact keeps_patchNode _ keeping_once once _
  dsimp only
  split
  · rename_i isInvalid
    refine safe_bind (keeps_setTerminal nodeClaim (by decide) once fun valid => ?_) fun _ _ _ => trivial
    exact absurd valid (invalid isInvalid)
  · refine keeps_andThen (keeps_tightenTermination once) rfl fun w once => ?_
    refine keeps_andThen (keeps_harmless rfl keeping_once once) rfl fun w once => ?_
    exact safe_mono (keeps_harmless rfl keeping_once once) fun _ _ _ => trivial

/-- The copy that the controller holds agrees with the NodeClaim. -/
structure Knows (ep : Episode) (boots : Nat → String) (nodeClaim : RebootClaim) (w : RebootWorld) : Prop where
  once : AtMostOnce ep boots w
  reason : w.claim.reason = nodeClaim.reason
  annotations : w.claim.annotations = nodeClaim.annotations

variable {node : RebootNode}

theorem local_knows : Local (Knows ep boots nodeClaim) := fun w w' similar knows =>
  ⟨local_atMostOnce w w' similar knows.once, similar.reason.trans knows.reason,
    similar.annotations.trans knows.annotations⟩

theorem keeping_knows : Keeping ep boots (Knows ep boots nodeClaim) := ⟨local_knows, fun _ => Knows.once⟩

/-- Annotations with the same boot ID make no difference. -/
theorem AtMostOnce.setAnnotations (once : AtMostOnce ep boots w)
    (same : annotations.preBootID = w.claim.annotations.preBootID) :
    AtMostOnce ep boots { w with claim := { w.claim with annotations } } := by
  refine ⟨once.same, once.inTime, fun requested valid => ?_⟩
  obtain ⟨carried, recorded, unrecorded, changed⟩ := once.requested requested valid
  refine ⟨?_, ?_, ?_, ?_⟩
  · simpa only [rebootOperationID, same] using carried
  · simpa only [same] using recorded
  · simpa only [same] using unrecorded
  · simpa only [same] using changed

theorem keeps_transitionToIssued (knows : Knows ep boots nodeClaim w) :
    Keeps ep boots (fun _ _ => True) (transitionToIssued nodeClaim node) w := by
  refine keeps_andThen (?_ : Keeps ep boots (fun _ => AtMostOnce ep boots) _ w) rfl fun w once => ?_
  · rw [recordIssuedAt]
    split
    · exact knows.once
    · refine safe_bind (keeps_harmless rfl keeping_knows knows) fun now w knows => ?_
      refine keeps_write keeping_knows knows (fun _ _ _ => id) (fun w knows => ?_) fun _ => Knows.once
      have kept : AtMostOnce ep boots { w with claim := { w.claim with
          annotations := { nodeClaim.annotations with issuedAt := some now } } } :=
        knows.once.setAnnotations (by rw [knows.annotations])
      exact ⟨kept, fun _ => kept⟩
  refine keeps_andThen (keeps_patchStatus (by decide) once) rfl fun w once => ?_
  exact safe_bind (keeps_patchNode _ keeping_once once _) fun _ _ _ => trivial

/-- The provider may be called: no other boot was seen, and the operation is that of all calls. -/
structure Issuing (ep : Episode) (boots : Nat → String) (nodeClaim : RebootClaim) (w : RebootWorld) : Prop extends
    Knows ep boots nodeClaim w where
  valid : ep.Valid
  isRequested : nodeClaim.reason = .requested
  unchanged : w.changed = false
  unrecorded : nodeClaim.annotations.preBootID = none → ∃ i ≤ w.stage, boots i = ""

theorem local_issuing : Local (Issuing ep boots nodeClaim) := fun w w' similar issuing =>
  { toKnows := local_knows w w' similar issuing.toKnows
    valid := issuing.valid
    isRequested := issuing.isRequested
    unchanged := similar.changed.trans issuing.unchanged
    unrecorded := fun none_ => similar.reached (issuing.unrecorded none_) }

theorem Issuing.reboot (issuing : Issuing ep boots nodeClaim w) : Knows ep boots nodeClaim
      { w with calls := rebootOperationID ep nodeClaim :: w.calls, late := w.late || w.changed } := by
  have requested := issuing.once.requested (issuing.reason.trans issuing.isRequested) issuing.valid
  have sameID : rebootOperationID ep w.claim = rebootOperationID ep nodeClaim := by
    rw [rebootOperationID, issuing.annotations, ← rebootOperationID]
  have carried : ∀ op ∈ rebootOperationID ep nodeClaim :: w.calls, op = rebootOperationID ep nodeClaim :=
    List.forall_mem_cons.mpr ⟨rfl, fun op member => (requested.carried op member).trans sameID⟩
  refine ⟨⟨⟨_, carried⟩, ?_, fun _ _ => ⟨fun op member => ?_, requested.recorded, fun none_ _ => ?_, requested.changed⟩⟩,
    issuing.reason, issuing.annotations⟩
  · simp only [issuing.once.inTime, issuing.unchanged, Bool.or_self]
  · exact (carried op member).trans sameID.symm
  · exact issuing.unrecorded (issuing.annotations ▸ none_)

theorem keeps_issueReboot (issuing : Issuing ep boots nodeClaim w) :
    Keeps ep boots (fun _ _ => True) (issueReboot ep nodeClaim node) w := by
  have called : Keeps ep boots (fun _ => Knows ep boots nodeClaim)
      (Program.perform (.reboot (rebootOperationID ep nodeClaim))) w :=
    safe_call local_issuing.stable issuing fun _ _ _ issuing answered => by
      obtain rfl := answered
      exact ⟨issuing.reboot.once, issuing.reboot⟩
  refine safe_bind called fun reply w knows => ?_
  cases reply with
  | accepted => exact keeps_transitionToIssued knows
  | notImplemented | rejected => exact keeps_transitionToFailed _ _ knows.once (by simp)
  | transient => trivial

/-- What is known once the node was read: an empty boot ID if there were calls without a recorded one, and that no
other boot was seen if it is the recorded one. -/
structure Reads (ep : Episode) (boots : Nat → String) (nodeClaim : RebootClaim) (bootID : String) (w : RebootWorld) :
    Prop extends Knows ep boots nodeClaim w where
  seen : ∃ i ≤ w.stage, boots i = bootID
  unrecorded : ep.Valid → nodeClaim.reason = .requested → nodeClaim.annotations.preBootID = none → w.calls ≠ [] →
    bootID = ""
  unchanged : ep.Valid → nodeClaim.reason = .requested → (∀ b ∈ nodeClaim.annotations.preBootID, bootID = b) →
    w.changed = false

theorem local_reads : Local (Reads ep boots nodeClaim bootID) := fun w w' similar reads =>
  { toKnows := local_knows w w' similar reads.toKnows
    seen := similar.reached reads.seen
    unrecorded := similar.calls ▸ reads.unrecorded
    unchanged := similar.changed ▸ reads.unchanged }

theorem keeping_reads : Keeping ep boots (Reads ep boots nodeClaim bootID) := ⟨local_reads, fun _ reads => reads.once⟩

theorem Knows.getNode (settled : ep.Valid → Settled boots) (knows : Knows ep boots nodeClaim w) :
    Reads ep boots nodeClaim (boots w.stage) { w with changed := w.changed || w.claim.differs (boots w.stage) } := by
  have differs_iff : w.claim.differs (boots w.stage) = true ↔
      ∃ b ∈ w.claim.annotations.preBootID, boots w.stage ≠ b := by
    simp [RebootClaim.differs, Option.any_eq_true]
  have requested (reason : nodeClaim.reason = .requested) (valid : ep.Valid) : Requested ep boots w :=
    knows.once.requested (knows.reason.trans reason) valid
  refine ⟨⟨⟨knows.once.same, knows.once.inTime, fun reason valid => ?_⟩, knows.reason, knows.annotations⟩,
    ⟨_, le_rfl, rfl⟩, fun valid reason none_ some_ => ?_, fun valid reason same => ?_⟩
  · obtain ⟨carried, recorded, unrecorded, changed⟩ := knows.once.requested reason valid
    refine ⟨carried, recorded, unrecorded, fun either => ?_⟩
    rcases (Bool.or_eq_true _ _).mp either with before | here
    · exact changed before
    · obtain ⟨b, member, other⟩ := differs_iff.mp here
      obtain ⟨i, le, known, -⟩ := recorded b member
      exact ⟨b, member, i, w.stage, le, le_rfl, known, other⟩
  · obtain ⟨i, le, empty⟩ := (requested reason valid).unrecorded (knows.annotations ▸ none_) some_
    exact (settled valid).empty i w.stage le empty
  · rw [← knows.annotations] at same
    refine (Bool.or_eq_false_iff).mpr ⟨?_, ?_⟩
    · -- the recorded boot ID has not come back after another
      by_contra changed
      obtain ⟨b, member, i, j, le, le', known, other⟩ :=
        (requested reason valid).changed (Bool.of_not_eq_false changed)
      obtain ⟨-, -, -, nonempty⟩ := (requested reason valid).recorded b member
      have back : boots w.stage = boots i := (same b member).trans known.symm
      exact other (((settled valid).fresh i j w.stage le le' (known ▸ nonempty) back).trans known)
    · by_contra differs
      obtain ⟨b, member, other⟩ := differs_iff.mp (Bool.of_not_eq_false differs)
      exact other (same b member)

theorem keeps_recordIssuingState (valid : ep.Valid) (isRequested : nodeClaim.reason = .requested)
    (none_ : nodeClaim.annotations.preBootID = none) (reads : Reads ep boots nodeClaim bootID w) :
    Keeps ep boots (fun recorded w => ∀ nodeClaim ∈ recorded, Issuing ep boots nodeClaim w)
      (recordIssuingState nodeClaim bootID) w := by
  have unchanged {w : RebootWorld} (reads : Reads ep boots nodeClaim bootID w) : w.changed = false :=
    reads.unchanged valid isRequested (by simp [none_])
  refine safe_bind (keeps_harmless rfl keeping_reads reads) fun _ w reads => ?_
  rw [none_, Option.getD_none]
  split
  · rename_i empty
    rintro _ ⟨⟩
    exact ⟨reads.toKnows, valid, isRequested, unchanged reads, fun _ => empty ▸ reads.seen⟩
  · rename_i nonempty
    generalize new : { nodeClaim.annotations with preBootID := some bootID } = annotations
    have written (w : RebootWorld) (reads : Reads ep boots nodeClaim bootID w) :
        Issuing ep boots { nodeClaim with annotations } { w with claim := { w.claim with annotations } } := by
      subst new
      have noCalls : w.calls = [] := by
        by_contra some_
        exact nonempty (reads.unrecorded valid isRequested none_ some_).symm
      have still := unchanged reads
      refine ⟨⟨⟨reads.once.same, reads.once.inTime, fun _ _ => ⟨?_, ?_, ?_, ?_⟩⟩, reads.reason, rfl⟩, valid, isRequested,
        still, nofun⟩
      · simp [noCalls]
      · rintro _ ⟨⟩
        obtain ⟨i, le, known⟩ := reads.seen
        exact ⟨i, le, known, fun empty => nonempty empty.symm⟩
      · nofun
      · intro changed
        cases still.symm.trans changed
    have recorded : Keeps ep boots (fun ok w => ok = true → Issuing ep boots { nodeClaim with annotations } w)
        (Program.perform (.patchAnnotations annotations)) w :=
      keeps_write keeping_reads reads (fun _ _ _ => id)
        (fun w reads => ⟨(written w reads).once, fun _ _ => written w reads⟩) fun _ _ => nofun
    refine safe_bind recorded fun ok w issuing => ?_
    cases ok with
    | false => exact nofun
    | true =>
      rintro _ ⟨⟩
      exact issuing rfl

theorem keeps_drain (keeping : Keeping ep boots assertion) (holds : assertion w) (tgp : Option Int) :
    Keeps ep boots (fun _ => assertion) (drain ep tgp) w := by
  have atTime {w : RebootWorld} (holds : assertion w) (due : Int → Bool) : Keeps ep boots (fun _ => assertion)
      ((Program.perform .now).bind fun now => .ret (due now)) w :=
    safe_bind (keeps_harmless rfl keeping holds) fun _ _ => id
  rw [drain]
  split
  · exact holds
  · refine safe_bind (keeps_harmless rfl keeping holds) fun reply w holds => ?_
    cases reply with
    | error => exact holds
    | draining =>
      cases tgp with
      | none => exact holds
      | some tgp => exact atTime holds _
    | drained => exact atTime holds _

theorem keeps_reconcileRequested (isRequested : nodeClaim.reason = .requested)
    (reads : Reads ep boots nodeClaim bootID w) :
    Keeps ep boots (fun _ _ => True) (reconcileRequested ep nodeClaim node bootID) w := by
  rw [reconcileRequested]
  split
  · rename_i error invalid
    refine keeps_transitionToFailed _ _ reads.once fun _ ⟨tgp, valid⟩ => ?_
    cases invalid.symm.trans valid
  · rename_i tgp parsed
    have valid : ep.Valid := ⟨tgp, parsed⟩
    refine keeps_andThen (?_ : Keeps ep boots (fun _ => Reads ep boots nodeClaim bootID) _ w) rfl fun w reads => ?_
    · rw [ensureRebootTaint]
      split
      · exact reads
      · exact keeps_harmless rfl keeping_reads reads
    dsimp only
    split
    · rename_i preBootID recorded
      split
      · exact keeps_transitionToIssued reads.toKnows
      · rename_i same
        refine safe_bind (keeps_harmless rfl keeping_reads reads) fun _ w reads => keeps_issueReboot ?_
        have unchanged : w.changed = false := reads.unchanged valid isRequested (by simpa [recorded] using same)
        exact ⟨reads.toKnows, valid, isRequested, unchanged, by simp [recorded]⟩
    · rename_i none_
      refine keeps_andThen (keeps_drain keeping_reads reads tgp) rfl fun w reads => ?_
      refine safe_bind (keeps_recordIssuingState valid isRequested none_ reads) fun recorded w issuing => ?_
      cases recorded with
      | none => trivial
      | some nodeClaim => exact keeps_issueReboot (issuing _ rfl)

theorem keeps_reconcileIssued (ended : nodeClaim.reason ≠ .requested) (knows : Knows ep boots nodeClaim w) :
    Keeps ep boots (fun _ _ => True) (reconcileIssued nodeClaim node bootID) w := by
  refine keeps_andThen (keeps_patchNode _ keeping_knows knows _) rfl fun w knows => ?_
  refine keeps_andThen (?_ : Keeps ep boots (fun _ => Knows ep boots nodeClaim) _ w) rfl fun w knows => ?_
  · split
    · exact keeps_patchNode _ keeping_knows knows _
    · exact knows
  dsimp only
  split
  · refine keeps_andThen (keeps_patchNode _ keeping_knows knows _) rfl fun w knows => ?_
    refine safe_bind (keeps_setTerminal nodeClaim (by decide) knows.once fun _ => ?_) fun _ _ _ => trivial
    exact knows.reason ▸ ended
  · trivial

theorem keeps_rebootDeadline (keeping : Keeping ep boots assertion) (holds : assertion w) :
    Keeps ep boots (fun _ => assertion) (rebootDeadline nodeClaim) w := by
  rw [rebootDeadline]
  split
  · exact holds
  · exact safe_bind (keeps_harmless rfl keeping holds) fun _ _ => id

theorem keeps_pastRebootDeadline (keeping : Keeping ep boots assertion) (holds : assertion w) :
    Keeps ep boots (fun _ => assertion) (pastRebootDeadline nodeClaim) w := by
  refine safe_bind (keeps_rebootDeadline keeping holds) fun deadline w holds => ?_
  cases deadline with
  | none => exact holds
  | some deadline => exact safe_bind (keeps_harmless rfl keeping holds) fun _ _ => id

theorem keeps_reconcile (settled : ep.Valid → Settled boots) (once : AtMostOnce ep boots w) :
    Keeps ep boots (fun _ _ => True) (reconcile ep w.claim) w := by
  have knows : Knows ep boots w.claim w := ⟨once, rfl, rfl⟩
  generalize w.claim = nodeClaim at knows
  have noInvalid : deadlineResult nodeClaim ≠ .invalidRequest := by
    rw [deadlineResult]
    split <;> simp
  rw [reconcile]
  split
  · trivial
  split
  · exact safe_mono (keeps_harmless rfl keeping_once once) fun _ _ _ => trivial
  have got : Keeps ep boots (fun reply w => Knows ep boots nodeClaim w ∧ ∀ node bootID, reply = .found node bootID →
      Reads ep boots nodeClaim bootID w) (Program.perform .getNode) w :=
    safe_call local_knows.stable knows fun before reply after knows answered => by
      rcases answered with ⟨rfl, rfl⟩ | ⟨-, rfl, rfl⟩ | ⟨node, -, rfl, rfl⟩
      · exact ⟨knows.once, knows, nofun⟩
      · exact ⟨knows.once, knows, nofun⟩
      · have reads := knows.getNode settled
        refine ⟨reads.once, reads.toKnows, ?_⟩
        rintro _ _ ⟨⟩
        exact reads
  refine safe_bind got fun reply w ⟨knows, found⟩ => ?_
  cases reply with
  | error => trivial
  | notFound =>
    refine safe_bind (keeps_rebootDeadline keeping_knows knows) fun deadline w knows => ?_
    refine safe_bind (keeps_harmless rfl keeping_knows knows) fun now w knows => ?_
    split
    · exact keeps_transitionToFailed _ _ knows.once fun invalid => absurd invalid noInvalid
    · trivial
  | found node bootID =>
    refine safe_bind (keeps_pastRebootDeadline keeping_reads (found _ _ rfl)) fun past w reads => ?_
    cases past with
    | true => exact keeps_transitionToFailed _ _ reads.once fun invalid => absurd invalid noInvalid
    | false =>
      dsimp only
      split
      · rename_i isRequested
        exact keeps_reconcileRequested isRequested reads
      · rename_i ended
        exact keeps_reconcileIssued ended reads.toKnows

end Safe

section Failures

/-- A drained node at some stage, with the time for the drain over and no time for the call gone by. -/
structure Steady (ep : Episode) (w : RebootWorld) : Prop where
  reason : w.claim.reason = .requested
  present : w.claim.deleting = false
  unissued : w.claim.annotations.issuedAt = none
  node : w.node = some ⟨true, false, true⟩
  drained : ep.requestedAt + minDrainTime ≤ w.clock
  inTime : ∀ startedAt ∈ w.issuanceStarted, startedAt = w.clock

variable {tgp : Option Int}

theorem returns_pastRebootDeadline (steady : Steady ep w) :
    (rebootSystem ep boots).Returns (pastRebootDeadline w.claim) w false w := by
  have started : (rebootSystem ep boots).Returns (rebootDeadline w.claim) w
      (w.issuanceStarted.map (· + issuanceTimeout)) w := by
    rw [rebootDeadline, if_neg (by simp [steady.reason])]
    exact returns_bind (returns_perform ⟨rfl, rfl⟩) ⟨rfl, rfl⟩
  refine returns_bind started ?_
  cases known : w.issuanceStarted with
  | none => exact ⟨rfl, rfl⟩
  | some startedAt =>
    refine returns_bind (returns_perform ⟨rfl, rfl⟩) ⟨decide_eq_false ?_, rfl⟩
    have := steady.inTime startedAt known
    have : 0 < issuanceTimeout := by decide
    show ¬ startedAt + issuanceTimeout < w.clock
    omega

theorem returns_reconcile (steady : Steady ep w) (returns : (rebootSystem ep boots).Returns
      (reconcileRequested ep w.claim ⟨true, false, true⟩ (boots w.stage))
      { w with changed := w.changed || w.claim.differs (boots w.stage) } () w') :
    (rebootSystem ep boots).Returns (reconcile ep w.claim) w () w' := by
  rw [reconcile, if_neg (by simp [steady.reason]), if_neg (by simp [steady.present])]
  refine returns_bind (returns_perform (.inr (.inr ⟨_, steady.node, rfl, rfl⟩))) ?_
  have same : Steady ep { w with changed := w.changed || w.claim.differs (boots w.stage) } :=
    ⟨steady.reason, steady.present, steady.unissued, steady.node, steady.drained, steady.inTime⟩
  refine returns_bind (returns_pastRebootDeadline same) ?_
  rw [if_pos steady.reason]
  exact returns

theorem returns_drain (steady : Steady ep w) (tgp : Option Int) :
    (rebootSystem ep boots).Returns (drain ep tgp) w true w := by
  rw [drain]
  split
  · exact ⟨rfl, rfl⟩
  · refine returns_bind (returns_perform (r := DrainReply.drained) rfl) ?_
    exact returns_bind (returns_perform ⟨rfl, rfl⟩) ⟨decide_eq_true steady.drained, rfl⟩

theorem Steady.started (steady : Steady ep w) : (w.issuanceStarted <|> some w.clock) = some w.clock := by
  cases known : w.issuanceStarted with
  | none => rfl
  | some startedAt => rw [steady.inTime startedAt known]; rfl

theorem returns_issueReboot (nodeClaim : RebootClaim) (node : RebootNode) :
    (rebootSystem ep boots).Returns (issueReboot ep nodeClaim node) w ()
      { w with calls := rebootOperationID ep nodeClaim :: w.calls, late := w.late || w.changed } :=
  returns_bind (returns_perform (r := ProviderReply.transient) rfl) ⟨rfl, rfl⟩

theorem run_boots (run : (rebootSystem ep boots).Runs first w) (le : w.stage ≤ n) :
    (rebootSystem ep boots).Runs first { w with stage := n } := by
  induction n, le using Nat.le_induction with
  | base => exact run
  | succ n _ ih => exact ih.tail (.interfere none (.boot { w with stage := n }))

/-- Without a recorded boot ID the provider is called for the one of the node, which is recorded unless it is empty. -/
theorem run_unrecorded (valid : ep.terminationGracePeriod = .ok tgp) (steady : Steady ep w)
    (none_ : w.claim.annotations.preBootID = none) {n : Nat} (le : w.stage ≤ n) : ∃ w', Steady ep w' ∧ w'.stage = n ∧
      w'.claim.annotations.preBootID = (if "" = boots w.stage then none else some (boots w.stage)) ∧
      w'.calls = operationID ep (boots w.stage) :: w.calls ∧ (rebootSystem ep boots).Runs w w' := by
  generalize known : (if "" = boots w.stage then none else some (boots w.stage)) = preBootID
  have issued : (rebootSystem ep boots).Runs w { w with
      claim := { w.claim with annotations := { w.claim.annotations with preBootID } }
      issuanceStarted := some w.clock
      calls := operationID ep (boots w.stage) :: w.calls
      late := w.late || w.changed } := ?issued
  · refine ⟨_, ?_, ?_, ?_, ?_, run_boots issued le⟩
    exacts [⟨steady.reason, steady.present, steady.unissued, steady.node, steady.drained, by simp⟩, rfl, rfl, rfl]
  have noDiffers : (w.changed || w.claim.differs (boots w.stage)) = w.changed := by
    simp [RebootClaim.differs, none_]
  refine run_of_returns (returns_reconcile steady ?_)
  rw [noDiffers, reconcileRequested, valid]
  refine returns_bind ⟨rfl, rfl⟩ ?_
  rw [none_]
  refine returns_bind (returns_drain steady tgp) ?_
  have recorded : (rebootSystem ep boots).Returns (recordIssuingState w.claim (boots w.stage)) w
      (some { w.claim with annotations := { w.claim.annotations with preBootID } })
      { w with
        claim := { w.claim with annotations := { w.claim.annotations with preBootID } }
        issuanceStarted := some w.clock } := by
    refine returns_bind (returns_perform (r := ()) rfl) ?_
    rw [none_, Option.getD_none, steady.started, ← known]
    split
    · rename_i empty
      rw [← none_]
      exact ⟨rfl, rfl⟩
    · exact returns_bind (returns_perform (r := true) (.inl rfl)) ⟨rfl, rfl⟩
  refine returns_bind recorded ?_
  convert returns_issueReboot _ _ using 3
  · rw [rebootOperationID, ← known]
    split
    · rename_i empty
      rw [← empty]
      rfl
    · rfl

/-- With the recorded boot ID the provider is called again. -/
theorem run_recorded (valid : ep.terminationGracePeriod = .ok tgp) (steady : Steady ep w)
    (recorded : w.claim.annotations.preBootID = some (boots w.stage)) :
    ∃ w', w'.late = (w.late || w.changed) ∧ (rebootSystem ep boots).Runs w w' := by
  refine ⟨{ w with
    issuanceStarted := some w.clock
    calls := operationID ep (boots w.stage) :: w.calls
    late := w.late || w.changed }, rfl, ?_⟩
  have noDiffers : (w.changed || w.claim.differs (boots w.stage)) = w.changed := by
    simp [RebootClaim.differs, recorded]
  refine run_of_returns (returns_reconcile steady ?_)
  rw [noDiffers, reconcileRequested, valid]
  refine returns_bind ⟨rfl, rfl⟩ ?_
  rw [recorded]
  dsimp only
  rw [if_neg (not_not.mpr rfl)]
  refine returns_bind (returns_perform (r := ()) rfl) ?_
  rw [steady.started]
  convert returns_issueReboot _ _ using 3
  rw [rebootOperationID, recorded, Option.getD_some]

/-- With another boot ID the reboot has happened, which the controller fails to record. -/
theorem run_changed (valid : ep.terminationGracePeriod = .ok tgp) (steady : Steady ep w) {preBootID : String}
    (recorded : w.claim.annotations.preBootID = some preBootID) (other : boots w.stage ≠ preBootID) {n : Nat}
    (le : w.stage ≤ n) :
    ∃ w', Steady ep w' ∧ w'.stage = n ∧ w'.claim.annotations.preBootID = some preBootID ∧ w'.changed = true ∧
      (rebootSystem ep boots).Runs w w' := by
  have seen : (rebootSystem ep boots).Runs w { w with changed := true } := ?seen
  · refine ⟨_, ?_, ?_, ?_, ?_, run_boots seen le⟩
    exacts [⟨steady.reason, steady.present, steady.unissued, steady.node, steady.drained, steady.inTime⟩, rfl, recorded,
      rfl]
  have differs : (w.changed || w.claim.differs (boots w.stage)) = true := by
    simp [RebootClaim.differs, recorded, other]
  refine run_of_returns (returns_reconcile steady ?_)
  rw [differs, reconcileRequested, valid]
  refine returns_bind ⟨rfl, rfl⟩ ?_
  rw [recorded]
  dsimp only
  rw [if_pos other]
  have unissued : (rebootSystem ep boots).Returns (recordIssuedAt w.claim) { w with changed := true } false
      { w with changed := true } := by
    rw [recordIssuedAt, steady.unissued]
    exact returns_bind (returns_perform ⟨rfl, rfl⟩) (returns_perform (.inr ⟨rfl, rfl⟩))
  exact returns_bind unissued ⟨rfl, rfl⟩

/-- Once the node is there and the drain is over, the controller may go on. -/
theorem exists_steady (ep : Episode) (boots : Nat → String) (clock : Int) (node : Option RebootNode) (stage : Nat) :
    ∃ w, Steady ep w ∧ w.stage = stage ∧ w.claim.annotations.preBootID = none ∧ w.calls = [] ∧
      (rebootSystem ep boots).Runs { clock, node } w := by
  refine ⟨{ node := some ⟨true, false, true⟩, clock := max clock (ep.requestedAt + minDrainTime), stage },
    ⟨rfl, rfl, rfl, rfl, le_max_right _ _, nofun⟩, rfl, rfl, rfl, ?_⟩
  have present : (rebootSystem ep boots).Step ⟨{ clock, node }, none⟩ ⟨{ clock, node := some ⟨true, false, true⟩ }, none⟩ :=
    .interfere none (.node { clock, node } _)
  exact run_boots (.head present (.single (.interfere none
    (.clock (w := { clock, node := some ⟨true, false, true⟩ }) _ (le_max_left _ _))))) (Nat.zero_le _)

/-- After a call with an empty boot ID there may be one with another. -/
theorem reaches_two_operations (valid : ep.terminationGracePeriod = .ok tgp) (clock : Int) (node : Option RebootNode)
    {i j : Nat} (le : i ≤ j) (empty : boots i = "") :
    ∃ w, (rebootSystem ep boots).Reaches { clock, node } w ∧ w.calls = [operationID ep (boots j), operationID ep ""] := by
  obtain ⟨w, steady, stage, none_, noCalls, run⟩ := exists_steady ep boots clock node i
  obtain ⟨w₁, steady₁, stage₁, preBootID₁, calls₁, run₁⟩ := @run_unrecorded _ boots _ _ valid steady none_ j (stage.trans_le le)
  rw [stage, empty, if_pos rfl] at preBootID₁
  obtain ⟨w₂, -, -, -, calls₂, run₂⟩ := @run_unrecorded _ boots _ _ valid steady₁ preBootID₁ j stage₁.le
  refine ⟨w₂, ⟨none, (run.trans run₁).trans run₂⟩, ?_⟩
  rw [calls₂, calls₁, noCalls, stage₁, stage, empty]

/-- A boot ID that comes back leads to a call after another was seen. -/
theorem reaches_late (valid : ep.terminationGracePeriod = .ok tgp) (clock : Int) (node : Option RebootNode) {i j k : Nat}
    (le : i ≤ j) (le' : j ≤ k) (nonempty : boots i ≠ "") (other : boots j ≠ boots i) (back : boots k = boots i) :
    ∃ w, (rebootSystem ep boots).Reaches { clock, node } w ∧ w.late = true := by
  obtain ⟨w, steady, stage, none_, noCalls, run⟩ := exists_steady ep boots clock node i
  obtain ⟨w₁, steady₁, stage₁, recorded₁, -, run₁⟩ := @run_unrecorded _ boots _ _ valid steady none_ j (stage.trans_le le)
  rw [stage, if_neg nonempty.symm] at recorded₁
  obtain ⟨w₂, steady₂, stage₂, recorded₂, changed₂, run₂⟩ :=
    run_changed valid steady₁ recorded₁ (stage₁ ▸ other) (stage₁.trans_le le')
  rw [← back, ← stage₂] at recorded₂
  obtain ⟨w₃, late, run₃⟩ := run_recorded valid steady₂ recorded₂
  refine ⟨w₃, ⟨none, ((run.trans run₁).trans run₂).trans run₃⟩, ?_⟩
  rw [late, changed₂, Bool.or_true]

end Failures

theorem operationID_injective (ep : Episode) : Function.Injective (operationID ep) := fun _ _ same =>
  String.append_right_inj _ |>.mp same

/-- In all runs of an episode the provider is called for one operation only, and not after another boot was seen,
exactly if the request is not valid or the boot IDs of the node are settled. -/
theorem reboots_atMostOnce_iff (ep : Episode) (boots : Nat → String) (clock : Int) (node : Option RebootNode) :
    (∀ w, (rebootSystem ep boots).Reaches { clock, node } w →
      (∀ op ∈ w.calls, ∀ op' ∈ w.calls, op = op') ∧ w.late = false) ↔ (ep.Valid → Settled boots) := by
  constructor
  · rintro always ⟨tgp, valid⟩
    refine ⟨fun i j le empty => ?_, fun i j k le le' nonempty back => ?_⟩
    · obtain ⟨w, reaches, calls⟩ := @reaches_two_operations ep boots tgp valid clock node i j le empty
      have same := (always w reaches).1 (operationID ep (boots j)) (by simp [calls]) (operationID ep "") (by simp [calls])
      exact operationID_injective ep same
    · by_contra other
      obtain ⟨w, reaches, late⟩ := reaches_late valid clock node le le' nonempty other back
      cases late.symm.trans (always w reaches).2
  · intro settled w reaches
    have start : AtMostOnce ep boots { clock, node } :=
      ⟨⟨"", by simp⟩, rfl, fun _ _ => ⟨by simp, by simp, fun _ some_ => absurd rfl some_, nofun⟩⟩
    have once : AtMostOnce ep boots w := invariant_of_reaches start local_atMostOnce.stable
      (fun w => local_atMostOnce _ _ ⟨rfl, rfl, rfl, rfl, rfl, le_rfl⟩) (fun w once => keeps_reconcile settled once) reaches
    obtain ⟨preBootID, same⟩ := once.same
    exact ⟨fun op member op' member' => (same op member).trans (same op' member').symm, once.inTime⟩

/-- A node that first reports no boot ID is rebooted again for the one that it reports then. -/
theorem reboots_atMostOnce_empty :
    ∃ w, (rebootSystem ⟨"uid", 0, .ok none⟩ fun stage => if stage = 0 then "" else "boot").Reaches { clock := 0, node := none }
        w ∧ w.calls = ["uid-0-boot", "uid-0-"] := by
  obtain ⟨w, reaches, calls⟩ := @reaches_two_operations ⟨"uid", 0, .ok none⟩
    (fun stage => if stage = 0 then "" else "boot") none rfl 0 none 0 1 (Nat.zero_le 1) rfl
  exact ⟨w, reaches, calls.trans (by decide +kernel)⟩

end Karpenter.Repair
