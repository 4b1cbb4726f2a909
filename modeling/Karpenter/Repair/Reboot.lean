import Karpenter.Interaction
import Karpenter.Go.Strconv

/-! The controller that reboots a node. Its progress is kept in a condition and in annotations of the NodeClaim, which
are written before and after the call to the provider. Every access to the API server, the provider, the clock and the
memory of the process is a call; calls may fail, and a write that is reported as failed may have been made. Times are
nanoseconds. The results of a reconciliation (when to come back, metrics, events) are left out, as it may be run again
at any time. -/
namespace Karpenter.Repair

open Interaction

def observationWindow : Int := 20 * 60 * 1000000000

def issuanceTimeout : Int := 5 * 60 * 1000000000

def minDrainTime : Int := 5 * 1000000000

/-- What stays the same while a NodeClaim is rebooted. -/
structure Episode where
  uid : String
  /-- When the Rebooting condition became true. -/
  requestedAt : Int
  /-- The annotation for the drain as it is parsed; none if there is no bound. -/
  terminationGracePeriod : Except Unit (Option Int)

/-- The reason of the Rebooting condition, which is true while the reboot is requested or issued. -/
inductive RebootReason where
  | requested
  | issued
  | succeeded
  | failed
  deriving DecidableEq

inductive RebootOutcome where
  | invalidRequest
  | providerError
  | recoveryTimeout
  deriving DecidableEq

structure RebootAnnotations where
  preBootID : Option String := none
  issuedAt : Option Int := none

structure RebootClaim where
  reason : RebootReason := .requested
  annotations : RebootAnnotations := {}
  /-- Since when the Initialized condition is unknown. -/
  initializedUnknownAt : Option Int := none
  deleting : Bool := false

structure RebootNode where
  tainted : Bool
  initializedLabel : Bool
  ready : Bool

inductive NodePatch where
  | addRebootTaint
  | removeRebootTaint
  | removeInitializedLabel

def NodePatch.apply : NodePatch → RebootNode → RebootNode
  | .addRebootTaint, node => { node with tainted := true }
  | .removeRebootTaint, node => { node with tainted := false }
  | .removeInitializedLabel, node => { node with initializedLabel := false }

inductive NodeReply where
  | error
  | notFound
  | found (node : RebootNode) (bootID : String)

inductive DrainReply where
  | drained
  | draining
  | error

inductive ProviderReply where
  | accepted
  | notImplemented
  | rejected
  | transient

/-- The calls, by what they reply. Writes report whether they succeeded. -/
inductive RebootCall : Type → Type where
  | getNode : RebootCall NodeReply
  | drain (deadline : Option Int) : RebootCall DrainReply
  | patchNode (patch : NodePatch) : RebootCall Bool
  | patchAnnotations (annotations : RebootAnnotations) : RebootCall Bool
  | patchStatus (reason : RebootReason) : RebootCall Bool
  | tightenTerminationTimestamp (terminationTime : Int) : RebootCall Bool
  | deleteNodeClaim : RebootCall Bool
  | reboot (operationID : String) : RebootCall ProviderReply
  | now : RebootCall Int
  | ensureIssuanceStarted : RebootCall Unit
  | clearIssuanceStarted : RebootCall Unit
  | issuanceStartedAt : RebootCall (Option Int)

abbrev Reconcile (α : Type) := Program RebootCall α

open Program (perform)

section Controller

def ensureRebootTaint (node : RebootNode) : Reconcile Bool :=
  if node.tainted then .ret true else perform (.patchNode .addRebootTaint)

def removeRebootTaint (node : RebootNode) : Reconcile Bool :=
  if node.tainted then perform (.patchNode .removeRebootTaint) else .ret true

def removeInitializedLabel (node : RebootNode) : Reconcile Bool :=
  if node.initializedLabel then perform (.patchNode .removeInitializedLabel) else .ret true

/-- The annotations of the episode go before the condition becomes false. -/
def setTerminal (nodeClaim : RebootClaim) (reason : RebootReason) : Reconcile Bool :=
  (perform .clearIssuanceStarted).bind fun _ =>
  (if nodeClaim.annotations.preBootID.isSome || nodeClaim.annotations.issuedAt.isSome then
    perform (.patchAnnotations {})
  else .ret true).bind fun
  | false => .ret false
  | true => perform (.patchStatus reason)

variable (ep : Episode)

def tightenTermination : Reconcile Bool :=
  match ep.terminationGracePeriod with
  | .ok (some tgp) => (perform .now).bind fun now => perform (.tightenTerminationTimestamp (now + tgp))
  | _ => .ret true

/-- A reboot that fails after the node was disrupted leads to the replacement of the NodeClaim. -/
def transitionToFailed (nodeClaim : RebootClaim) (node : Option RebootNode) (outcome : RebootOutcome) :
    Reconcile Unit :=
  (node.elim (.ret true) removeRebootTaint).bind fun
  | false => .ret ()
  | true =>
    if outcome = .invalidRequest then (setTerminal nodeClaim .failed).bind fun _ => .ret ()
    else
      (tightenTermination ep).bind fun
      | false => .ret ()
      | true =>
        (perform .deleteNodeClaim).bind fun
        | false => .ret ()
        | true => perform .clearIssuanceStarted

def recordIssuedAt (nodeClaim : RebootClaim) : Reconcile Bool :=
  match nodeClaim.annotations.issuedAt with
  | some _ => .ret true
  | none =>
    (perform .now).bind fun now => perform (.patchAnnotations { nodeClaim.annotations with issuedAt := some now })

def transitionToIssued (nodeClaim : RebootClaim) (node : RebootNode) : Reconcile Unit :=
  (recordIssuedAt nodeClaim).bind fun
  | false => .ret ()
  | true =>
    (perform (.patchStatus .issued)).bind fun
    | false => .ret ()
    | true => (removeInitializedLabel node).bind fun _ => .ret ()

def transitionToSucceeded (nodeClaim : RebootClaim) (node : RebootNode) : Reconcile Unit :=
  (removeRebootTaint node).bind fun
  | false => .ret ()
  | true => (setTerminal nodeClaim .succeeded).bind fun _ => .ret ()

/-- The key by which the provider tells reboots apart. -/
def operationID (preBootID : String) : String := ep.uid ++ "-" ++ Go.formatInt ep.requestedAt ++ "-" ++ preBootID

def rebootOperationID (nodeClaim : RebootClaim) : String := operationID ep (nodeClaim.annotations.preBootID.getD "")

def issueReboot (nodeClaim : RebootClaim) (node : RebootNode) : Reconcile Unit :=
  (perform (.reboot (rebootOperationID ep nodeClaim))).bind fun
  | .accepted => transitionToIssued nodeClaim node
  | .notImplemented | .rejected => transitionToFailed ep nodeClaim (some node) .providerError
  | .transient => .ret ()

/-- The NodeClaim with the boot ID of its node; nothing if it could not be written. -/
def recordIssuingState (nodeClaim : RebootClaim) (bootID : String) : Reconcile (Option RebootClaim) :=
  (perform .ensureIssuanceStarted).bind fun _ =>
  if nodeClaim.annotations.preBootID.getD "" = bootID then .ret (some nodeClaim)
  else
    let annotations := { nodeClaim.annotations with preBootID := some bootID }
    (perform (.patchAnnotations annotations)).bind fun ok =>
      .ret (if ok then some { nodeClaim with annotations } else none)

/-- Whether the drain is over: without pods but not before the minimum, or at its deadline. -/
def drain (tgp : Option Int) : Reconcile Bool :=
  if tgp = some 0 then .ret true
  else
    let deadline := tgp.map fun tgp => ep.requestedAt + max tgp minDrainTime
    (perform (.drain deadline)).bind fun
    | .error => .ret false
    | .draining =>
      match deadline with
      | none => .ret false
      | some deadline => (perform .now).bind fun now => .ret (decide (deadline ≤ now))
    | .drained => (perform .now).bind fun now => .ret (decide (ep.requestedAt + minDrainTime ≤ now))

def reconcileRequested (nodeClaim : RebootClaim) (node : RebootNode) (bootID : String) : Reconcile Unit :=
  match ep.terminationGracePeriod with
  | .error _ => transitionToFailed ep nodeClaim (some node) .invalidRequest
  | .ok tgp =>
    (ensureRebootTaint node).bind fun
    | false => .ret ()
    | true =>
      match nodeClaim.annotations.preBootID with
      | some preBootID =>
        if bootID ≠ preBootID then transitionToIssued nodeClaim node
        else (perform .ensureIssuanceStarted).bind fun _ => issueReboot ep nodeClaim node
      | none =>
        (drain ep tgp).bind fun
        | false => .ret ()
        | true =>
          (recordIssuingState nodeClaim bootID).bind fun
          | none => .ret ()
          | some nodeClaim => issueReboot ep nodeClaim node

def reconcileIssued (nodeClaim : RebootClaim) (node : RebootNode) (bootID : String) : Reconcile Unit :=
  (removeInitializedLabel node).bind fun
  | false => .ret ()
  | true =>
    let bootChanged := bootID ≠ nodeClaim.annotations.preBootID.getD ""
    (if bootChanged then removeRebootTaint node else .ret true).bind fun
    | false => .ret ()
    | true =>
      if bootChanged ∧ node.ready = true then transitionToSucceeded nodeClaim { node with tainted := false } else .ret ()

def rebootDeadline (nodeClaim : RebootClaim) : Reconcile (Option Int) :=
  if nodeClaim.reason = .issued then
    .ret ((nodeClaim.annotations.issuedAt <|> nodeClaim.initializedUnknownAt).map (· + observationWindow))
  else (perform .issuanceStartedAt).bind fun startedAt => .ret (startedAt.map (· + issuanceTimeout))

def pastRebootDeadline (nodeClaim : RebootClaim) : Reconcile Bool :=
  (rebootDeadline nodeClaim).bind fun
  | none => .ret false
  | some deadline => (perform .now).bind fun now => .ret (decide (deadline < now))

def deadlineResult (nodeClaim : RebootClaim) : RebootOutcome :=
  if nodeClaim.reason = .issued then .recoveryTimeout else .providerError

def reconcile (nodeClaim : RebootClaim) : Reconcile Unit :=
  if ¬ (nodeClaim.reason = .requested ∨ nodeClaim.reason = .issued) then .ret ()
  else if nodeClaim.deleting then perform .clearIssuanceStarted
  else
    (perform .getNode).bind fun
    | .error => .ret ()
    | .notFound =>
      (rebootDeadline nodeClaim).bind fun deadline =>
      (perform .now).bind fun now =>
      if deadline.getD (ep.requestedAt + issuanceTimeout) < now then
        transitionToFailed ep nodeClaim none (deadlineResult nodeClaim)
      else .ret ()
    | .found node bootID =>
      (pastRebootDeadline nodeClaim).bind fun
      | true => transitionToFailed ep nodeClaim (some node) (deadlineResult nodeClaim)
      | false =>
        if nodeClaim.reason = .requested then reconcileRequested ep nodeClaim node bootID
        else reconcileIssued nodeClaim node bootID

end Controller

/-- The API server, the node and the process, with what the controller has done. The node goes through boots, one per
stage. -/
structure RebootWorld where
  claim : RebootClaim := {}
  node : Option RebootNode := none
  stage : Nat := 0
  clock : Int := 0
  issuanceStarted : Option Int := none
  /-- The operations that the provider was called with. -/
  calls : List String := []
  /-- A boot ID was read that is not the recorded one. -/
  changed : Bool := false
  /-- The provider was called after that. -/
  late : Bool := false

def RebootClaim.differs (claim : RebootClaim) (bootID : String) : Bool :=
  claim.annotations.preBootID.any fun preBootID => decide (bootID ≠ preBootID)

/-- What changes besides the controller. -/
inductive Interferes : RebootWorld → RebootWorld → Prop where
  | clock {w : RebootWorld} (now : Int) (later : w.clock ≤ now) : Interferes w { w with clock := now }
  | boot (w : RebootWorld) : Interferes w { w with stage := w.stage + 1 }
  | node (w : RebootWorld) (node : Option RebootNode) : Interferes w { w with node }
  | delete (w : RebootWorld) : Interferes w { w with claim := { w.claim with deleting := true } }
  | initialized (w : RebootWorld) (at_ : Option Int) :
    Interferes w { w with claim := { w.claim with initializedUnknownAt := at_ } }

def RebootClaim.setReason (claim : RebootClaim) (reason : RebootReason) (now : Int) : RebootClaim :=
  { claim with
    reason
    initializedUnknownAt :=
      if reason = .issued then claim.initializedUnknownAt <|> some now else claim.initializedUnknownAt }

/-- A write that is reported as failed may have been made. -/
def Written (w written : RebootWorld) (ok : Bool) (w' : RebootWorld) : Prop := w' = written ∨ ok = false ∧ w' = w

/-- What a call may lead to. Reads return the objects as they are. -/
def Answers (boots : Nat → String) {ρ : Type} (w : RebootWorld) : RebootCall ρ → ρ → RebootWorld → Prop
  | .getNode => fun reply w' => reply = .error ∧ w' = w ∨ (w.node = none ∧ reply = .notFound ∧ w' = w) ∨
      ∃ node, w.node = some node ∧ reply = .found node (boots w.stage) ∧
        w' = { w with changed := w.changed || w.claim.differs (boots w.stage) }
  | .drain _ => fun _ w' => w' = w
  | .patchNode patch => Written w { w with node := w.node.map patch.apply }
  | .patchAnnotations annotations => Written w { w with claim := { w.claim with annotations } }
  | .patchStatus reason => Written w { w with claim := w.claim.setReason reason w.clock }
  | .tightenTerminationTimestamp _ => Written w w
  | .deleteNodeClaim => Written w { w with claim := { w.claim with deleting := true } }
  | .reboot operationID => fun _ w' => w' = { w with calls := operationID :: w.calls, late := w.late || w.changed }
  | .now => fun now w' => now = w.clock ∧ w' = w
  | .ensureIssuanceStarted => fun _ w' => w' = { w with issuanceStarted := w.issuanceStarted <|> some w.clock }
  | .clearIssuanceStarted => fun _ w' => w' = { w with issuanceStarted := none }
  | .issuanceStartedAt => fun startedAt w' => startedAt = w.issuanceStarted ∧ w' = w

def rebootSystem (ep : Episode) (boots : Nat → String) : System RebootCall RebootWorld where
  main w := reconcile ep w.claim
  answer := Answers boots
  interfere := Interferes
  crash w := { w with issuanceStarted := none }

end Karpenter.Repair
