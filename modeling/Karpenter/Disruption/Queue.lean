import Karpenter.Go.Map

/-! The queue that carries out disruption commands. A command is reconciled again and again until its replacements
are initialized and its candidates are deleted, or until it fails. Commands are shared by pointer: the queue maps a
provider ID to the identity of a command, and the command itself is kept apart. What is asked of the API server is
kept in a log. -/
namespace Karpenter.Disruption.Queue

open Go (Map)

/-- What the queue reads of a candidate. `terminationGracePeriod` is the bound that a repair puts on the drain. -/
structure Candidate where
  providerID : String
  nodeClaim : String
  terminationGracePeriod : Option Int := none
deriving DecidableEq

/-- What the queue reads of a replacement. The name is empty until the NodeClaim is created. -/
structure Replacement where
  name : String := ""
  initialized : Bool := false
deriving DecidableEq

structure Command where
  candidates : List Candidate
  replacements : List Replacement := []
  /-- Nanoseconds, as all times here. -/
  creationTimestamp : Int := 0
  succeeded : Bool := false
deriving DecidableEq

def Command.providerIDs (cmd : Command) : List String := cmd.candidates.map (·.providerID)

/-- The answer to a `Get` of a replacement. -/
inductive GetResult where
  | found (initialized : Bool)
  | notFound
  | failed
deriving DecidableEq

/-- What was asked of the API server for a command; the replacements by their position, with the answer. -/
inductive Effect where
  | get (command replacement : Nat) (answer : GetResult)
  | delete (command : Nat) (nodeClaim : String)
  | untaint (command : Nat) (providerID : String)
  | clearCondition (command : Nat) (providerID : String)
deriving DecidableEq

structure State where
  providerIDToCommand : Map String Nat := ∅
  commands : Map Nat Command := ∅
  /-- The nodes of the cluster state by provider ID, each with its mark for deletion. -/
  nodes : Map String Bool := ∅
  log : List Effect := []

/-- The mark of a node that is tracked is taken off, others are passed over. -/
def unmarkForDeletion (nodes : Map String Bool) (providerIDs : List String) : Map String Bool :=
  providerIDs.foldl
    (fun nodes providerID => if (nodes.lookup providerID).isSome then nodes.insert providerID false else nodes) nodes

inductive DeleteResult where
  | deleted
  | notFound
  | failed
deriving DecidableEq

/-- What the API server, the cluster state and the clock answer in one attempt. Calls are numbered by the position of
the replacement or candidate they are made for; retried calls stand for their last answer. -/
structure Attempt where
  get : Nat → GetResult
  /-- `cluster.NodeClaimExists` for the replacement. -/
  nodeClaimExists : Nat → Bool
  /-- Stamping the termination deadline succeeds. -/
  stamp : Nat → Bool
  delete : Nat → DeleteResult
  /-- The clock when `waitOrTerminate` returns. -/
  now : Int

inductive CommandError where
  | replacementDeleted (name : String)
  | waitingForInitialization (names : List String)
  | terminating (nodeClaims : List String)
  | reachedTimeout (cause : Option CommandError)

def CommandError.isUnrecoverable : CommandError → Bool
  | .replacementDeleted _ => true
  | .waitingForInitialization _ => false
  | .terminating _ => false
  | .reachedTimeout _ => true

/-- How the loop over the replacements ends: with an early return, or with the replacements that are waited for. -/
inductive Wait where
  | returned (error : CommandError)
  | waited (names : List String)

def Wait.add (name : String) : Wait → Wait
  | .returned error => .returned error
  | .waited names => .waited (name :: names)

/-- The loop over the replacements from position `i` on, with what it learns about them and what it was told. -/
def wait (a : Attempt) : Nat → List Replacement → List Replacement × List (Nat × GetResult) × Wait
  | _, [] => ([], [], .waited [])
  | i, r :: rest =>
    let (rest', told, result) := wait a (i + 1) rest
    if r.initialized then (r :: rest', told, result)
    else
      match a.get i with
      | .found true => ({ r with initialized := true } :: rest', (i, .found true) :: told, result)
      | .found false => (r :: rest', (i, .found false) :: told, result.add r.name)
      | .notFound =>
        if a.nodeClaimExists i then (r :: rest', (i, .notFound) :: told, result.add r.name)
        else (r :: rest, [(i, .notFound)], .returned (.replacementDeleted r.name))
      | .failed => (r :: rest', (i, .failed) :: told, result.add r.name)

/-- The calls for the candidates from position `i` on: the NodeClaims whose deletion was asked for, and those for
which something failed. A deadline that cannot be stamped keeps the NodeClaim from being deleted. -/
def terminate (a : Attempt) : Nat → List Candidate → List String × List String
  | _, [] => ([], [])
  | i, c :: rest =>
    let (deleted, failed) := terminate a (i + 1) rest
    if c.terminationGracePeriod.isSome && !a.stamp i then (deleted, c.nodeClaim :: failed)
    else
      match a.delete i with
      | .failed => (c.nodeClaim :: deleted, c.nodeClaim :: failed)
      | _ => (c.nodeClaim :: deleted, failed)

def minRetryDuration : Int := 10 * 60 * 10 ^ 9
def maxRetryDuration : Int := 60 * 60 * 10 ^ 9
def retryDurationScale : Int := 80 * 10 ^ 6

def State.getMaxRetryDuration (q : State) : Int :=
  max minRetryDuration (min (retryDurationScale * q.providerIDToCommand.entries.length) maxRetryDuration)

/-- What `waitOrTerminate` does before its deferred check: the command with what was learned about its replacements,
what it asked for, in this order, and the error it returns. -/
def waitOrTerminateBody (id : Nat) (a : Attempt) (cmd : Command) : Command × List Effect × Option CommandError :=
  let (replacements, told, result) := wait a 0 cmd.replacements
  let cmd := { cmd with replacements }
  let gets := told.map fun (i, answer) => Effect.get id i answer
  match result with
  | .returned error => (cmd, gets, some error)
  | .waited (name :: names) => (cmd, gets, some (.waitingForInitialization (name :: names)))
  | .waited [] =>
    let (deleted, failed) := terminate a 0 cmd.candidates
    (cmd, gets ++ deleted.map (Effect.delete id), if failed.isEmpty then none else some (.terminating failed))

/-- The deferred check of `waitOrTerminate`: once the time is over, any result is replaced by a timeout, the absence
of an error too. -/
def checkTimeout (retryDuration : Int) (cmd : Command) (now : Int) (error : Option CommandError) : Option CommandError :=
  if now - cmd.creationTimestamp > retryDuration then some (.reachedTimeout error) else error

/-- `CompleteCommand`: a command that did not succeed has its candidates unmarked. -/
def State.completeCommand (q : State) (cmd : Command) : State :=
  { q with
    nodes := if cmd.succeeded then q.nodes else unmarkForDeletion q.nodes cmd.providerIDs
    providerIDToCommand := q.providerIDToCommand.deleteAll cmd.providerIDs }

/-- What `Reconcile` does with the result of `waitOrTerminate`. -/
def State.conclude (q : State) (id : Nat) (cmd : Command) : Option CommandError → State
  | some error =>
    if error.isUnrecoverable then
      { q with
        log := q.log ++ cmd.providerIDs.map (Effect.untaint id) ++ cmd.providerIDs.map (Effect.clearCondition id) }.completeCommand cmd
    else q
  | none =>
    let cmd := { cmd with succeeded := true }
    { q with commands := q.commands.insert id cmd }.completeCommand cmd

/-- `Reconcile` for a NodeClaim with the given provider ID. -/
def State.reconcile (q : State) (providerID : String) (a : Attempt) : State :=
  match q.providerIDToCommand.lookup providerID with
  | none => q
  | some id =>
    match q.commands.lookup id with
    | none => q
    | some cmd =>
      let retryDuration := q.getMaxRetryDuration
      let (cmd, asked, error) := waitOrTerminateBody id a cmd
      let q := { q with commands := q.commands.insert id cmd, log := q.log ++ asked }
      q.conclude id cmd (checkTimeout retryDuration cmd a.now error)

end Karpenter.Disruption.Queue
