import Karpenter.Disruption.Queue

/-! A disruption whose candidates have all been deleted is finished, and its command succeeds unless the time for the
command is over: the deferred check then turns the finished disruption into a failure and rolls it back. Nothing is
deleted before the API server has said that the replacements are initialized. -/
namespace Karpenter.Disruption.Queue

open Go (Map)

/-- Every provider ID of the queue belongs to a candidate of its command, and no command of the queue has succeeded
yet. -/
def State.Valid (q : State) : Prop :=
  ∀ providerID id, q.providerIDToCommand.lookup providerID = some id →
    ∃ cmd, q.commands.lookup id = some cmd ∧ providerID ∈ cmd.providerIDs ∧ cmd.succeeded = false

def State.run (q : State) (calls : List (String × Attempt)) : State :=
  calls.foldl (fun q call => q.reconcile call.1 call.2) q

/-- All replacements of the command are initialized by the end of the attempt. -/
def Attempt.Ready (a : Attempt) (cmd : Command) : Prop :=
  ∀ i r, cmd.replacements[i]? = some r → r.initialized = true ∨ a.get i = .found true

/-- The delete call of every candidate is made, and succeeds or finds the NodeClaim gone. -/
def Attempt.Deletes (a : Attempt) (cmd : Command) : Prop :=
  ∀ i c, cmd.candidates[i]? = some c → (c.terminationGracePeriod = none ∨ a.stamp i = true) ∧ a.delete i ≠ .failed

/-- The command left the queue as succeeded: no candidate was untainted, had its condition cleared or was unmarked. -/
structure Succeeds (q : State) (id : Nat) (q' : State) : Prop where
  succeeded : ∃ cmd, q'.commands.lookup id = some cmd ∧ cmd.succeeded = true
  completed : ∀ providerID, q'.providerIDToCommand.lookup providerID ≠ some id
  log : ∃ asked, q'.log = q.log ++ asked ∧ ∀ effect ∈ asked,
    (∃ i answer, effect = .get id i answer) ∨ ∃ nodeClaim, effect = .delete id nodeClaim
  nodes : q'.nodes = q.nodes

section

variable {a : Attempt} {q : State} {id : Nat} {cmd : Command}

theorem wait_candidates (id : Nat) (a : Attempt) (cmd : Command) :
    (waitOrTerminateBody id a cmd).1.candidates = cmd.candidates ∧
      (waitOrTerminateBody id a cmd).1.creationTimestamp = cmd.creationTimestamp ∧
      (waitOrTerminateBody id a cmd).1.succeeded = cmd.succeeded := by
  rw [waitOrTerminateBody]
  split
  split <;> exact ⟨rfl, rfl, rfl⟩

theorem wait_of_ready (ready : ∀ k r, replacements[k]? = some r → r.initialized = true ∨ a.get (i + k) = .found true) :
    (wait a i replacements).2.2 = .waited [] := by
  induction replacements generalizing i with
  | nil => rfl
  | cons r rest ih =>
    have others : (wait a (i + 1) rest).2.2 = .waited [] := by
      apply ih
      intro k r' at_
      have later := ready (k + 1) r' at_
      rwa [show i + 1 + k = i + (k + 1) from by omega]
    obtain initialized | found := ready 0 r rfl
    · simp only [wait, initialized, if_true]
      exact others
    · rw [Nat.add_zero] at found
      rw [wait]
      dsimp only
      rw [found]
      split <;> exact others

theorem terminate_of_deletes {candidates : List Candidate} {i : Nat} (deletes : ∀ k c, candidates[k]? = some c →
      (c.terminationGracePeriod = none ∨ a.stamp (i + k) = true) ∧ a.delete (i + k) ≠ .failed) :
    (terminate a i candidates).2 = [] := by
  induction candidates generalizing i with
  | nil => rfl
  | cons c rest ih =>
    have others : (terminate a (i + 1) rest).2 = [] := by
      apply ih
      intro k c' at_
      have later := deletes (k + 1) c' at_
      rwa [show i + 1 + k = i + (k + 1) from by omega]
    obtain ⟨stamped, deleted⟩ := deletes 0 c rfl
    rw [Nat.add_zero] at stamped deleted
    have goesOn : (c.terminationGracePeriod.isSome && !a.stamp i) = false := by
      obtain unbounded | stamped := stamped
      · simp [unbounded]
      · simp [stamped]
    simp only [terminate, goesOn, Bool.false_eq_true, if_false]
    exact others

/-- The `Get` calls of an attempt. -/
def Attempt.gets (id : Nat) (a : Attempt) (cmd : Command) : List Effect :=
  (wait a 0 cmd.replacements).2.1.map fun (i, answer) => Effect.get id i answer

theorem get_of_mem_gets (member : effect ∈ a.gets id cmd) : ∃ i answer, effect = .get id i answer := by
  obtain ⟨⟨i, answer⟩, -, rfl⟩ := List.mem_map.mp member
  exact ⟨i, answer, rfl⟩

/-- An attempt looks at the replacements, and goes on to delete only if none of them is waited for. -/
theorem body_asks (id : Nat) (a : Attempt) (cmd : Command) : ∃ deleted : List String,
    (waitOrTerminateBody id a cmd).2.1 = a.gets id cmd ++ deleted.map (Effect.delete id) ∧
      (deleted ≠ [] → (wait a 0 cmd.replacements).2.2 = .waited []) := by
  simp only [waitOrTerminateBody, Attempt.gets]
  split
  · exact ⟨[], (List.append_nil _).symm, by simp⟩
  · exact ⟨[], (List.append_nil _).symm, by simp⟩
  · rename_i waited
    exact ⟨_, rfl, fun _ => waited⟩

/-- An attempt that finishes the disruption returns no error of its own. -/
theorem body_of_finished (ready : a.Ready cmd) (deletes : a.Deletes cmd) :
    (waitOrTerminateBody id a cmd).2.2 = none := by
  have waited : (wait a 0 cmd.replacements).2.2 = .waited [] :=
    wait_of_ready fun k r at_ => by rw [Nat.zero_add]; exact ready k r at_
  have terminated : (terminate a 0 cmd.candidates).2 = [] :=
    terminate_of_deletes fun k c at_ => by rw [Nat.zero_add]; exact deletes k c at_
  rw [waitOrTerminateBody]
  dsimp only
  rw [waited]
  rw [terminated]
  rfl

/-- The state before `Reconcile` looks at the result of `waitOrTerminate`. -/
def State.attempted (q : State) (id : Nat) (a : Attempt) (cmd : Command) : State :=
  { q with
    commands := q.commands.insert id (waitOrTerminateBody id a cmd).1
    log := q.log ++ (waitOrTerminateBody id a cmd).2.1 }

theorem lookup_attempted (q : State) (id : Nat) (a : Attempt) (cmd : Command) :
    (q.attempted id a cmd).commands.lookup id = some (waitOrTerminateBody id a cmd).1 := by
  simp [State.attempted]

theorem reconcile_of_mapped (mapped : q.providerIDToCommand.lookup providerID = some id)
    (found : q.commands.lookup id = some cmd) :
    q.reconcile providerID a = (q.attempted id a cmd).conclude id (waitOrTerminateBody id a cmd).1
      (checkTimeout q.getMaxRetryDuration cmd a.now (waitOrTerminateBody id a cmd).2.2) := by
  have created := (wait_candidates id a cmd).2.1
  rw [State.reconcile, mapped]
  dsimp only
  rw [found]
  dsimp only
  rw [checkTimeout, checkTimeout, created]
  rfl

/-- A command leaves the queue with all provider IDs of its candidates, or it stays with all of them. -/
theorem lookup_conclude (q : State) (id : Nat) (cmd : Command) (error : Option CommandError) :
    (q.conclude id cmd error).providerIDToCommand = q.providerIDToCommand ∧
        (q.conclude id cmd error).commands = q.commands ∨
      (q.conclude id cmd error).providerIDToCommand = q.providerIDToCommand.deleteAll cmd.providerIDs ∧
        ∀ other, other ≠ id → (q.conclude id cmd error).commands.lookup other = q.commands.lookup other := by
  cases error with
  | none =>
    right
    refine ⟨rfl, fun other different => ?_⟩
    show (q.commands.insert id _).lookup other = _
    rw [Map.lookup_insert_eq, if_neg different]
  | some error =>
    rw [State.conclude]
    split
    · exact .inr ⟨rfl, fun _ _ => rfl⟩
    · exact .inl ⟨rfl, rfl⟩

theorem State.Valid.attempted (valid : q.Valid) (found : q.commands.lookup id = some cmd) (a : Attempt) :
    (q.attempted id a cmd).Valid := by
  intro providerID other mapped
  obtain ⟨cmd', found', member, running⟩ := valid providerID other mapped
  by_cases same : other = id
  · obtain rfl := Option.some.inj (found.symm.trans (same ▸ found'))
    refine ⟨(waitOrTerminateBody id a cmd).1, ?_, ?_, ?_⟩
    · exact same ▸ lookup_attempted q id a cmd
    · rw [Command.providerIDs, (wait_candidates id a cmd).1]
      exact member
    · rw [(wait_candidates id a cmd).2.2]
      exact running
  · refine ⟨cmd', ?_, member, running⟩
    simp only [State.attempted]
    rw [Map.lookup_insert_eq, if_neg same]
    exact found'

/-- Whether the command stays or leaves, what is left in the queue is valid. -/
theorem State.Valid.conclude (valid : q.Valid) (found : q.commands.lookup id = some cmd) (error : Option CommandError) :
    (q.conclude id cmd error).Valid := by
  intro providerID other mapped
  obtain ⟨ids, commands⟩ | ⟨ids, commands⟩ := lookup_conclude q id cmd error
  · rw [ids] at mapped
    rw [commands]
    exact valid providerID other mapped
  · rw [ids, Map.lookup_deleteAll] at mapped
    split at mapped
    · cases mapped
    · rename_i absent
      obtain ⟨cmd', found', member, running⟩ := valid providerID other mapped
      have different : other ≠ id := by
        rintro rfl
        obtain rfl := Option.some.inj (found.symm.trans found')
        exact absent member
      exact ⟨cmd', by rw [commands other different, found'], member, running⟩

theorem State.Valid.reconcile (valid : q.Valid) (providerID : String) (a : Attempt) :
    (q.reconcile providerID a).Valid := by
  cases mapped : q.providerIDToCommand.lookup providerID with
  | none =>
    rw [State.reconcile, mapped]
    exact valid
  | some id =>
    obtain ⟨cmd, found, -, -⟩ := valid providerID id mapped
    rw [reconcile_of_mapped mapped found]
    exact (valid.attempted found a).conclude (lookup_attempted q id a cmd) _

theorem State.Valid.run (valid : q.Valid) (calls : List (String × Attempt)) : (q.run calls).Valid := by
  induction calls generalizing q with
  | nil => exact valid
  | cons call calls ih => exact ih (valid.reconcile call.1 call.2)

theorem lookup_completed (valid : q.Valid) (found : q.commands.lookup id = some cmd) (providerID : String) :
    (q.providerIDToCommand.deleteAll cmd.providerIDs).lookup providerID ≠ some id := by
  intro mapped
  rw [Map.lookup_deleteAll] at mapped
  split at mapped
  · cases mapped
  · rename_i absent
    obtain ⟨cmd', found', member, -⟩ := valid providerID id mapped
    obtain rfl := Option.some.inj (found.symm.trans found')
    exact absent member

theorem succeeds_of_no_error (valid : q.Valid) (found : q.commands.lookup id = some cmd) (a : Attempt) :
    Succeeds q id ((q.attempted id a cmd).conclude id (waitOrTerminateBody id a cmd).1 none) where
  succeeded := ⟨{ (waitOrTerminateBody id a cmd).1 with succeeded := true }, by simp [State.conclude, State.completeCommand],
    rfl⟩
  completed := by
    intro providerID
    have gone := lookup_completed (valid.attempted found a) (lookup_attempted q id a cmd) providerID
    exact gone
  log := by
    refine ⟨(waitOrTerminateBody id a cmd).2.1, rfl, fun effect member => ?_⟩
    obtain ⟨deleted, asked, -⟩ := body_asks id a cmd
    rw [asked] at member
    refine (List.mem_append.mp member).imp get_of_mem_gets fun member => ?_
    obtain ⟨nodeClaim, -, rfl⟩ := List.mem_map.mp member
    exact ⟨nodeClaim, rfl⟩
  nodes := by simp [State.conclude, State.completeCommand, State.attempted]

/-- After a timeout the command is kept as not succeeded. -/
theorem not_succeeds_of_timeout (running : cmd.succeeded = false) (a : Attempt) (cause : Option CommandError) :
    ¬ Succeeds q id ((q.attempted id a cmd).conclude id (waitOrTerminateBody id a cmd).1 (some (.reachedTimeout cause))) := by
  intro succeeds
  obtain ⟨cmd', found', succeeded⟩ := succeeds.succeeded
  obtain rfl := Option.some.inj ((lookup_attempted q id a cmd).symm.trans found')
  rw [(wait_candidates id a cmd).2.2, running] at succeeded
  cases succeeded

/-- In every run of attempts, one that finishes the disruption completes the command as succeeded exactly if the time
for the command is not over when the attempt ends. -/
theorem finished_disruption_succeeds_iff (start : State) (valid : start.Valid) (calls : List (String × Attempt))
    (providerID : String) (a : Attempt) (id : Nat) (cmd : Command)
    (mapped : (start.run calls).providerIDToCommand.lookup providerID = some id)
    (found : (start.run calls).commands.lookup id = some cmd) (ready : a.Ready cmd) (deletes : a.Deletes cmd) :
    Succeeds (start.run calls) id ((start.run calls).reconcile providerID a) ↔
      a.now - cmd.creationTimestamp ≤ (start.run calls).getMaxRetryDuration := by
  have validNow := valid.run calls
  obtain ⟨cmd', found', -, running⟩ := validNow providerID id mapped
  obtain rfl := Option.some.inj (found.symm.trans found')
  rw [reconcile_of_mapped mapped found, body_of_finished ready deletes, checkTimeout]
  split
  · rename_i late
    constructor
    · intro succeeds
      exact absurd succeeds (not_succeeds_of_timeout running a none)
    · intro inTime
      omega
  · rename_i inTime
    constructor
    · intro _
      omega
    · intro _
      exact succeeds_of_no_error validNow found a

/-- One command that deletes one node. -/
def oneCommand (replacements : List Replacement) : State where
  providerIDToCommand := Map.ofList [("aws:///i-1", 0)]
  commands := Map.ofList [(0, { candidates := [{ providerID := "aws:///i-1", nodeClaim := "default-1" }], replacements })]
  nodes := Map.ofList [("aws:///i-1", true)]

/-- Every call succeeds. -/
def smoothAttempt (now : Int) : Attempt where
  get _ := .found true
  nodeClaimExists _ := true
  stamp _ := true
  delete _ := .deleted
  now := now

theorem oneCommand_valid (replacements : List Replacement) : (oneCommand replacements).Valid := by
  intro providerID id mapped
  obtain ⟨rfl, rfl⟩ : providerID = "aws:///i-1" ∧ id = 0 := by simpa using Map.mem_of_lookup_ofList mapped
  exact ⟨{ candidates := [{ providerID := "aws:///i-1", nodeClaim := "default-1" }], replacements }, rfl,
    List.mem_singleton_self _, rfl⟩

/-- The replacement is initialized at the second attempt. -/
theorem finished_disruption_succeeds_in_time :
    let q := (oneCommand [{ name := "default-2" }]).run [("aws:///i-1", { smoothAttempt 0 with get := fun _ => .found false })]
    q.log = [.get 0 0 (.found false)] ∧ Succeeds q 0 (q.reconcile "aws:///i-1" (smoothAttempt (5 * 60 * 10 ^ 9))) := by
  refine ⟨by decide +kernel, ?_⟩
  refine (finished_disruption_succeeds_iff _ (oneCommand_valid _) _ "aws:///i-1" _ 0
    { candidates := [{ providerID := "aws:///i-1", nodeClaim := "default-1" }], replacements := [{ name := "default-2" }] }
    (by decide +kernel) (by decide +kernel) ?_ ?_).mpr (by decide +kernel)
  · intro i r at_
    exact .inr rfl
  · intro i c at_
    exact ⟨.inr rfl, DeleteResult.noConfusion⟩

/-- Eleven minutes after the command was created the delete call succeeds, and the node is untainted and unmarked. -/
theorem finished_disruption_late : let q := (oneCommand []).reconcile "aws:///i-1" (smoothAttempt (11 * 60 * 10 ^ 9))
    q.log = [.delete 0 "default-1", .untaint 0 "aws:///i-1", .clearCondition 0 "aws:///i-1"] ∧
      q.nodes.lookup "aws:///i-1" = some false ∧ (q.commands.lookup 0).map (·.succeeded) = some false := by
  decide +kernel

/-- A replacement was initialized when the run started, or the API server has said so by now. -/
def Known (start : State) (log : List Effect) (id i : Nat) : Prop :=
  (∃ cmd r, start.commands.lookup id = some cmd ∧ cmd.replacements[i]? = some r ∧ r.initialized = true) ∨
    .get id i (.found true) ∈ log

/-- A command has the replacements it had when the run started, and it is known of those that are marked so that they
are initialized. -/
def Command.Follows (start : State) (log : List Effect) (id : Nat) (cmd : Command) : Prop :=
  ∃ first, start.commands.lookup id = some first ∧ first.replacements.length = cmd.replacements.length ∧
    ∀ i r, cmd.replacements[i]? = some r → r.initialized = true → Known start log id i

/-- Every deletion comes after it is known of all replacements of its command that they are initialized. -/
structure State.DeletesReplaced (start q : State) : Prop where
  commands : ∀ id cmd, q.commands.lookup id = some cmd → cmd.Follows start q.log id
  order : ∀ before id nodeClaim after, q.log = before ++ .delete id nodeClaim :: after →
    ∃ cmd, start.commands.lookup id = some cmd ∧ ∀ i < cmd.replacements.length, Known start before id i

theorem Known.append (known : Known start log id i) (more : List Effect) : Known start (log ++ more) id i :=
  known.imp_right (List.mem_append_left more)

theorem Command.Follows.append (follows : cmd.Follows start log id) (more : List Effect) :
    cmd.Follows start (log ++ more) id := by
  obtain ⟨first, started, length, flags⟩ := follows
  exact ⟨first, started, length, fun i r at_ flag => (flags i r at_ flag).append more⟩

/-- An element of two lists in a row is in the first, or the first is before it. -/
theorem split_append {first second before after : List α} {x : α} (split : first ++ second = before ++ x :: after) :
    (∃ rest, first = before ++ x :: rest) ∨ ∃ more, before = first ++ more ∧ second = more ++ x :: after := by
  obtain ⟨more, eq, rest⟩ | ⟨rest, eq, tail⟩ := List.append_eq_append_iff.mp split
  · exact .inr ⟨more, eq, rest⟩
  · cases rest with
    | nil => exact .inr ⟨[], by simpa using eq.symm, by simpa using tail.symm⟩
    | cons y rest =>
      obtain ⟨rfl, -⟩ := List.cons.inj tail
      exact .inl ⟨rest, eq⟩

theorem length_wait (a : Attempt) (i : Nat) (replacements : List Replacement) :
    (wait a i replacements).1.length = replacements.length := by
  fun_induction wait a i replacements <;> simp_all

theorem initialized_of_waited (waited : (wait a i replacements).2.2 = .waited []) :
    ∀ r ∈ (wait a i replacements).1, r.initialized = true := by
  have added (name : String) (result : Wait) : result.add name ≠ .waited [] := by cases result <;> simp [Wait.add]
  fun_induction wait a i replacements <;> simp_all

/-- A replacement counts as initialized if it did before or the API server has just said so. -/
theorem told_of_initialized (at_ : (wait a i replacements).1[k]? = some r) (initialized : r.initialized = true) :
    (∃ r₀, replacements[k]? = some r₀ ∧ r₀.initialized = true) ∨
      (i + k, .found true) ∈ (wait a i replacements).2.1 := by
  induction replacements generalizing i k with
  | nil => cases at_
  | cons first rest ih =>
    rw [wait] at at_ ⊢
    dsimp only at at_ ⊢
    have later {n : Nat} (at_ : (wait a (i + 1) rest).1[n]? = some r) := by
      have told := ih at_
      rw [show i + 1 + n = i + (n + 1) from by omega] at told
      exact told
    cases k with
    | zero =>
      revert at_
      split
      · exact fun _ => .inl ⟨first, rfl, by assumption⟩
      · split <;> grind
    | succ n => grind

theorem State.DeletesReplaced.attempted (kept : DeletesReplaced start q) (found : q.commands.lookup id = some cmd) :
    DeletesReplaced start (q.attempted id a cmd) := by
  obtain ⟨first, started, length, flags⟩ := kept.commands id cmd found
  have learned (i : Nat) (r : Replacement) (at_ : (wait a 0 cmd.replacements).1[i]? = some r)
      (initialized : r.initialized = true) : Known start (q.log ++ a.gets id cmd) id i := by
    obtain ⟨r₀, before, flag⟩ | told := told_of_initialized at_ initialized
    · exact (flags i r₀ before flag).append _
    · rw [Nat.zero_add] at told
      exact .inr (List.mem_append_right _ (List.mem_map_of_mem told))
  have own : (waitOrTerminateBody id a cmd).1.Follows start (q.log ++ a.gets id cmd) id := by
    have replacements : (waitOrTerminateBody id a cmd).1.replacements = (wait a 0 cmd.replacements).1 := by
      simp only [waitOrTerminateBody]
      split <;> rfl
    rw [Command.Follows, replacements, length_wait]
    exact ⟨first, started, length, learned⟩
  obtain ⟨deleted, asked, cause⟩ := body_asks id a cmd
  refine ⟨fun other cmd' found' => ?_, fun before other nodeClaim after split => ?_⟩
  · simp only [State.attempted, Map.lookup_insert_eq] at found' ⊢
    split at found'
    · rename_i same
      cases found'
      rw [same, asked, ← List.append_assoc]
      exact own.append _
    · exact (kept.commands other cmd' found').append _
  · simp only [State.attempted, asked, ← List.append_assoc] at split
    obtain ⟨rest, inFirst⟩ | ⟨more, rfl, inDeletes⟩ := split_append split
    · obtain ⟨rest', old⟩ | ⟨more, -, inGets⟩ := split_append inFirst
      · exact kept.order before other nodeClaim rest' old
      · obtain ⟨i, answer, same⟩ := get_of_mem_gets (inGets ▸ List.mem_append_right _ List.mem_cons_self)
        cases same
    · have member : .delete other nodeClaim ∈ deleted.map (Effect.delete id) := by simp [inDeletes]
      simp only [List.mem_map, Effect.delete.injEq] at member
      obtain ⟨_, listed, rfl, -⟩ := member
      have waited := cause (List.ne_nil_of_mem listed)
      refine ⟨first, started, fun i small => ?_⟩
      rw [length, ← length_wait a 0] at small
      have at_ := List.getElem?_eq_getElem small
      exact (learned i _ at_ (initialized_of_waited waited _ (List.mem_of_getElem? at_))).append _

theorem State.DeletesReplaced.conclude (kept : DeletesReplaced start q) (found : q.commands.lookup id = some cmd)
    (error : Option CommandError) : DeletesReplaced start (q.conclude id cmd error) := by
  rw [State.conclude.eq_def]
  split
  · split
    · simp only [State.completeCommand, List.append_assoc]
      refine ⟨fun other cmd' found' => (kept.commands other cmd' found').append _,
        fun before other nodeClaim after split => ?_⟩
      obtain ⟨rest, old⟩ | ⟨more, -, new⟩ := split_append split
      · exact kept.order before other nodeClaim rest old
      · have member : Effect.delete other nodeClaim ∈ more ++ .delete other nodeClaim :: after := by simp
        rw [← new] at member
        simp at member
    · exact kept
  · refine ⟨fun other cmd' found' => ?_, kept.order⟩
    simp only [State.completeCommand, Map.lookup_insert_eq] at found'
    split at found'
    · rename_i same
      cases found'
      exact same ▸ kept.commands id cmd found
    · exact kept.commands other cmd' found'

/-- Whatever the API server answers in a run, it has said of every replacement that it is initialized before the first
candidate of the command is deleted, unless that was known when the run started. -/
theorem deletes_replaced (start : State) (calls : List (String × Attempt)) :
    State.DeletesReplaced start ({ start with log := [] }.run calls) := by
  refine List.foldlRecOn calls _ ⟨fun id cmd found => ⟨cmd, found, rfl, fun i r at_ flag => ?_⟩,
    fun before id nodeClaim after split => ?_⟩ fun q kept call _ => ?_
  · exact .inl ⟨cmd, r, found, at_, flag⟩
  · simp at split
  · rw [State.reconcile]
    split
    · exact kept
    · split
      · exact kept
      · rename_i id _ _ cmd found
        exact (kept.attempted found).conclude (lookup_attempted q id call.2 cmd) _

end

end Karpenter.Disruption.Queue
