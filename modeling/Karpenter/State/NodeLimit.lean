import Karpenter.State.NodePoolState

/-! The node limit of a static NodePool over whole runs. A world is the tracked state with what it stands for: the
NodeClaims that exist, the grants that are not used yet, and the grants that are used and still held. The sets and
the counter cover all of that until a `cleanup` drops the entries of the NodePool too early, and as long as they
do, the limit is kept. -/
namespace Karpenter.State.NodeLimit

structure World where
  state : NodePoolState
  /-- The NodeClaims of the NodePool that exist. -/
  existing : Finset String := ∅
  /-- Granted reservations that are neither turned into a NodeClaim nor abandoned. -/
  outstanding : Nat := 0
  /-- The NodeClaims that were created against a grant and have not been marked active since. -/
  created : List String := []
  /-- Grants that may be released: abandoned ones and those whose NodeClaim has been marked active. -/
  releasable : Nat := 0

inductive Event where
  | reserve (wanted : Int)
  | release (count : Nat)
  | create (ncName : String)
  | abandon
  | mark (phase : Phase) (ncName : String)
  | update (nodeClaim : NodeClaim) (markedForDeletion : Bool)
  | disappear (ncName : String)
  | cleanup (ncName : String)

namespace World

/-- The grants of a NodeClaim that is marked active may be released. -/
def moved (w : World) (phase : Phase) (ncName : String) (state : NodePoolState) : World :=
  if phase = .active then
    { w with
      state, created := w.created.filter (· ≠ ncName), releasable := w.releasable + w.created.count ncName }
  else { w with state }

/-- One operation on the NodePool, or one change of what exists. A run that breaks the protocol has no result: a
NodeClaim is created against an unused grant, a grant is released only if it may be, and `cleanup` is called for a
NodeClaim that does not exist. -/
def step (np : String) (limit : Int) (w : World) : Event → Option World
  | .reserve wanted =>
    let (state, granted) := w.state.reserveNodeCount np limit wanted
    some { w with state, outstanding := w.outstanding + granted.toNat }
  | .release count =>
    if count ≤ w.releasable then
      some { w with state := w.state.releaseNodeCount np count, releasable := w.releasable - count }
    else none
  | .create ncName =>
    if 0 < w.outstanding ∧ ncName ∉ w.existing then
      some { w with
        existing := insert ncName w.existing, outstanding := w.outstanding - 1, created := ncName :: w.created }
    else none
  | .abandon =>
    if 0 < w.outstanding then
      some { w with outstanding := w.outstanding - 1, releasable := w.releasable + 1 }
    else none
  | .mark phase ncName => some (w.moved phase ncName (w.state.mark phase np ncName))
  | .update nodeClaim markedForDeletion =>
    if label nodeClaim.labels nodePoolLabelKey = np then
      some (w.moved (NodePoolState.updatedPhase markedForDeletion) nodeClaim.name
        (w.state.updateNodeClaim nodeClaim markedForDeletion))
    else none
  | .disappear ncName => some { w with existing := w.existing.erase ncName }
  | .cleanup ncName => if ncName ∉ w.existing then some { w with state := w.state.cleanup ncName } else none

def run (np : String) (limit : Int) (w : World) (events : List Event) : Option World :=
  events.foldlM (step np limit) w

/-- What counts against the limit: the NodeClaims that exist and the grants that are not used yet. -/
def load (w : World) : Nat := w.existing.card + w.outstanding

/-- The granted reservations that have not been released. -/
def held (w : World) : Nat := w.outstanding + w.created.length + w.releasable

/-- Everything that exists is in the sets or stands for a held grant, and the counter has all grants that are held. -/
structure Covered (np : String) (limit : Int) (w : World) : Prop where
  existing : ∀ name ∈ w.existing, name ∈ w.created ∨ name ∈ (w.state.claims np).tracked
  counter : w.held ≤ w.state.reserved np
  limited : w.state.reserved np ≤ limit

/-- What the state has to be like before an event. No negative number of nodes is reserved, and the sets are no
larger than an integer of the machine. When the entries of the NodePool are dropped, no NodeClaim of it exists and
no grant is held. -/
def Careful (np : String) (w : World) : Event → Prop
  | .reserve wanted => 0 ≤ wanted ∧ (w.state.claims np).count ≤ Go.maxInt
  | .cleanup ncName => w.state.Drops np ncName → w.existing = ∅ ∧ w.held = 0
  | _ => True

section

variable {np : String} {limit : Int} {w v : World}

theorem load_moved (phase : Phase) (ncName : String) (state : NodePoolState) :
    (w.moved phase ncName state).load = w.load := by
  rw [moved]
  split <;> rfl

theorem held_moved (phase : Phase) (ncName : String) (state : NodePoolState) :
    (w.moved phase ncName state).held = w.held := by
  rw [moved]
  split
  · have parts := List.length_eq_countP_add_countP (· == ncName) (l := w.created)
    have kept : (w.created.filter (· ≠ ncName)).length = w.created.countP (fun name => ¬ (name == ncName) = true) := by
      rw [List.countP_eq_length_filter]
      simp
    simp only [held, kept, List.count_eq_countP]
    omega
  · rfl

theorem Covered.load_le (covered : w.Covered np limit) :
    (w.load : Int) ≤ (w.state.claims np).count + w.state.reserved np := by
  have inside : w.existing ⊆ w.created.toFinset ∪ (w.state.claims np).tracked := fun name member =>
    Finset.mem_union.mpr ((covered.existing name member).imp_left List.mem_toFinset.mpr)
  have size := (Finset.card_le_card inside).trans (Finset.card_union_le _ _)
  have created := w.created.toFinset_card_le
  have tracked := (w.state.claims np).card_tracked_le
  have counted := covered.counter
  simp only [load, held] at *
  omega

/-- What is left of the limit is computed exactly while the sets are small. -/
theorem Covered.remainingLimit_eq (covered : w.Covered np limit) (machine : limit ≤ Go.maxInt)
    (small : (w.state.claims np).count ≤ Go.maxInt) :
    w.state.remainingLimit np limit = limit - (w.state.claims np).count - w.state.reserved np := by
  obtain ⟨-, counted, limited⟩ := covered
  rw [Go.maxInt] at *
  have first : Go.wrap (limit - (w.state.claims np).count) = limit - (w.state.claims np).count :=
    Go.wrap_of_range (by rw [Go.minInt]; omega) (by rw [Go.maxInt]; omega)
  rw [NodePoolState.remainingLimit, first]
  exact Go.wrap_of_range (by rw [Go.minInt]; omega) (by rw [Go.maxInt]; omega)

/-- A mark keeps everything covered: what is marked active is in the sets. -/
theorem Covered.moved (covered : w.Covered np limit) {state : NodePoolState} (phase : Phase) (ncName : String)
    (claims : state.claims np = (w.state.claims np).move phase ncName)
    (reserved : state.reserved np = w.state.reserved np) : (w.moved phase ncName state).Covered np limit := by
  have sameState : (w.moved phase ncName state).state = state := by rw [World.moved]; split <;> rfl
  refine ⟨fun name member => ?_, ?_, ?_⟩
  · rw [sameState, claims, NodeClaimState.mem_tracked_move]
    have sameExisting : (w.moved phase ncName state).existing = w.existing := by rw [World.moved]; split <;> rfl
    rw [sameExisting] at member
    by_cases same : name = ncName
    · exact .inr (.inl same)
    · refine (covered.existing name member).imp (fun created => ?_) .inr
      rw [World.moved]
      split
      · exact List.mem_filter.mpr ⟨created, by simpa using same⟩
      · exact created
  · rw [held_moved, sameState, reserved]
    exact covered.counter
  · rw [sameState, reserved]
    exact covered.limited

/-- A reservation keeps everything covered and the limit kept. -/
theorem Covered.reserve (machine : limit ≤ Go.maxInt) (covered : w.Covered np limit) (within : w.load ≤ limit)
    (careful : w.Careful np (.reserve wanted)) (stepped : w.step np limit (.reserve wanted) = some v) :
    v.Covered np limit ∧ v.load ≤ limit := by
  obtain rfl : ({ w with
      state := (w.state.reserveNodeCount np limit wanted).1
      outstanding := w.outstanding + (w.state.reserveNodeCount np limit wanted).2.toNat } : World) = v :=
    Option.some.inj stepped
  obtain ⟨wanted_, small⟩ := careful
  have left := covered.remainingLimit_eq machine small
  have bound := covered.load_le
  have granted := w.state.granted_reserveNodeCount np limit wanted
  have reserved := w.state.reserved_reserveNodeCount np limit wanted
  rw [NodePoolState.grantedLimit, left] at granted reserved
  obtain ⟨existing, counted, limited⟩ := covered
  have total : (w.state.reserveNodeCount np limit wanted).1.reserved np =
        w.state.reserved np + (w.state.reserveNodeCount np limit wanted).2 ∧
      0 ≤ (w.state.reserveNodeCount np limit wanted).2 ∧
      ((w.state.reserveNodeCount np limit wanted).2 = 0 ∨ (w.state.reserveNodeCount np limit wanted).2 ≤
        limit - (w.state.claims np).count - w.state.reserved np) := by
    rw [granted, reserved]
    rw [Go.maxInt] at *
    split
    · omega
    · rw [Go.wrap_of_range (by rw [Go.minInt]; split <;> omega) (by rw [Go.maxInt]; split <;> omega)]
      split <;> omega
  refine ⟨⟨fun name member => ?_, ?_, ?_⟩, ?_⟩
  · rw [NodePoolState.claims_reserveNodeCount]
    exact existing name member
  · simp only [held] at *
    omega
  · show (w.state.reserveNodeCount np limit wanted).1.reserved np ≤ limit
    omega
  · simp only [load] at *
    omega

theorem Covered.step (named : np ≠ "") (machine : limit ≤ Go.maxInt) (covered : w.Covered np limit)
    (within : w.load ≤ limit) (event : Event) (careful : w.Careful np event)
    (stepped : w.step np limit event = some v) : v.Covered np limit := by
  obtain ⟨existing, counted, limited⟩ := covered
  cases event with
  | reserve wanted => exact (Covered.reserve machine ⟨existing, counted, limited⟩ within careful stepped).1
  | release count =>
    obtain ⟨few, ⟨⟩⟩ := Option.ite_none_right_eq_some.mp stepped
    simp only [held] at counted
    have reserved := w.state.reserved_releaseNodeCount np count (by omega) (limited.trans machine)
    refine ⟨fun name member => ?_, ?_, ?_⟩
    · rw [NodePoolState.claims_releaseNodeCount]
      exact existing name member
    · simp only [held]
      omega
    · show (w.state.releaseNodeCount np count).reserved np ≤ limit
      omega
  | create ncName =>
    obtain ⟨⟨unused, -⟩, ⟨⟩⟩ := Option.ite_none_right_eq_some.mp stepped
    refine ⟨fun name member => ?_, ?_, limited⟩
    · rcases Finset.mem_insert.mp member with rfl | before
      · exact .inl List.mem_cons_self
      · exact (existing name before).imp_left (List.mem_cons_of_mem _)
    · simp only [held, List.length_cons] at *
      omega
  | abandon =>
    obtain ⟨unused, ⟨⟩⟩ := Option.ite_none_right_eq_some.mp stepped
    refine ⟨existing, ?_, limited⟩
    simp only [held] at *
    omega
  | mark phase ncName =>
    obtain rfl := Option.some.inj stepped
    exact Covered.moved ⟨existing, counted, limited⟩ phase ncName (NodePoolState.claims_mark ..)
      (NodePoolState.reserved_mark ..)
  | update nodeClaim markedForDeletion =>
    obtain ⟨labelled, ⟨⟩⟩ := Option.ite_none_right_eq_some.mp stepped
    obtain ⟨claims, reserved⟩ := w.state.updateNodeClaim_spec named labelled markedForDeletion
    exact Covered.moved ⟨existing, counted, limited⟩ _ _ claims reserved
  | disappear ncName =>
    obtain rfl := Option.some.inj stepped
    exact ⟨fun name member => existing name (Finset.mem_of_mem_erase member), counted, limited⟩
  | cleanup ncName =>
    obtain ⟨gone, ⟨⟩⟩ := Option.ite_none_right_eq_some.mp stepped
    rcases w.state.cleanup_cases np ncName with ⟨drops, -, reserved⟩ | ⟨claims, reserved⟩
    · obtain ⟨none_, zero⟩ := careful drops
      refine ⟨fun name member => ?_, ?_, ?_⟩
      · rw [none_] at member
        cases member
      · show (w.held : Int) ≤ (w.state.cleanup ncName).reserved np
        omega
      · show (w.state.cleanup ncName).reserved np ≤ limit
        omega
    · refine ⟨fun name member => (existing name member).imp_right fun tracked => ?_, ?_, ?_⟩
      · have other : name ≠ ncName := fun same => gone (same ▸ member)
        rcases claims with removed | same
        · rw [removed, NodeClaimState.mem_tracked_remove]
          exact ⟨other, tracked⟩
        · rw [same]
          exact tracked
      · exact reserved ▸ counted
      · exact reserved ▸ limited

/-- No event but a reservation adds to what counts against the limit. -/
theorem load_step (event : Event) (other : ∀ wanted, event ≠ .reserve wanted)
    (stepped : w.step np limit event = some v) : v.load ≤ w.load := by
  cases event with
  | reserve wanted => exact absurd rfl (other wanted)
  | release count =>
    obtain ⟨-, ⟨⟩⟩ := Option.ite_none_right_eq_some.mp stepped
    exact le_refl _
  | create ncName =>
    obtain ⟨⟨unused, fresh⟩, ⟨⟩⟩ := Option.ite_none_right_eq_some.mp stepped
    simp only [load, Finset.card_insert_of_notMem fresh]
    omega
  | abandon =>
    obtain ⟨unused, ⟨⟩⟩ := Option.ite_none_right_eq_some.mp stepped
    simp only [load]
    omega
  | mark phase ncName =>
    obtain rfl := Option.some.inj stepped
    exact (load_moved ..).le
  | update nodeClaim markedForDeletion =>
    obtain ⟨-, ⟨⟩⟩ := Option.ite_none_right_eq_some.mp stepped
    exact (load_moved ..).le
  | disappear ncName =>
    obtain rfl := Option.some.inj stepped
    have fewer := Finset.card_erase_le (s := w.existing) (a := ncName)
    simp only [load]
    omega
  | cleanup ncName =>
    obtain ⟨-, ⟨⟩⟩ := Option.ite_none_right_eq_some.mp stepped
    exact le_refl _

theorem run_concat (events : List Event) (event : Event) :
    w.run np limit (events ++ [event]) = (w.run np limit events).bind fun v => v.step np limit event := by
  simp [run, List.foldlM_append]

/-- The limit is kept all along a run that starts with everything covered and in which no `cleanup` drops the
entries of the NodePool while a NodeClaim of it exists or a grant is held. -/
theorem nodePool_within_limit (np : String) (limit : Int) (w : World) (events : List Event) (named : np ≠ "")
    (machine : limit ≤ Go.maxInt) (covered : w.Covered np limit) (start : w.load ≤ limit)
    (careful : ∀ done event rest v, events = done ++ event :: rest → w.run np limit done = some v →
      v.Careful np event) :
    ∀ done rest v, events = done ++ rest → w.run np limit done = some v → v.load ≤ limit ∧ v.Covered np limit := by
  intro done
  -- the prefix grows by one event at a time, so that what holds before the event is known
  induction done using List.reverseRecOn with
  | nil =>
    intro rest v _ ran
    obtain rfl := Option.some.inj ran
    exact ⟨start, covered⟩
  | append_singleton done event ih =>
    intro rest v split ran
    rw [run_concat] at ran
    obtain ⟨before, ranBefore, stepped⟩ := Option.bind_eq_some_iff.mp ran
    have split' : events = done ++ event :: rest := by simp [split]
    obtain ⟨within, coveredBefore⟩ := ih (event :: rest) before split' ranBefore
    have cautious := careful done event rest before split' ranBefore
    refine ⟨?_, coveredBefore.step named machine within event cautious stepped⟩
    by_cases reserves : ∃ wanted, event = .reserve wanted
    · obtain ⟨wanted, rfl⟩ := reserves
      exact (coveredBefore.reserve machine within cautious stepped).2
    · have fewer := load_step event (fun wanted same => reserves ⟨wanted, same⟩) stepped
      omega

/-- A NodeClaim of the NodePool as the API server shows it. -/
def claimNamed (name : String) : NodeClaim where
  name := name
  labels := Go.Map.ofList [(nodePoolLabelKey, "static")]

/-- One node is reserved, launched and released, and goes away again. -/
def launchedAndGone : List Event :=
  [.reserve 1, .create "static-1", .update (claimNamed "static-1") false, .release 1, .disappear "static-1"]

/-- The entries of the NodePool are dropped in the end, when there is nothing left to cover. -/
theorem nodePool_within_limit_launched :
    ∃ v, World.run "static" 2 { state := {} } (launchedAndGone ++ [.cleanup "static-1"]) = some v ∧
      v.load ≤ (2 : Int) ∧ v.Covered "static" 2 := by
  obtain ⟨v, ran⟩ := Option.isSome_iff_exists.mp (show (World.run "static" 2 { state := {} }
    (launchedAndGone ++ [.cleanup "static-1"])).isSome = true from by decide +kernel)
  refine ⟨v, ran, nodePool_within_limit "static" 2 { state := {} } _ (by decide) (by decide)
    ⟨nofun, by decide +kernel, by decide +kernel⟩ (by decide) ?_ _ [] v (List.append_nil _).symm ran⟩
  intro done event rest v split ran
  cases event with
  | reserve wanted =>
    cases done with
    | nil =>
      cases split
      cases ran
      exact ⟨by decide, by decide +kernel⟩
    | cons first others =>
      have listed : Event.reserve wanted ∈ launchedAndGone.tail ++ [.cleanup "static-1"] := by
        rw [show launchedAndGone.tail ++ _ = others ++ .reserve wanted :: rest from (List.cons.inj split).2]
        simp
      simp [launchedAndGone] at listed
  | cleanup ncName =>
    intro _
    rcases rest.eq_nil_or_concat with rfl | ⟨others, last, rfl⟩
    · obtain ⟨rfl, -⟩ := List.append_inj' split rfl
      have gone : (World.run "static" 2 { state := {} } launchedAndGone).map
          (fun w => (decide (w.existing = ∅), w.held)) = some (true, 0) := by decide +kernel
      rw [ran] at gone
      simpa using gone
    · rw [List.concat_eq_append, ← List.cons_append, ← List.append_assoc] at split
      have early := (List.append_inj' split rfl).1
      have listed : Event.cleanup ncName ∈ launchedAndGone := by simp [early]
      simp [launchedAndGone] at listed
  | _ => trivial

/-- Two nodes are reserved under a limit of two. One is launched and goes away again before the other one is created,
and the `cleanup` of its NodeClaim drops the reservation of the other. -/
def droppedReservation : List Event :=
  [.reserve 2, .create "static-1", .update (claimNamed "static-1") false, .release 1, .disappear "static-1",
    .cleanup "static-1", .reserve 2]

/-- After the run three grants are outstanding under a limit of two, and all three may be turned into NodeClaims. -/
theorem nodePool_within_limit_dropped : ((World.load { state := {} } : Nat) : Int) ≤ 2 ∧
      ((World.run "static" 2 { state := {} } droppedReservation).map World.load = some 3) ∧
      ((World.run "static" 2 { state := {} }
        (droppedReservation ++ [.create "static-2", .create "static-3", .create "static-4"])).map (·.existing.card) =
          some 3) := by
  decide +kernel

end

end World
end Karpenter.State.NodeLimit
