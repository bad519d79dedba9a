import Mathlib.Algebra.Order.Ring.Rat
import Mathlib.Tactic.Linarith
import PrivateAiWorkspace.Effects.Safe
import PrivateAiWorkspace.Python.Basic

/-!
# The GPU node group

`EksNodegroupClient.scale_nodegroup` of `clients.py` over the EKS API. The node
group keeps its sizes between the calls of the client, but anyone may change its
status. The loop of the source has no bound; here it takes at most `turns`
turns, and a run that uses them up returns nothing.
-/

namespace PrivateAiWorkspace.ModelInstaller.EksNodegroupClient

open Effects Python

/-! ## The client -/

/-- `scalingConfig`. -/
structure ScalingConfig where
  minSize : Nat
  maxSize : Nat
  desiredSize : Nat
  deriving DecidableEq, Repr

/-- The node group of an answer of `describe_nodegroup`. -/
structure Nodegroup where
  scalingConfig : ScalingConfig
  status : String
  deriving DecidableEq, Repr

/-- Calls of `scale_nodegroup`. -/
inductive EksCall where
  | describeNodegroup (clusterName nodegroupName : String)
  | updateNodegroupConfig (clusterName nodegroupName : String)
      (scalingConfig : ScalingConfig)
  | time
  | sleep (seconds : Rat)

/-- The calls with their answers. -/
def Eks : Interface where
  Call := EksCall
  Answer
    | .describeNodegroup _ _ => Nodegroup
    | .updateNodegroupConfig _ _ _ => Unit
    | .time => Rat
    | .sleep _ => Unit

/-- `eks.describe_nodegroup(...)["nodegroup"]`. -/
def describeNodegroup (cluster nodegroup : String) :
    Program Eks PyException Nodegroup :=
  .call (EksCall.describeNodegroup cluster nodegroup) Program.ofExcept

/-- `eks.update_nodegroup_config(...)`. -/
def updateNodegroupConfig (cluster nodegroup : String)
    (scalingConfig : ScalingConfig) : Program Eks PyException Unit :=
  .call (EksCall.updateNodegroupConfig cluster nodegroup scalingConfig)
    Program.ofExcept

/-- `time.time()`. -/
def time : Program Eks PyException Rat := .call EksCall.time Program.ofExcept

/-- `sleep(15)`. -/
def sleep (seconds : Rat) : Program Eks PyException Unit :=
  .call (EksCall.sleep seconds) Program.ofExcept

/-- Seconds between two looks at the node group. -/
def pollSeconds : Rat := 15

/-- The loop of `scale_nodegroup`, with so many turns at most. -/
def awaitActive (cluster nodegroup : String) (deadline : Rat) :
    Nat → Program Eks PyException (Option Unit)
  | 0 => return none
  | turns + 1 => do
      let now ← time
      if now < deadline then
        let ng ← describeNodegroup cluster nodegroup
        if ng.status = "ACTIVE" then return some ()
        else if ng.status ∈ ["CREATE_FAILED", "DEGRADED"] then
          Program.raise (.other "RuntimeError")
        else
          sleep pollSeconds
          awaitActive cluster nodegroup deadline turns
      else Program.raise .timeoutError

/-- The sizes `scale_nodegroup` asks for. -/
def requestedConfig (current : ScalingConfig) (desired : Nat) : ScalingConfig where
  minSize := current.minSize
  maxSize := max current.maxSize desired
  desiredSize := desired

/-- `scale_nodegroup`. -/
def scaleNodegroup (cluster nodegroup : String) (desired : Nat) (waitS : Rat)
    (turns : Nat) : Program Eks PyException (Option Unit) := do
  let ng ← describeNodegroup cluster nodegroup
  if desired ≤ ng.scalingConfig.desiredSize ∧ ng.status = "ACTIVE" then
    return some ()
  else
    updateNodegroupConfig cluster nodegroup
      (requestedConfig ng.scalingConfig desired)
    let started ← time
    awaitActive cluster nodegroup (started + waitS) turns

/-! ## The node group between the calls -/

/-- The node group, the clock, and what the client has seen of the group: its
last answer and how often it asked. -/
structure EksState where
  group : Nodegroup
  now : Rat
  seen : Option Nodegroup
  polls : Nat

/-- An answered call. -/
abbrev EksEvent := Event Eks PyException

/-- How often a call looks at the node group. -/
def looks : Eks.Call → Nat
  | .describeNodegroup _ _ => 1
  | _ => 0

/-- How a call is answered: the sizes change with an update that succeeds, the
status at any time, and the clock never runs backwards. -/
inductive EksWorld : EksState → EksEvent → EksState → Prop where
  | described {source : EksState} (cluster nodegroup status : String) {now : Rat}
      (later : source.now ≤ now) :
      EksWorld source ⟨EksCall.describeNodegroup cluster nodegroup, .ok source.group⟩
        { group := { source.group with status }, now
          seen := some source.group, polls := source.polls + 1 }
  | updated {source : EksState} (cluster nodegroup status : String)
      (scalingConfig : ScalingConfig) {now : Rat} (later : source.now ≤ now) :
      EksWorld source
        ⟨EksCall.updateNodegroupConfig cluster nodegroup scalingConfig, .ok ()⟩
        { source with group := { scalingConfig, status }, now }
  | told {source : EksState} (status : String) {now : Rat}
      (later : source.now ≤ now) :
      EksWorld source ⟨EksCall.time, .ok now⟩
        { source with group := { source.group with status }, now }
  | slept {source : EksState} (status : String) {seconds now : Rat}
      (later : source.now + seconds ≤ now) :
      EksWorld source ⟨EksCall.sleep seconds, .ok ()⟩
        { source with group := { source.group with status }, now }
  | failed {source : EksState} (request : Eks.Call) (error : PyException)
      (status : String) {now : Rat} (later : source.now ≤ now) :
      EksWorld source ⟨request, .error error⟩
        { source with
          group := { source.group with status }, now
          polls := source.polls + looks request }

/-- An update takes nothing away: no capacity that is there, no room above it and
nothing of the minimum. -/
structure Raises (current requested : ScalingConfig) : Prop where
  desired : current.desiredSize ≤ requested.desiredSize
  above : current.minSize ≤ requested.desiredSize
  minimum : requested.minSize = current.minSize
  maximum : current.maxSize ≤ requested.maxSize

/-- Every update raises the sizes the node group has when it is issued. -/
def RaisesOnly (state : EksState) : Eks.Call → Prop
  | .updateNodegroupConfig _ _ requested =>
      Raises state.group.scalingConfig requested
  | _ => True

/-- The client has last seen an active node group of a size. -/
def SeenActive (desired : Nat) (state : EksState) : Prop :=
  ∃ group, state.seen = some group ∧ group.status = "ACTIVE" ∧
    desired ≤ group.scalingConfig.desiredSize

/-- How often the loop looks at the node group at most. -/
def pollLimit (waitS : Rat) : Nat := (waitS / pollSeconds).ceil.toNat

/-- What a run ends in: it has seen the size it asked for if it returns, it has
not looked too often, and it ends when it may take enough turns. -/
structure Ends (desired limit turns : Nat) (start reached : EksState)
    (result : Except PyException (Option Unit)) : Prop where
  seen : result = .ok (some ()) → SeenActive desired reached
  polls : reached.polls ≤ start.polls + limit
  ended : limit < turns → result ≠ .ok none

/-- A call that is no update. -/
def Quiet : Eks.Call → Prop
  | .updateNodegroupConfig _ _ _ => False
  | _ => True

section World

variable {source target : EksState} {event : EksEvent}

theorem EksWorld.polls_eq (stepped : EksWorld source event target) :
    target.polls = source.polls + looks event.call := by
  cases stepped <;> rfl

/-- Only an update changes the sizes. -/
theorem EksWorld.config_eq (stepped : EksWorld source event target)
    (noUpdate : Quiet event.call) :
    target.group.scalingConfig = source.group.scalingConfig := by
  cases stepped with
  | updated => exact noUpdate.elim
  | _ => rfl

theorem EksWorld.of_described {cluster nodegroup : String} {ng : Nodegroup}
    (stepped : EksWorld source
      ⟨EksCall.describeNodegroup cluster nodegroup,
        (.ok ng : Except PyException Nodegroup)⟩ target) :
    ng = source.group ∧ target.seen = some ng ∧ source.now ≤ target.now := by
  cases stepped with
  | described _ _ _ later => exact ⟨rfl, rfl, later⟩

theorem EksWorld.of_updated {cluster nodegroup : String}
    {scalingConfig : ScalingConfig}
    (stepped : EksWorld source
      ⟨EksCall.updateNodegroupConfig cluster nodegroup scalingConfig,
        (.ok () : Except PyException Unit)⟩ target) :
    target.group.scalingConfig = scalingConfig := by
  cases stepped with
  | updated => rfl

theorem EksWorld.of_told {now : Rat}
    (stepped : EksWorld source
      ⟨EksCall.time, (.ok now : Except PyException Rat)⟩ target) :
    source.now ≤ now ∧ target.now = now := by
  cases stepped with
  | told _ later => exact ⟨later, rfl⟩

theorem EksWorld.of_slept {seconds : Rat}
    (stepped : EksWorld source
      ⟨EksCall.sleep seconds, (.ok () : Except PyException Unit)⟩ target) :
    source.now + seconds ≤ target.now := by
  cases stepped with
  | slept _ later => exact later

end World

section Runs

variable {cluster nodegroup : String} {desired limit turns : Nat}
  {start reached : EksState} {result : Except PyException (Option Unit)}
  {allowed : EksState → Eks.Call → Prop}

theorem Ends.raised {error : PyException}
    (polls : reached.polls ≤ start.polls + limit) :
    Ends desired limit turns start reached (.error error) :=
  ⟨nofun, polls, nofun⟩

/-- One look more, and one turn. -/
theorem Ends.again {next : EksState}
    (ends : Ends desired limit turns next reached result)
    (looked : next.polls = start.polls + 1) :
    Ends desired (limit + 1) (turns + 1) start reached result where
  seen := ends.seen
  polls := by
    have := ends.polls
    omega
  ended enough := ends.ended (by omega)

/-- After a look at the node group: the run ends, or it sleeps and takes another
turn. -/
theorem safe_guide {deadline : Rat} {ng : Nodegroup}
    (quiet : ∀ state request, Quiet request → allowed state request)
    (scaled : desired ≤ ng.scalingConfig.desiredSize)
    (seen : reached.seen = some ng) (looked : reached.polls = start.polls + 1)
    (again : ∀ next : EksState,
      next.group.scalingConfig = reached.group.scalingConfig →
      reached.now + pollSeconds ≤ next.now →
      Program.Safe EksWorld allowed (Ends desired limit turns next) next
        (awaitActive cluster nodegroup deadline turns)) :
    Program.Safe EksWorld allowed (Ends desired (limit + 1) (turns + 1) start)
      reached
      (if ng.status = "ACTIVE" then return some ()
      else if ng.status ∈ ["CREATE_FAILED", "DEGRADED"] then
        Program.raise (.other "RuntimeError")
      else do
        sleep pollSeconds
        awaitActive cluster nodegroup deadline turns) := by
  split
  next active =>
    exact ⟨fun _ => ⟨ng, seen, active, scaled⟩, by omega, nofun⟩
  · split
    · exact Ends.raised (by omega)
    · apply Program.Safe.callThen
      · exact quiet _ _ trivial
      · intro _ next stepped
        have polls : next.polls = reached.polls := stepped.polls_eq
        apply (again next (stepped.config_eq trivial) stepped.of_slept).mono
        intro final result ends
        exact ends.again (by omega)
      · intro error next stepped
        have polls : next.polls = reached.polls := stepped.polls_eq
        exact Ends.raised (by omega)

/-- While so many sleeps go past the deadline, the loop looks so often at most,
and what it returns it has seen. -/
theorem safe_awaitActive {deadline : Rat}
    (quiet : ∀ state request, Quiet request → allowed state request)
    (scaled : desired ≤ start.group.scalingConfig.desiredSize)
    (passed : deadline ≤ start.now + limit * pollSeconds) :
    Program.Safe EksWorld allowed (Ends desired limit turns start) start
      (awaitActive cluster nodegroup deadline turns) := by
  induction turns generalizing start limit with
  | zero => exact ⟨nofun, by omega, fun enough => by omega⟩
  | succ turns ih =>
      apply Program.Safe.callThen
      · exact quiet _ _ trivial
      · intro (now : Rat) timed told
        rcases told.of_told with ⟨later, clock⟩
        have polls : timed.polls = start.polls := told.polls_eq
        have config := told.config_eq trivial
        split
        next early =>
          -- The deadline is ahead, so that a sleep is left.
          cases limit with
          | zero =>
              rw [Nat.cast_zero, zero_mul, add_zero] at passed
              exact absurd (lt_of_le_of_lt later early) (not_lt.mpr passed)
          | succ limit =>
              apply Program.Safe.callThen
              · exact quiet _ _ trivial
              · intro (ng : Nodegroup) described answered
                rcases answered.of_described with ⟨rfl, seen, later'⟩
                have looked : described.polls = timed.polls + 1 := answered.polls_eq
                have config' := answered.config_eq trivial
                apply safe_guide quiet (by rw [config]; exact scaled) seen (by omega)
                intro next same slept
                apply ih (by rw [same, config', config]; exact scaled)
                push_cast at passed
                linarith
              · intro error target failed
                have looked : target.polls = timed.polls + 1 := failed.polls_eq
                exact Ends.raised (by omega)
        next late => exact Ends.raised (by omega)
      · intro error target failed
        have polls : target.polls = start.polls := failed.polls_eq
        exact Ends.raised (by omega)

theorem le_pollLimit (waitS : Rat) : waitS ≤ pollLimit waitS * pollSeconds := by
  have above := Rat.le_ceil (x := waitS / pollSeconds)
  have toNat := Int.self_le_toNat (waitS / pollSeconds).ceil
  have quotient : waitS / pollSeconds ≤ (pollLimit waitS : Rat) := by
    have enough : ((waitS / pollSeconds).ceil : Rat) ≤ (pollLimit waitS : Rat) := by
      exact_mod_cast toNat
    linarith
  have positive : (0 : Rat) < pollSeconds := by decide
  exact (div_le_iff₀ positive).mp quotient

/-- The early return has seen what it returns for. -/
theorem Ends.early {ng : Nodegroup} (seen : reached.seen = some ng)
    (looked : reached.polls = start.polls + 1)
    (large : desired ≤ ng.scalingConfig.desiredSize) (active : ng.status = "ACTIVE") :
    Ends desired (limit + 1) turns start reached (.ok (some ())) :=
  ⟨fun _ => ⟨ng, seen, active, large⟩, by omega, nofun⟩

/-- A run asks for an update at most once, and then for sizes made from those
the node group has. -/
theorem safe_scaleNodegroup {waitS : Rat}
    (quiet : ∀ state request, Quiet request → allowed state request)
    (update : ∀ state : EksState,
      state.group.scalingConfig = start.group.scalingConfig →
      ¬(desired ≤ start.group.scalingConfig.desiredSize ∧
        start.group.status = "ACTIVE") →
      allowed state (.updateNodegroupConfig cluster nodegroup
        (requestedConfig start.group.scalingConfig desired))) :
    Program.Safe EksWorld allowed
      (Ends desired (pollLimit waitS + 1) (turns + 1) start) start
      (scaleNodegroup cluster nodegroup desired waitS turns) := by
  apply Program.Safe.callThen
  · exact quiet _ _ trivial
  · intro (ng : Nodegroup) described answered
    rcases answered.of_described with ⟨rfl, seen, _⟩
    have looked : described.polls = start.polls + 1 := answered.polls_eq
    have config := answered.config_eq trivial
    split
    next enough => exact Ends.early seen looked enough.1 enough.2
    next short =>
      apply Program.Safe.callThen (update described config short)
      · intro _ scaled applied
        have sizes := applied.of_updated
        have polls : scaled.polls = described.polls := applied.polls_eq
        apply Program.Safe.callThen
        · exact quiet _ _ trivial
        · intro (started : Rat) timed told
          rcases told.of_told with ⟨_, clock⟩
          have polls' : timed.polls = scaled.polls := told.polls_eq
          have sizes' := told.config_eq trivial
          have asked : desired ≤ timed.group.scalingConfig.desiredSize := by
            rw [sizes', sizes]
            exact le_refl desired
          have passed : started + waitS ≤
              timed.now + pollLimit waitS * pollSeconds := by
            have enough := le_pollLimit waitS
            linarith
          apply (safe_awaitActive quiet asked passed).mono
          intro final result ends
          exact ends.again (by omega)
        · intro error target failed
          have polls' : target.polls = scaled.polls := failed.polls_eq
          exact Ends.raised (by omega)
      · intro error target failed
        have polls : target.polls = described.polls := failed.polls_eq
        exact Ends.raised (by omega)
  · intro error target failed
    have polls : target.polls = start.polls + 1 := failed.polls_eq
    exact Ends.raised (by omega)

/-- The sizes that are asked for take nothing away when they are not below the
current ones. -/
theorem raises_requestedConfig {current : ScalingConfig}
    (valid : current.minSize ≤ current.desiredSize)
    (larger : current.desiredSize ≤ desired) :
    Raises current (requestedConfig current desired) :=
  ⟨larger, valid.trans larger, rfl, le_max_left _ _⟩

end Runs

/-! ## The contract -/

/-- What is expected of a run: its updates only raise sizes, a return means that
the group was seen active and large enough, and it ends after so many looks. -/
structure Contract (desired : Nat) (waitS : Rat) (turns : Nat) (source : EksState)
    (calls : List (Transition EksState EksEvent)) (target : EksState)
    (result : Except PyException (Option Unit)) : Prop where
  raises : ∀ call ∈ calls, RaisesOnly call.source call.label.call
  seen : result = .ok (some ()) → SeenActive desired target
  polls : target.polls ≤ source.polls + (pollLimit waitS + 1)
  ended : pollLimit waitS < turns → result ≠ .ok none

/-- `scale_nodegroup` meets its contract in every run from a state exactly when
the node group is active there, or not larger than what is asked for. -/
theorem scaleNodegroup_contract_iff (cluster nodegroup : String) (desired : Nat)
    (waitS : Rat) (turns : Nat) (source : EksState)
    (valid : source.group.scalingConfig.minSize ≤
      source.group.scalingConfig.desiredSize) :
    (∀ calls target result, Execution EksWorld source calls target →
      Program.Run (scaleNodegroup cluster nodegroup desired waitS turns)
        (calls.map Transition.label) result →
      Contract desired waitS turns source calls target result) ↔
      (source.group.status = "ACTIVE" ∨
        source.group.scalingConfig.desiredSize ≤ desired) := by
  constructor
  · intro contract
    by_contra larger
    rw [not_or, Nat.not_le] at larger
    let described : EksState :=
      { source with seen := some source.group, polls := source.polls + 1 }
    let look : EksEvent :=
      ⟨EksCall.describeNodegroup cluster nodegroup, .ok source.group⟩
    -- An update that fails has been issued all the same.
    let update : EksEvent :=
      ⟨EksCall.updateNodegroupConfig cluster nodegroup
        (requestedConfig source.group.scalingConfig desired),
        .error (.other "ClientError")⟩
    have notEnough : ¬(desired ≤ source.group.scalingConfig.desiredSize ∧
        source.group.status = "ACTIVE") := fun enough => larger.1 enough.2
    have run : Program.Run (scaleNodegroup cluster nodegroup desired waitS turns)
        [look, update] (.error (.other "ClientError")) := by
      apply Program.Run.call
      change Program.Run (if desired ≤ source.group.scalingConfig.desiredSize ∧
        source.group.status = "ACTIVE" then _ else _) _ _
      rw [if_neg notEnough]
      exact Program.Run.call _ (Program.Run.raise _)
    have looked : EksWorld source look described :=
      .described cluster nodegroup source.group.status le_rfl
    have updated : EksWorld described update described :=
      .failed _ _ source.group.status le_rfl
    have kept := contract [⟨source, look, described⟩, ⟨described, update, described⟩]
      _ _ (.cons looked (.cons updated (.nil _))) run
    have lowered : Raises source.group.scalingConfig
        (requestedConfig source.group.scalingConfig desired) :=
      kept.raises ⟨described, update, described⟩ (by simp)
    exact absurd lowered.desired (not_le.mpr larger.2)
  · intro condition calls target result execution run
    have safe : Program.Safe EksWorld RaisesOnly
        (Ends desired (pollLimit waitS + 1) (turns + 1) source) source
        (scaleNodegroup cluster nodegroup desired waitS turns) := by
      apply safe_scaleNodegroup
      · intro state request noUpdate
        cases request with
        | updateNodegroupConfig => exact noUpdate.elim
        | _ => trivial
      · intro state same short
        rw [RaisesOnly, same]
        apply raises_requestedConfig valid
        rcases condition with active | notLarger
        · exact (not_le.mp fun enough => short ⟨enough, active⟩).le
        · exact notLarger
    rcases safe.of_execution execution run with ⟨raises, ends⟩
    exact ⟨raises, ends.seen, ends.polls, fun enough => ends.ended (by omega)⟩

/-- An update keeps the minimum and does not lower the maximum. -/
def KeepsBounds (state : EksState) : Eks.Call → Prop
  | .updateNodegroupConfig _ _ requested =>
      requested.minSize = state.group.scalingConfig.minSize ∧
        state.group.scalingConfig.maxSize ≤ requested.maxSize
  | _ => True

/-- Of the contract only the raising of the desired size needs a condition. -/
theorem scaleNodegroup_keepsBounds {cluster nodegroup : String} {desired : Nat}
    {waitS : Rat} {turns : Nat} {source target : EksState}
    {calls : List (Transition EksState EksEvent)}
    {result : Except PyException (Option Unit)}
    (execution : Execution EksWorld source calls target)
    (run : Program.Run (scaleNodegroup cluster nodegroup desired waitS turns)
      (calls.map Transition.label) result) :
    (∀ call ∈ calls, KeepsBounds call.source call.label.call) ∧
      Ends desired (pollLimit waitS + 1) (turns + 1) source target result := by
  have safe : Program.Safe EksWorld KeepsBounds
      (Ends desired (pollLimit waitS + 1) (turns + 1) source) source
      (scaleNodegroup cluster nodegroup desired waitS turns) := by
    apply safe_scaleNodegroup
    · intro state request noUpdate
      cases request with
      | updateNodegroupConfig => exact noUpdate.elim
      | _ => trivial
    · intro state same _
      rw [KeepsBounds, same]
      exact ⟨rfl, le_max_left _ _⟩
  exact safe.of_execution execution run

section Busy

/-- A node group of three nodes that is being updated. -/
def busy : EksState where
  group := ⟨⟨0, 4, 3⟩, "UPDATING"⟩
  now := 0
  seen := none
  polls := 0

theorem scaleNodegroup_contract_iff_busy :
    busy.group.scalingConfig.desiredSize ≤ 4 ∧
      ∀ calls target result, Execution EksWorld busy calls target →
        Program.Run (scaleNodegroup "workspace" "gpu" 4 600 41)
          (calls.map Transition.label) result →
        Contract 4 600 41 busy calls target result :=
  ⟨by decide, (scaleNodegroup_contract_iff "workspace" "gpu" 4 600 41 busy
    (by decide)).mpr (Or.inr (by decide))⟩

/-- One node is asked for, and two of three are taken away: the group is not
active when it is looked at first. -/
theorem not_contract_busy :
    ¬∀ calls target result, Execution EksWorld busy calls target →
      Program.Run (scaleNodegroup "workspace" "gpu" 1 600 41)
        (calls.map Transition.label) result →
      Contract 1 600 41 busy calls target result := by
  intro contract
  let described : EksState :=
    { busy with seen := some busy.group, polls := 1 }
  let scaled : EksState :=
    { described with group := ⟨⟨0, 4, 1⟩, "ACTIVE"⟩ }
  let seen : EksState :=
    { scaled with seen := some scaled.group, polls := 2 }
  let look (group : Nodegroup) : EksEvent :=
    ⟨EksCall.describeNodegroup "workspace" "gpu", .ok group⟩
  let update : EksEvent :=
    ⟨EksCall.updateNodegroupConfig "workspace" "gpu" ⟨0, 4, 1⟩, .ok ()⟩
  let tell : EksEvent := ⟨EksCall.time, .ok (0 : Rat)⟩
  have run : Program.Run (scaleNodegroup "workspace" "gpu" 1 600 41)
      [look busy.group, update, tell, tell, look scaled.group]
      (.ok (some ())) := by
    refine .call _ (.call _ (.call _ (.call _ ?_)))
    change Program.Run (if (0 : Rat) < 0 + 600 then _ else _) _ _
    rw [if_pos (by linarith)]
    exact .call _ (.ret _)
  have execution : Execution EksWorld busy
      [⟨busy, look busy.group, described⟩, ⟨described, update, scaled⟩,
        ⟨scaled, tell, scaled⟩, ⟨scaled, tell, scaled⟩,
        ⟨scaled, look scaled.group, seen⟩] seen :=
    .cons (.described _ _ "UPDATING" le_rfl)
      (.cons (.updated _ _ "ACTIVE" _ le_rfl)
        (.cons (.told "ACTIVE" le_rfl)
          (.cons (.told "ACTIVE" le_rfl)
            (.cons (.described _ _ "ACTIVE" le_rfl) (.nil _)))))
  have kept := contract _ _ _ execution run
  have lowered : Raises ⟨0, 4, 3⟩ ⟨0, 4, 1⟩ :=
    kept.raises ⟨described, update, scaled⟩ (by simp)
  exact absurd lowered.desired (by decide)

end Busy

end PrivateAiWorkspace.ModelInstaller.EksNodegroupClient
