import PrivateAiWorkspace.Effects.Pool

/-!
# Ids that are handed out and used once

Programs ask for ids and put them into their calls. If no id is handed out twice
and each program uses an id it was given, and only once, then the ids used in any
interleaving of any number of such programs are distinct: an id names the call
that used it.
-/

namespace PrivateAiWorkspace.Effects

variable {interface : Interface} {ε α σ ι : Type}

/-- Which events hand out an id and which ids a call uses. -/
structure IdUse (interface : Interface) (ε ι : Type) where
  given : Event interface ε → Option ι
  uses : interface.Call → List ι

namespace IdUse

variable (ids : IdUse interface ε ι)

/-- A call uses ids the program was given and has not used before. -/
def Own (past : List (Event interface ε)) (request : interface.Call) : Prop :=
  (ids.uses request).Nodup ∧
    ∀ id ∈ ids.uses request, (∃ event ∈ past, ids.given event = some id) ∧
      ∀ event ∈ past, id ∉ ids.uses event.call

/-- A world that hands out an id once. The ids that are out are part of its
state. -/
structure Unrepeated (world : World interface ε σ) (issued : σ → List ι) : Prop where
  fresh : ∀ source event target id, world source event target →
    ids.given event = some id → id ∉ issued source ∧ id ∈ issued target
  kept : ∀ source event target, world source event target →
    issued source ⊆ issued target

/-- The ids used in a run, in order. -/
def used (transitions :
      List (Transition (Pool interface ε α σ) (Action interface ε α))) : List ι :=
  (Pool.sharedTransitions transitions).flatMap fun transition =>
    ids.uses transition.label.call

@[simp] theorem used_append
    (before after :
      List (Transition (Pool interface ε α σ) (Action interface ε α))) :
    ids.used (before ++ after) = ids.used before ++ ids.used after := by
  simp [used]

@[simp] theorem used_spawn (source target : Pool interface ε α σ)
    (program : Program interface ε α) :
    ids.used [⟨source, .spawn program, target⟩] = [] := rfl

@[simp] theorem used_call (source target : Pool interface ε α σ) (thread : Nat)
    (event : Event interface ε) :
    ids.used [⟨source, .call thread event, target⟩] = ids.uses event.call := by
  simp [used, Pool.sharedTransitions, Pool.sharedTransition]

/-- Every id is with one program, which alone uses it, once. -/
structure Accounted (issued : σ → List ι)
    (past : List (Transition (Pool interface ε α σ) (Action interface ε α)))
    (state : σ) : Prop where
  issued : ∀ thread, ∀ event ∈ Pool.threadEvents thread past, ∀ id,
    ids.given event = some id → id ∈ issued state
  unique : ∀ left right, ∀ event ∈ Pool.threadEvents left past,
    ∀ other ∈ Pool.threadEvents right past, ∀ id,
    ids.given event = some id → ids.given other = some id → left = right
  given : ∀ thread, ∀ event ∈ Pool.threadEvents thread past,
    ∀ id ∈ ids.uses event.call,
    ∃ earlier ∈ Pool.threadEvents thread past, ids.given earlier = some id
  spent : ∀ id ∈ ids.used past, ∃ thread, ∃ event ∈ Pool.threadEvents thread past,
    id ∈ ids.uses event.call
  nodup : (ids.used past).Nodup

namespace Accounted

variable {ids : IdUse interface ε ι} {issued : σ → List ι} {world : World interface ε σ}
  {past : List (Transition (Pool interface ε α σ) (Action interface ε α))}
  {source target : Pool interface ε α σ}

theorem nil (state : σ) : ids.Accounted issued
    ([] : List (Transition (Pool interface ε α σ) (Action interface ε α))) state := by
  constructor <;> simp [used, Pool.sharedTransitions]

theorem spawn (accounted : ids.Accounted issued past source.shared)
    (program : Program interface ε α) (same : target.shared = source.shared) :
    ids.Accounted issued (past ++ [⟨source, .spawn program, target⟩])
      target.shared := by
  rw [same]
  constructor
  · simpa using accounted.issued
  · simpa using accounted.unique
  · simpa using accounted.given
  · simpa using accounted.spent
  · simpa using accounted.nodup

/-- What a program uses was used by no program before. -/
theorem unspent (accounted : ids.Accounted issued past source.shared) {thread : Nat}
    {event : Event interface ε}
    (own : ids.Own (Pool.threadEvents thread past) event.call) :
    ∀ id ∈ ids.uses event.call, id ∉ ids.used past := by
  intro id uses spent
  rcases own.2 id uses with ⟨⟨source, member, given⟩, unused⟩
  rcases accounted.spent id spent with ⟨other, earlier, among, used⟩
  rcases accounted.given other earlier among id used with ⟨origin, there, given'⟩
  -- The one who used it was given it, and so is this program itself.
  have same : thread = other :=
    accounted.unique thread other source member origin there id given given'
  subst same
  exact unused earlier among used

theorem call (accounted : ids.Accounted issued past source.shared)
    (unrepeated : ids.Unrepeated world issued) {thread : Nat}
    {event : Event interface ε}
    (own : ids.Own (Pool.threadEvents thread past) event.call)
    (answered : world source.shared event target.shared) :
    ids.Accounted issued (past ++ [⟨source, .call thread event, target⟩])
      target.shared := by
  have unspent := accounted.unspent own
  constructor
  · intro other event' member id given
    rcases Pool.mem_threadEvents_snoc_call.mp member with before | ⟨-, here⟩
    · exact unrepeated.kept _ _ _ answered (accounted.issued other event' before id given)
    · rw [here] at given
      exact (unrepeated.fresh _ _ _ id answered given).2
  · intro left right one member other member' id given given'
    rcases Pool.mem_threadEvents_snoc_call.mp member with before | ⟨here, last⟩
    · rcases Pool.mem_threadEvents_snoc_call.mp member' with before' | ⟨-, last'⟩
      · exact accounted.unique left right one before other before' id given given'
      · rw [last'] at given'
        exact absurd (accounted.issued left one before id given)
          (unrepeated.fresh _ _ _ id answered given').1
    · rcases Pool.mem_threadEvents_snoc_call.mp member' with before' | ⟨here', -⟩
      · rw [last] at given
        exact absurd (accounted.issued right other before' id given')
          (unrepeated.fresh _ _ _ id answered given).1
      · exact here.symm.trans here'
  · intro other event' member id uses
    rcases Pool.mem_threadEvents_snoc_call.mp member with before | ⟨here, last⟩
    · rcases accounted.given other event' before id uses with ⟨earlier, among, given⟩
      exact ⟨earlier, Pool.mem_threadEvents_snoc_call.mpr (Or.inl among), given⟩
    · rw [last] at uses
      rcases (own.2 id uses).1 with ⟨earlier, among, given⟩
      rw [← here]
      exact ⟨earlier, Pool.mem_threadEvents_snoc_call.mpr (Or.inl among), given⟩
  · intro id spent
    rw [used_append, used_call] at spent
    rcases List.mem_append.mp spent with before | here
    · rcases accounted.spent id before with ⟨other, earlier, among, uses⟩
      exact ⟨other, earlier, Pool.mem_threadEvents_snoc_call.mpr (Or.inl among), uses⟩
    · exact ⟨thread, event, Pool.mem_threadEvents_snoc_call.mpr (Or.inr ⟨rfl, rfl⟩), here⟩
  · rw [used_append, used_call]
    apply List.Nodup.append accounted.nodup own.1
    intro id before here
    exact unspent id here before

end Accounted

variable {ids}

/-- The ids used in a run of programs that use their own are distinct. -/
theorem used_nodup {world : World interface ε σ} {issued : σ → List ι}
    {spawnable : Program interface ε α → Prop} {start : σ}
    {target : Pool interface ε α σ}
    {transitions :
      List (Transition (Pool interface ε α σ) (Action interface ε α))}
    (unrepeated : ids.Unrepeated world issued)
    (own : ∀ program, spawnable program → Program.Guarded ids.Own [] program)
    (execution : Execution (Pool.Step world spawnable) ⟨start, []⟩ transitions
      target) :
    (ids.used transitions).Nodup := by
  have accounted : ids.Accounted issued transitions target.shared := by
    apply Pool.guarded_invariant own execution (ids.Accounted issued) (.nil start)
    · intro past source program target accounted same
      exact accounted.spawn program same
    · intro past source thread event target accounted permitted answered
      exact accounted.call unrepeated permitted answered
  exact accounted.nodup

end IdUse

end PrivateAiWorkspace.Effects
