import PrivateAiWorkspace.Effects.FreshIds
import PrivateAiWorkspace.Effects.Hosting
import PrivateAiWorkspace.Effects.Lifting

/-!
# A store beside services

The world of programs that share one store and call services beside it. The store
answers one call at a time and does not fail. A service answers as it likes, but
what it gives out as a fresh id it has not given out before.
-/

namespace PrivateAiWorkspace.Effects

variable {left right : Interface} {ε τ ι υ : Type}

/-- A store and the ids that are out. -/
structure Hosted (τ ι : Type) where
  store : τ
  issued : List ι

section World

variable (gives : Event left ε → Option ι)
  (serve : τ → (request : right.Call) → right.Answer request × τ)

/-- How the services and the store answer. -/
inductive HostingWorld : World (left.sum right) ε (Hosted τ ι)
  | other {state : Hosted τ ι} {request : left.Call}
      {answer : Except ε (left.Answer request)} :
      gives ⟨request, answer⟩ = none →
      HostingWorld state ⟨Sum.inl request, answer⟩ state
  | given {state : Hosted τ ι} {request : left.Call}
      {answer : Except ε (left.Answer request)} {id : ι} :
      gives ⟨request, answer⟩ = some id → id ∉ state.issued →
      HostingWorld state ⟨Sum.inl request, answer⟩
        { state with issued := id :: state.issued }
  | served (state : Hosted τ ι) (request : right.Call) :
      HostingWorld state ⟨Sum.inr request, .ok (serve state.store request).1⟩
        { state with store := (serve state.store request).2 }

/-- The store as its users share it. -/
def sharedStore (initial : τ) (issuer : right.Call → υ) :
    SharedObject τ right.Call (Sigma right.Answer) υ where
  initial
  step state request := (⟨request, (serve state request).1⟩, (serve state request).2)
  issuer

end World

/-- The operation a call is. -/
def storeCall : (left.sum right).Call → Option right.Call
  | .inl _ => none
  | .inr request => some request

/-- What the store was asked and answered. -/
def storeResult : Event (left.sum right) ε → Option (Sigma right.Answer)
  | ⟨.inr request, .ok answer⟩ => some ⟨request, answer⟩
  | _ => none

/-- The ids that services give out and those the calls of the store use. -/
def storeIds (gives : Event left ε → Option ι) (uses : right.Call → List ι) :
    IdUse (left.sum right) ε ι where
  given
    | ⟨.inl request, answer⟩ => gives ⟨request, answer⟩
    | ⟨.inr _, _⟩ => none
  uses
    | .inl _ => []
    | .inr request => uses request

namespace HostingWorld

variable {gives : Event left ε → Option ι}
  {serve : τ → (request : right.Call) → right.Answer request × τ}

theorem hosts (initial : τ) (issuer : right.Call → υ) :
    Hosts (HostingWorld gives serve) (sharedStore serve initial issuer) Hosted.store
      storeCall storeResult where
  silent source event target answered silent := by
    cases answered with
    | other none => rfl
    | given some fresh => rfl
    | served request => cases silent
  serves source event target one answered called := by
    cases answered with
    | other none => cases called
    | given some fresh => cases called
    | served request =>
        cases called
        exact ⟨rfl, rfl⟩

theorem unrepeated (uses : right.Call → List ι) :
    (storeIds gives uses).Unrepeated (HostingWorld gives serve) Hosted.issued where
  fresh source event target id answered given := by
    cases answered with
    | other none => exact absurd (none.symm.trans given) (by simp)
    | given some fresh =>
        cases some.symm.trans given
        exact ⟨fresh, List.mem_cons_self⟩
    | served request => cases given
  kept source event target answered := by
    cases answered with
    | other none => exact List.Subset.refl _
    | given some fresh => exact List.subset_cons_self _ _
    | served request => exact List.Subset.refl _

end HostingWorld

section Runs

variable {α : Type} {gives : Event left ε → Option ι} {uses : right.Call → List ι}

/-- The ids a run uses are those of the operations on the store. -/
theorem used_eq_flatMap {σ : Type} (transitions :
      List (Transition (Pool (left.sum right) ε α σ) (Action (left.sum right) ε α))) :
    (storeIds gives uses).used transitions =
      (operationsOf storeCall transitions).flatMap uses := by
  induction transitions with
  | nil => rfl
  | cons transition rest ih =>
      rcases transition with ⟨source, act, target⟩
      have split : operationsOf storeCall ([⟨source, act, target⟩] ++ rest) =
          operationsOf storeCall [⟨source, act, target⟩] ++ operationsOf storeCall rest :=
        operationsOf_append _ _
      have used := (storeIds gives uses).used_append [⟨source, act, target⟩] rest
      rw [List.singleton_append] at split used
      rw [split, used, ih, List.flatMap_append]
      cases act with
      | spawn program => rfl
      | call thread event =>
          rcases event with ⟨request, answer⟩
          rw [operationsOf_call, IdUse.used_call]
          cases request with
          | inl request => rfl
          | inr request => simp [storeCall, storeIds]

/-- The first call of the store that a program makes, under an id it was given, uses
its own. -/
theorem own_of_given {past : List (Event (left.sum right) ε)} {request : right.Call}
    {id : ι} (single : uses request = [id])
    (given : ∃ event ∈ past,
      (storeIds gives uses : IdUse (left.sum right) ε ι).given event = some id)
    (quiet : ∀ event ∈ past, storeCall event.call = none) :
    (storeIds gives uses).Own past (Sum.inr request) := by
  constructor
  · change (uses request).Nodup
    simp [single]
  · intro own member
    change own ∈ uses request at member
    rw [single, List.mem_singleton] at member
    subst member
    refine ⟨given, ?_⟩
    intro event among spent
    have silent := quiet event among
    rcases event with ⟨request, answer⟩
    cases request with
    | inl request => cases spent
    | inr request => cases silent

variable {serve : τ → (request : right.Call) → right.Answer request × τ}
  {spawnable : Program (left.sum right) ε α → Prop} {start : Hosted τ ι}
  {target : Pool (left.sum right) ε α (Hosted τ ι)}
  {transitions : List (Transition (Pool (left.sum right) ε α (Hosted τ ι))
    (Action (left.sum right) ε α))}

/-- The ids that the operations of a run use are distinct. -/
theorem HostingWorld.nodup_ids
    (own : ∀ program, spawnable program →
      Program.Guarded (storeIds gives uses).Own [] program)
    (execution : Execution (Pool.Step (HostingWorld gives serve) spawnable)
      ⟨start, []⟩ transitions target) :
    ((operationsOf storeCall transitions).flatMap uses).Nodup := by
  have used := IdUse.used_nodup (HostingWorld.unrepeated uses) own execution
  rwa [used_eq_flatMap] at used

/-- What the store answers a program is what it holds after the operations before. -/
theorem HostingWorld.answered (issuer : right.Call → υ)
    (execution : Execution (Pool.Step (HostingWorld gives serve) spawnable)
      ⟨start, []⟩ transitions target)
    {thread : Nat} {request : right.Call} {answer : right.Answer request}
    (member : ⟨Sum.inr request, .ok answer⟩ ∈ Pool.threadEvents thread transitions) :
    ∃ before source event next after,
      transitions = before ++ ⟨source, .call thread event, next⟩ :: after ∧
      event.call = Sum.inr request ∧
      answer = (serve ((sharedStore serve start.store issuer).after
        (operationsOf storeCall before)) request).1 := by
  rcases (HostingWorld.hosts start.store issuer).answered rfl execution member rfl with
    ⟨before, source, next, after, split, answered⟩
  refine ⟨before, source, _, next, after, split, rfl, ?_⟩
  cases answered
  rfl

/-- Answer a call: the store as it does, a service as `choose` says, if it does. -/
def HostingWorld.respond [DecidableEq ι] (gives : Event left ε → Option ι)
    (serve : τ → (request : right.Call) → right.Answer request × τ)
    (choose : (request : left.Call) → Option (Except ε (left.Answer request)))
    (state : Hosted τ ι) : (request : (left.sum right).Call) →
      Option (Except ε ((left.sum right).Answer request) × Hosted τ ι)
  | .inr request =>
      some (.ok (serve state.store request).1,
        { state with store := (serve state.store request).2 })
  | .inl request =>
      match choose request with
      | none => none
      | some answer =>
          match gives ⟨request, answer⟩ with
          | none => some (answer, state)
          | some id =>
              if id ∈ state.issued then none
              else some (answer, { state with issued := id :: state.issued })

theorem HostingWorld.respond_sound [DecidableEq ι]
    {choose : (request : left.Call) → Option (Except ε (left.Answer request))}
    {state next : Hosted τ ι} {request : (left.sum right).Call}
    {answer : Except ε ((left.sum right).Answer request)}
    (responds : respond gives serve choose state request = some (answer, next)) :
    HostingWorld gives serve state ⟨request, answer⟩ next := by
  cases request with
  | inr request =>
      cases responds
      exact .served state request
  | inl request =>
      simp only [respond] at responds
      split at responds
      next => cases responds
      next chosen =>
        split at responds
        next none =>
          cases responds
          exact .other none
        next id given =>
          split at responds
          next => cases responds
          next fresh =>
            cases responds
            exact .given given fresh

end Runs

end PrivateAiWorkspace.Effects
