import PrivateAiWorkspace.Effects.Program

/-!
# Programs over a larger interface

An embedding sends the calls of one interface to calls of another and reads the
answers back. A program over the smaller interface thereby is a program over the
larger one. Sums put two interfaces side by side.
-/

namespace PrivateAiWorkspace.Effects

/-- Calls of one interface as calls of another. -/
structure Embedding (small large : Interface) where
  call : small.Call → large.Call
  answer : (request : small.Call) → large.Answer (call request) →
    small.Answer request

/-- Two interfaces side by side. -/
def Interface.sum (left right : Interface) : Interface where
  Call := left.Call ⊕ right.Call
  Answer
    | .inl request => left.Answer request
    | .inr request => right.Answer request

namespace Embedding

/-- The first part of a sum. -/
def inl (left right : Interface) : Embedding left (left.sum right) where
  call := Sum.inl
  answer _ := id

/-- The second part of a sum. -/
def inr (left right : Interface) : Embedding right (left.sum right) where
  call := Sum.inr
  answer _ := id

/-- An embedding after another. -/
def comp {small middle large : Interface} (outer : Embedding middle large)
    (inner : Embedding small middle) : Embedding small large where
  call request := outer.call (inner.call request)
  answer request answer := inner.answer request (outer.answer _ answer)

end Embedding

variable {small large : Interface} {ε α β : Type}

/-- A program over the smaller interface as one over the larger. -/
def Program.embed (embedding : Embedding small large) :
    Program small ε α → Program large ε α
  | .ret value => .ret value
  | .raise error => .raise error
  | .call request next =>
      .call (embedding.call request) fun answer =>
        (next (answer.map (embedding.answer request))).embed embedding

namespace Program

/-- The answered calls of the larger interface that answer some calls of the
smaller one. -/
inductive Embeds (embedding : Embedding small large) :
    List (Event small ε) → List (Event large ε) → Prop where
  | nil : Embeds embedding [] []
  | cons {request : small.Call}
      (answer : Except ε (large.Answer (embedding.call request)))
      {inner : List (Event small ε)} {outer : List (Event large ε)} :
      Embeds embedding inner outer →
      Embeds embedding (⟨request, answer.map (embedding.answer request)⟩ :: inner)
        (⟨embedding.call request, answer⟩ :: outer)

/-- A run over the larger interface is one over the smaller. -/
theorem run_of_embed {embedding : Embedding small large}
    {program : Program small ε α} {events : List (Event large ε)}
    {result : Except ε α} (run : Run (program.embed embedding) events result) :
    ∃ inner, Embeds embedding inner events ∧ Run program inner result := by
  induction program generalizing events with
  | ret value =>
      rcases run_ret_iff.mp run with ⟨rfl, rfl⟩
      exact ⟨[], .nil, .ret value⟩
  | raise error =>
      rcases run_raise_iff.mp run with ⟨rfl, rfl⟩
      exact ⟨[], .nil, .raise error⟩
  | call request next ih =>
      rcases run_call_iff.mp run with ⟨answer, rest, rfl, later⟩
      rcases ih _ later with ⟨inner, embeds, ended⟩
      exact ⟨_, .cons answer embeds, .call _ ended⟩

/-- A guard that does not read the past carries over to the larger interface. -/
theorem Guarded.embed {embedding : Embedding small large}
    {inner : small.Call → Prop} {outer : large.Call → Prop}
    (implies : ∀ request, inner request → outer (embedding.call request))
    {program : Program small ε α} {past : List (Event small ε)}
    {before : List (Event large ε)}
    (guarded : Guarded (fun _ => inner) past program) :
    Guarded (fun _ => outer) before (program.embed embedding) := by
  induction program generalizing past before with
  | ret value => trivial
  | raise error => trivial
  | call request next ih =>
      exact ⟨implies request guarded.1, fun answer => ih _ (guarded.2 _)⟩

end Program

end PrivateAiWorkspace.Effects
