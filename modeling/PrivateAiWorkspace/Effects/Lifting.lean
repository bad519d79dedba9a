import PrivateAiWorkspace.Effects.Embedding

/-!
# Runs and guards over a larger interface

What a program over a larger interface has called, and may call, when some of its
parts are programs over a smaller one.
-/

namespace PrivateAiWorkspace.Effects

namespace Program

section EmbeddedCalls

variable {small large : Interface} {ε α β : Type} {embedding : Embedding small large}
  {request : small.Call} {rest : small.Answer request → Program large ε β}

/-- A run of an embedded call whose exceptions are not caught. -/
theorem run_embedThen_iff {events : List (Event large ε)}
    {result : Except ε β} :
    Run (((.call request ofExcept : Program small ε _).embed embedding).bind rest)
        events result ↔
      (∃ error, events = [⟨embedding.call request, .error error⟩] ∧
        result = .error error) ∨
      ∃ value more, events = ⟨embedding.call request, .ok value⟩ :: more ∧
        Run (rest (embedding.answer request value)) more result := by
  refine run_call_iff.trans ?_
  constructor
  · intro ⟨answer, more, split, run⟩
    cases answer with
    | error error =>
        rcases run_raise_iff.mp run with ⟨rfl, raised⟩
        exact Or.inl ⟨error, split, raised⟩
    | ok value => exact Or.inr ⟨value, more, split, run⟩
  · intro cases
    rcases cases with ⟨error, split, raised⟩ | ⟨value, more, split, run⟩
    · exact ⟨.error error, [], split, run_raise_iff.mpr ⟨rfl, raised⟩⟩
    · exact ⟨.ok value, more, split, run⟩

theorem Guarded.embedThen
    {allowed : List (Event large ε) → large.Call → Prop} {past : List (Event large ε)}
    (permitted : allowed past (embedding.call request))
    (answered : ∀ value, Guarded allowed (past ++ [⟨embedding.call request, .ok value⟩])
      (rest (embedding.answer request value))) :
    Guarded allowed past
      (((.call request ofExcept : Program small ε _).embed embedding).bind rest) := by
  constructor
  · exact permitted
  · intro answer
    cases answer with
    | error error => trivial
    | ok value => exact answered value

theorem Guarded.ofExceptThen
    {allowed : List (Event large ε) → large.Call → Prop} {past : List (Event large ε)}
    {outcome : Except ε α} {next : α → Program large ε β}
    (guarded : ∀ value, outcome = .ok value → Guarded allowed past (next value)) :
    Guarded allowed past ((ofExcept outcome).bind next) := by
  cases outcome with
  | error error => trivial
  | ok value => exact guarded value rfl

end EmbeddedCalls

section EmbeddedGuards

variable {small large : Interface} {ε α : Type} {embedding : Embedding small large}

theorem Embeds.snoc {inner : List (Event small ε)} {outer : List (Event large ε)}
    (embeds : Embeds embedding inner outer) {request : small.Call}
    (answer : Except ε (large.Answer (embedding.call request))) :
    Embeds embedding (inner ++ [⟨request, answer.map (embedding.answer request)⟩])
      (outer ++ [⟨embedding.call request, answer⟩]) := by
  induction embeds with
  | nil => exact .cons answer .nil
  | cons before _ ih => exact .cons before ih

/-- An answered call of the larger interface answers one of the smaller. -/
theorem Embeds.exists_mem {inner : List (Event small ε)} {outer : List (Event large ε)}
    (embeds : Embeds embedding inner outer) {event : Event small ε}
    (member : event ∈ inner) :
    ∃ answer, ⟨embedding.call event.call, answer⟩ ∈ outer ∧
      event.answer = answer.map (embedding.answer event.call) := by
  induction embeds with
  | nil => cases member
  | cons answer _ ih =>
      rcases List.mem_cons.mp member with rfl | later
      · exact ⟨answer, List.mem_cons_self, rfl⟩
      · rcases ih later with ⟨other, found, same⟩
        exact ⟨other, List.mem_cons_of_mem _ found, same⟩

/-- A guard carries over to the larger interface, if it does on every past. -/
theorem Guarded.embedPast {inner : List (Event small ε) → small.Call → Prop}
    {outer : List (Event large ε) → large.Call → Prop}
    (implies : ∀ past before request, Embeds embedding past before →
      inner past request → outer before (embedding.call request))
    {program : Program small ε α} {past : List (Event small ε)}
    {before : List (Event large ε)} (embeds : Embeds embedding past before)
    (guarded : Guarded inner past program) :
    Guarded outer before (program.embed embedding) := by
  induction program generalizing past before with
  | ret value => trivial
  | raise error => trivial
  | call request next ih =>
      constructor
      · exact implies past before request embeds guarded.1
      · intro answer
        exact ih _ (embeds.snoc answer) (guarded.2 _)

/-- A guard that permits every embedded call holds of every embedded program. -/
theorem Guarded.embedded {outer : List (Event large ε) → large.Call → Prop}
    (permitted : ∀ past request, outer past (embedding.call request))
    (program : Program small ε α) (before : List (Event large ε)) :
    Guarded outer before (program.embed embedding) := by
  induction program generalizing before with
  | ret value => trivial
  | raise error => trivial
  | call request next ih => exact ⟨permitted before request, fun answer => ih _ _⟩

/-- A guard that stays true of a longer past holds of a program that starts later. -/
theorem Guarded.later {allowed : List (Event small ε) → small.Call → Prop}
    (stays : ∀ before past request, allowed past request → allowed (before ++ past) request)
    (before : List (Event small ε)) {program : Program small ε α}
    {past : List (Event small ε)} (guarded : Guarded allowed past program) :
    Guarded allowed (before ++ past) program := by
  induction program generalizing past with
  | ret value => trivial
  | raise error => trivial
  | call request next ih =>
      constructor
      · exact stays before past request guarded.1
      · intro answer
        rw [List.append_assoc]
        exact ih answer (guarded.2 answer)

end EmbeddedGuards

end Program

end PrivateAiWorkspace.Effects
