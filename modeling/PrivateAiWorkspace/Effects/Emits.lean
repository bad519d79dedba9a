import PrivateAiWorkspace.Effects.Program

/-!
# Observable calls of a program

`Emits observe program seen`: whatever the environment answers, the observable
calls of the program are the ones seen, in order. The rules follow the ways of
putting programs together; code that comes after the observable calls, or cleans
up behind them, has to be silent.
-/

namespace PrivateAiWorkspace.Effects.Program

variable {interface : Interface} {ε α β γ : Type}
  {observe : interface.Call → Option γ}

/-- Every run of the program makes exactly these observable calls. -/
def Emits (observe : interface.Call → Option γ) :
    Program interface ε α → List γ → Prop
  | .ret _, seen => seen = []
  | .raise _, seen => seen = []
  | .call request next, seen =>
      ∃ rest, seen = (observe request).toList ++ rest ∧
        ∀ answer, Emits observe (next answer) rest

@[simp] theorem emits_ret {value : α} {seen : List γ} :
    Emits observe (ret value : Program interface ε α) seen ↔ seen = [] :=
  Iff.rfl

@[simp] theorem emits_raise {error : ε} {seen : List γ} :
    Emits observe (raise error : Program interface ε α) seen ↔ seen = [] :=
  Iff.rfl

theorem Emits.silent {request : interface.Call}
    {next : Except ε (interface.Answer request) → Program interface ε α}
    {seen : List γ} (hidden : observe request = none)
    (later : ∀ answer, Emits observe (next answer) seen) :
    Emits observe (call request next) seen :=
  ⟨seen, by rw [hidden]; rfl, later⟩

theorem Emits.seen {request : interface.Call}
    {next : Except ε (interface.Answer request) → Program interface ε α}
    {value : γ} {rest : List γ} (shown : observe request = some value)
    (later : ∀ answer, Emits observe (next answer) rest) :
    Emits observe (call request next) (value :: rest) :=
  ⟨rest, by rw [shown]; rfl, later⟩

theorem Emits.bind {program : Program interface ε α}
    {continuation : α → Program interface ε β} {seen : List γ}
    (first : Emits observe program seen)
    (later : ∀ value, Emits observe (continuation value) []) :
    Emits observe (program.bind continuation) seen := by
  induction program generalizing seen with
  | ret value =>
      rw [emits_ret.mp first]
      exact later value
  | raise error => exact first
  | call request next ih =>
      rcases first with ⟨rest, split, answered⟩
      exact ⟨rest, split, fun answer => ih answer (answered answer)⟩

theorem Emits.tryCatch {program : Program interface ε α}
    {handler : ε → Program interface ε α} {seen : List γ}
    (work : Emits observe program seen)
    (handled : ∀ error, Emits observe (handler error) []) :
    Emits observe (program.tryCatch handler) seen := by
  induction program generalizing seen with
  | ret value => exact work
  | raise error =>
      rw [emits_raise.mp work]
      exact handled error
  | call request next ih =>
      rcases work with ⟨rest, split, answered⟩
      exact ⟨rest, split, fun answer => ih answer (answered answer)⟩

theorem Emits.tryFinally {program : Program interface ε α}
    {cleanup : Program interface ε Unit} {seen : List γ}
    (work : Emits observe program seen) (cleaned : Emits observe cleanup []) :
    Emits observe (program.tryFinally cleanup) seen := by
  induction program generalizing seen with
  | ret value =>
      rw [emits_ret.mp work]
      exact cleaned.bind fun _ => rfl
  | raise error =>
      rw [emits_raise.mp work]
      exact cleaned.bind fun _ => rfl
  | call request next ih =>
      rcases work with ⟨rest, split, answered⟩
      exact ⟨rest, split, fun answer => ih answer (answered answer)⟩

/-- What a program emits is what is seen of each of its runs. -/
theorem Emits.of_run {program : Program interface ε α} {seen : List γ}
    (emits : Emits observe program seen) {events : List (Event interface ε)}
    {outcome : Except ε α} (run : Run program events outcome) :
    events.filterMap (fun event => observe event.call) = seen := by
  induction run generalizing seen with
  | ret value => exact emits.symm
  | raise error => exact emits.symm
  | call answer rest ih =>
      rcases emits with ⟨later, split, answered⟩
      have later_eq := ih (answered answer)
      rw [split, List.filterMap_cons, later_eq]
      cases observe _ with
      | none => rfl
      | some value => rfl

end PrivateAiWorkspace.Effects.Program
