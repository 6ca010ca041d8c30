import Mathlib.Logic.Relation
import Overworld.Proofs.Script.Requests

/-!
# What a script does to its host

The machine touches the state of its host only through the functions that it asks for.
Whatever one such call can do to the host, a run of a program therefore does as a
sequence of such calls, however it ends.
-/

namespace Overworld.Script

variable {σ : Type} {library : Library σ} {R : σ → σ → Prop}

/-- A library whose functions, successful or not, take the host only from a state to one that is
related to it. -/
def Library.Does (library : Library σ) (R : σ → σ → Prop) : Prop :=
  ∀ {name : String} {arguments : List Value} {function : ExceptT Value (StateM σ) Value}
    {s s' : σ} {result : Except Value Value},
    library name arguments = some function → Yields function.run s result s' → R s s'

/-- Answering requests is a sequence of calls as far as the host is concerned. -/
theorem Library.Answers.steps {requests : List Request} {s s' : σ}
    (h : library.Answers s requests s') (hlibrary : library.Does R) :
    Relation.ReflTransGen R s s' := by
  induction h with
  | nil => exact .refl
  | cons hknown hanswer _ ih => exact .head (hlibrary hknown hanswer) ih

/-- A run of a program is a sequence of calls as far as the host is concerned. -/
theorem Program.run_steps {p : Program} (hlibrary : library.Does R) {s s' : σ}
    {result : Except Failure Value} (h : Yields (p.run library) s result s') :
    Relation.ReflTransGen R s s' := by
  obtain ⟨requests, hruns⟩ := Program.yields_run_iff.mp h
  exact hruns.answers.steps hlibrary

end Overworld.Script
