import Overworld.Proofs.Script.Endings

/-!
# The requests of a script

What a script means for its host are the requests that it makes, in their order, and how it ends. A
run of the machine says both, without any bound on its steps: since every script ends within the
steps it may take, it is what running the script means.
-/

namespace Overworld.Script

/-- A request of a script, and what its host has answered. -/
structure Request where
  name : String
  arguments : List Value
  answer : Except Value Value

variable {σ : Type}

/-- A host answers these requests one after the other, and is left in another state. -/
inductive Library.Answers (library : Library σ) : σ → List Request → σ → Prop
  | nil {s : σ} : Answers library s [] s
  | cons {s s₁ s' : σ} {name : String} {arguments : List Value}
      {function : ExceptT Value (StateM σ) Value} {answer : Except Value Value}
      {rest : List Request} (hknown : library name arguments = some function)
      (hanswer : Yields function.run s answer s₁) (hrest : Answers library s₁ rest s') :
      Answers library s (⟨name, arguments, answer⟩ :: rest) s'

/-- With its host in the state `s`, the machine makes these requests, ends with this result and
leaves the host in the state `s'`. What the host does not know is no request but a failure. -/
inductive Machine.Runs (library : Library σ) (p : Program) :
    Machine → σ → List Request → Except Failure Value → σ → Prop
  | ended {m : Machine} {s : σ} {result : Except Failure Value} (hstep : m.step p = .ended result) :
      Runs library p m s [] result s
  | next {m m' : Machine} {s s' : σ} {requests : List Request} {result : Except Failure Value}
      (hstep : m.step p = .next m') (hrest : Runs library p m' s requests result s') :
      Runs library p m s requests result s'
  | refused {m m' : Machine} {s s' : σ} {name : String} {arguments : List Value} {place : Place}
      {requests : List Request} {result : Except Failure Value}
      (hstep : m.step p = .ask name arguments place m') (hunknown : library name arguments = none)
      (hrest : Runs library p (m'.fail (.unknownFunction (signature name arguments)) place)
        s requests result s') :
      Runs library p m s requests result s'
  | answered {m m' : Machine} {s s₁ s' : σ} {name : String} {arguments : List Value} {place : Place}
      {function : ExceptT Value (StateM σ) Value} {answer : Except Value Value}
      {requests : List Request} {result : Except Failure Value}
      (hstep : m.step p = .ask name arguments place m')
      (hknown : library name arguments = some function)
      (hanswer : Yields function.run s answer s₁)
      (hrest : Runs library p (m'.answered place answer) s₁ requests result s') :
      Runs library p m s (⟨name, arguments, answer⟩ :: requests) result s'

/-- A run of a program that has been read. -/
def Program.Runs (library : Library σ) (p : Program) :
    σ → List Request → Except Failure Value → σ → Prop :=
  (Machine.load p.simplified).Runs library p.simplified

section

variable {library : Library σ} {p : Program} {m : Machine} {s s' : σ} {requests : List Request}
  {result : Except Failure Value}

/-- The host has answered the requests of a run. -/
theorem Machine.Runs.answers (h : m.Runs library p s requests result s') :
    library.Answers s requests s' := by
  induction h with
  | ended => exact .nil
  | next _ _ ih | refused _ _ _ ih => exact ih
  | answered _ hknown hanswer _ ih => exact .cons hknown hanswer ih

/-- After a step the machine needs fewer steps than before. -/
theorem Machine.potential_next {m' : Machine} {steps : Nat} (hsteps : m.potential < steps + 1)
    (hstep : m.step p = .next m') : m'.potential < steps := by
  have hbelow := m.step_below p
  rw [hstep] at hbelow
  exact Nat.lt_of_lt_of_le hbelow (Nat.le_of_lt_succ hsteps)

/-- After a request it does, whatever has been answered. -/
theorem Machine.reserve_ask {m' : Machine} {steps : Nat} {name : String} {arguments : List Value}
    {place : Place} (hsteps : m.potential < steps + 1)
    (hstep : m.step p = .ask name arguments place m') : m'.reserve + 4 < steps := by
  have hbelow := m.step_below p
  rw [hstep] at hbelow
  exact Nat.lt_of_lt_of_le hbelow (Nat.le_of_lt_succ hsteps)

section

variable {m' : Machine} {name : String} {arguments : List Value} {place : Place}
  {function : ExceptT Value (StateM σ) Value} (steps : Nat)

theorem Machine.run_next (hstep : m.step p = .next m') :
    m.run library p (steps + 1) = m'.run library p steps := by
  rw [Machine.run, hstep]

theorem Machine.run_ended (hstep : m.step p = .ended result) :
    m.run library p (steps + 1) = pure result := by
  rw [Machine.run, hstep]

theorem Machine.run_refused (hstep : m.step p = .ask name arguments place m')
    (hunknown : library name arguments = none) :
    m.run library p (steps + 1) =
      (m'.fail (.unknownFunction (signature name arguments)) place).run library p steps := by
  simp only [Machine.run, hstep, hunknown]

theorem Machine.run_answered (hstep : m.step p = .ask name arguments place m')
    (hknown : library name arguments = some function) :
    m.run library p (steps + 1) =
      function.run >>= fun answer => (m'.answered place answer).run library p steps := by
  simp only [Machine.run, hstep, hknown]

end

/-- Taking as many steps as the machine needs is a run of it. -/
theorem Machine.runs_of_yields {steps : Nat} (hsteps : m.potential < steps)
    (h : Yields (m.run library p steps) s result s') :
    ∃ requests, m.Runs library p s requests result s' := by
  induction steps generalizing m s with
  | zero => exact absurd hsteps (Nat.not_lt_zero _)
  | succ steps ih =>
    cases hstep : m.step p with
    | next m' =>
      rw [run_next steps hstep] at h
      obtain ⟨requests, hrest⟩ := ih (potential_next hsteps hstep) h
      exact ⟨requests, .next hstep hrest⟩
    | ended result' =>
      rw [run_ended steps hstep] at h
      obtain ⟨rfl, rfl⟩ := yields_pure.mp h
      exact ⟨[], .ended hstep⟩
    | ask name arguments place m' =>
      have hreserve := reserve_ask hsteps hstep
      cases hlibrary : library name arguments with
      | none =>
        rw [run_refused steps hstep hlibrary] at h
        obtain ⟨requests, hrest⟩ := ih (below_fail _ _ hreserve) h
        exact ⟨requests, .refused hstep hlibrary hrest⟩
      | some function =>
        rw [run_answered steps hstep hlibrary] at h
        obtain ⟨answer, s₁, hanswer, h⟩ := yields_bind.mp h
        obtain ⟨requests, hrest⟩ := ih (answered_below m' place answer hreserve) h
        exact ⟨_, .answered hstep hlibrary hanswer hrest⟩

/-- A run of the machine is what it comes to with as many steps as it needs. -/
theorem Machine.Runs.yields (h : m.Runs library p s requests result s') {steps : Nat}
    (hsteps : m.potential < steps) : Yields (m.run library p steps) s result s' := by
  induction steps generalizing m s requests with
  | zero => exact absurd hsteps (Nat.not_lt_zero _)
  | succ steps ih =>
    cases h with
    | ended hstep =>
      rw [run_ended steps hstep]
      exact yields_pure.mpr ⟨rfl, rfl⟩
    | next hstep hrest =>
      rw [run_next steps hstep]
      exact ih hrest (potential_next hsteps hstep)
    | refused hstep hunknown hrest =>
      rw [run_refused steps hstep hunknown]
      exact ih hrest (below_fail _ _ (reserve_ask hsteps hstep))
    | answered hstep hknown hanswer hrest =>
      rw [run_answered steps hstep hknown]
      refine yields_bind.mpr ⟨_, _, hanswer, ih hrest ?_⟩
      exact answered_below _ _ _ (reserve_ask hsteps hstep)

/-- Running a program is its run: every script comes to an end, within the steps it may take. -/
theorem Program.yields_run_iff :
    Yields (p.run library) s result s' ↔ ∃ requests, p.Runs library s requests result s' := by
  constructor
  · exact Machine.runs_of_yields (Machine.potential_load p.simplified)
  · rintro ⟨requests, hruns⟩
    exact hruns.yields (Machine.potential_load p.simplified)

/-- Every script has a run, whatever its host is and answers. -/
theorem Program.exists_runs (library : Library σ) (p : Program) (s : σ) :
    ∃ requests result s', p.Runs library s requests result s' := by
  obtain ⟨requests, hruns⟩ := Program.yields_run_iff.mp (yields_run (p.run library) s)
  exact ⟨requests, _, _, hruns⟩

end

end Overworld.Script
