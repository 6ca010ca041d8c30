import Overworld.Data.Source

/-!
# Computations in arbitrary surroundings

What lies outside a session is a state about which nothing is assumed: any type `σ`,
and any data source and bitmap loader over `StateM σ`. Two reads of a file may therefore
give different answers. The relation `Yields` takes such a computation apart, one read
at a time.
-/

namespace Overworld

variable {σ α β ε : Type}

/-- Started in the surroundings `s`, a computation gives `a` and leaves the surroundings `s'`. -/
def Yields (x : StateM σ α) (s : σ) (a : α) (s' : σ) : Prop := (x.run s).run = (a, s')

/-- Every computation yields its answer in any surroundings. -/
theorem yields_run (x : StateM σ α) (s : σ) : Yields x s (x.run s).run.1 (x.run s).run.2 := rfl

/-- A computation yields one answer in given surroundings. -/
theorem Yields.unique {x : StateM σ α} {s s₁ s₂ : σ} {a b : α} (h : Yields x s a s₁)
    (h' : Yields x s b s₂) : b = a ∧ s₂ = s₁ :=
  Prod.mk.inj (h'.symm.trans h)

/-- An answer that needs nothing from outside leaves the surroundings alone. -/
@[simp] theorem yields_pure {a b : α} {s s' : σ} :
    Yields (pure b) s a s' ↔ a = b ∧ s' = s := by
  simp [Yields, eq_comm]

/-- An answer of two parts leaves the surroundings alone. -/
theorem yields_pair {a a' : α} {b b' : β} {s s' : σ} :
    Yields (pure (a', b')) s (a, b) s' ↔ a = a' ∧ b = b' ∧ s' = s := by
  rw [yields_pure, Prod.mk.injEq, and_assoc]

/-- Two computations in a row pass through surroundings in between. -/
@[simp] theorem yields_bind {x : StateM σ α} {f : α → StateM σ β} {s s' : σ} {b : β} :
    Yields (x >>= f) s b s' ↔ ∃ a s₁, Yields x s a s₁ ∧ Yields (f a) s₁ b s' := by
  unfold Yields
  rw [StateT.run_bind]
  constructor
  · intro h
    exact ⟨_, _, rfl, h⟩
  · rintro ⟨a, s₁, hx, hf⟩
    have hstep : StateT.run x s = (a, s₁) := hx
    rw [hstep]
    exact hf

/-- Changing the answer of a computation changes nothing else. -/
@[simp] theorem yields_map {x : StateM σ α} {f : α → β} {s s' : σ} {b : β} :
    Yields (f <$> x) s b s' ↔ ∃ a, Yields x s a s' ∧ b = f a := by
  simp only [map_eq_pure_bind, yields_bind, yields_pure]
  constructor
  · rintro ⟨a, s₁, hx, rfl, rfl⟩
    exact ⟨a, hx, rfl⟩
  · rintro ⟨a, hx, rfl⟩
    exact ⟨a, s', hx, rfl, rfl⟩

/-- An answer of a computation that may fail leaves the surroundings alone. -/
theorem yields_except_pure {a : α} {s s' : σ} {r : Except ε α} :
    Yields (pure a : ExceptT ε (StateM σ) α).run s r s' ↔ r = .ok a ∧ s' = s :=
  yields_pure

/-- A failure leaves the surroundings alone. -/
theorem yields_throw {e : ε} {s s' : σ} {r : Except ε α} :
    Yields (throw e : ExceptT ε (StateM σ) α).run s r s' ↔ r = .error e ∧ s' = s :=
  yields_pure

/-- Looking at the surroundings leaves them alone. -/
theorem yields_get {s s' : σ} {r : Except ε σ} :
    Yields (get : ExceptT ε (StateM σ) σ).run s r s' ↔ r = .ok s ∧ s' = s :=
  yields_pure (b := Except.ok s)

/-- Changing the surroundings never fails. -/
theorem yields_modify {f : σ → σ} {s s' : σ} {r : Except ε PUnit} :
    Yields (modify f : ExceptT ε (StateM σ) PUnit).run s r s' ↔ r = .ok ⟨⟩ ∧ s' = f s := by
  constructor
  · intro h
    have hpair : ((Except.ok ⟨⟩ : Except ε PUnit), f s) = (r, s') := h
    exact ⟨(Prod.mk.inj hpair).1.symm, (Prod.mk.inj hpair).2.symm⟩
  · rintro ⟨rfl, rfl⟩
    rfl

/-- Of two computations in a row that may fail, the second one runs if the first one does not
fail. -/
theorem yields_except_bind {x : ExceptT ε (StateM σ) α} {f : α → ExceptT ε (StateM σ) β}
    {s s' : σ} {r : Except ε β} :
    Yields (x >>= f).run s r s' ↔
      (∃ a s₁, Yields x.run s (.ok a) s₁ ∧ Yields (f a).run s₁ r s') ∨
        ∃ e, Yields x.run s (.error e) s' ∧ r = .error e := by
  rw [ExceptT.run_bind, yields_bind]
  constructor
  · rintro ⟨answer, s₁, hx, hf⟩
    cases answer with
    | ok a => exact .inl ⟨a, s₁, hx, hf⟩
    | error e =>
      obtain ⟨rfl, rfl⟩ := yields_pure.mp hf
      exact .inr ⟨e, hx, rfl⟩
  · rintro (⟨a, s₁, hx, hf⟩ | ⟨e, hx, rfl⟩)
    · exact ⟨.ok a, s₁, hx, hf⟩
    · exact ⟨.error e, s', hx, yields_pure.mpr ⟨rfl, rfl⟩⟩

end Overworld
