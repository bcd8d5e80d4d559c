import SysrepoInterfaces.Lib.CProg

/-!
# SysrepoInterfaces.Lib.Paired

Two programs side by side.  From related states they leave through the same
exit, with related results and related states; the rules follow the syntax of
both programs at once.
-/

namespace CProg

variable {σ τ α α' β β' γ γ' : Type}

/-- The same exit, and values that `Q` relates. -/
def Exit.Alike (Q : α → β → Prop) : Exit α → Exit β → Prop
  | .ok a, .ok b => Q a b
  | .error, .error => True
  | .crash, .crash => True
  | _, _ => False

theorem Exit.Alike.bind {Q : α → β → Prop} {Q' : α' → β' → Prop} {x : Exit α} {y : Exit β}
    {f : α → Exit α'} {g : β → Exit β'} (h : Exit.Alike Q x y)
    (hf : ∀ a b, x = .ok a → Q a b → Exit.Alike Q' (f a) (g b)) :
    Exit.Alike Q' (x >>= f) (y >>= g) := by
  cases x <;> cases y <;> first | exact hf _ _ rfl h | exact h.elim | trivial

theorem Exit.Alike.imp {Q Q' : α → β → Prop} {x : Exit α} {y : Exit β} (h : Exit.Alike Q x y)
    (hQ : ∀ a b, Q a b → Q' a b) : Exit.Alike Q' x y := by
  cases x <;> cases y <;> first | exact hQ _ _ h | exact h

/-- Round by round, over the same elements. -/
theorem Exit.alike_foldlM {Q : α → β → Prop} {f : α → γ → Exit α} {g : β → γ → Exit β}
    (hf : ∀ a b c, Q a b → Exit.Alike Q (f a c) (g b c)) (cs : List γ) {a : α} {b : β}
    (hab : Q a b) : Exit.Alike Q (cs.foldlM f a) (cs.foldlM g b) := by
  induction cs generalizing a b with
  | nil => exact hab
  | cons c cs ih =>
      rw [List.foldlM_cons, List.foldlM_cons]
      exact (hf a b c hab).bind fun _ _ _ => ih

namespace Prog

/-- From states in `S` both programs leave alike, for states in `S`. -/
def Paired (S : σ → τ → Prop) (p : Prog σ α) (q : Prog τ β) (Q : α → β → Prop) : Prop :=
  ∀ s t, S s t → S (p.run s).2 (q.run t).2 ∧ Exit.Alike Q (p.run s).1 (q.run t).1

variable {S : σ → τ → Prop} {p : Prog σ α} {q : Prog τ β} {Q : α → β → Prop}
  {Q' : α' → β' → Prop}

theorem paired_pure {a : α} {b : β} (h : Q a b) :
    Paired S (pure a : Prog σ α) (pure b : Prog τ β) Q :=
  fun _ _ hS => ⟨hS, h⟩

/-- Step by step: what follows is reached in both or in none. -/
theorem Paired.bind {f : α → Prog σ α'} {g : β → Prog τ β'} (hp : Paired S p q Q)
    (hf : ∀ a b, Q a b → Paired S (f a) (g b) Q') : Paired S (p >>= f) (q >>= g) Q' := by
  intro s t hS
  obtain ⟨hstates, hexits⟩ := hp s t hS
  rw [run_bind, run_bind]
  cases hrun : p.run s with
  | mk x s' =>
      cases hrun' : q.run t with
      | mk y t' =>
          rw [hrun, hrun'] at hstates hexits
          cases x with
          | ok a =>
              cases y with
              | ok b => exact hf a b hexits s' t' hstates
              | error => exact hexits.elim
              | crash => exact hexits.elim
          | error =>
              cases y with
              | ok b => exact hexits.elim
              | error => exact ⟨hstates, trivial⟩
              | crash => exact hexits.elim
          | crash =>
              cases y with
              | ok b => exact hexits.elim
              | error => exact hexits.elim
              | crash => exact ⟨hstates, trivial⟩

/-- Round by round, over related elements. -/
theorem paired_foldlM {R : γ → γ' → Prop} {f : α → γ → Prog σ α} {g : β → γ' → Prog τ β}
    {cs : List γ} {ds : List γ'} (hcs : List.Forall₂ R cs ds)
    (hf : ∀ a b c d, Q a b → R c d → Paired S (f a c) (g b d) Q) {a : α} {b : β} (hab : Q a b) :
    Paired S (cs.foldlM f a) (ds.foldlM g b) Q := by
  induction hcs generalizing a b with
  | nil => exact paired_pure hab
  | cons hcd _ ih =>
      rw [List.foldlM_cons, List.foldlM_cons]
      exact (hf a b _ _ hab hcd).bind fun a' b' hab' => ih hab'

end Prog

end CProg
