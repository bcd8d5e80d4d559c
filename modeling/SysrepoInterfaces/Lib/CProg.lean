import Mathlib.Data.List.Forall2
import Mathlib.Order.Defs.Unbundled

/-!
# SysrepoInterfaces.Lib.CProg

Programs in the shape of a C function: a run threads a state and leaves
through its normal end, through `goto error_out`, or by killing the process.
The state survives every exit, so what a run did before it left stays visible.

* `Exit` — the three exits, as a monad of pure computations;
* `Prog` — the state-threading form, with `status` for the epilogue that turns
  the `error_out` label into a return code;
* `Within` — an effect bound that holds of every run, whatever its exit;
* `Ensures` — what holds of a state after a normal end;
* `Ends`, `Leaves` — from which states a program reaches its normal end, and
  from which it leaves through `error_out`.
-/

namespace CProg

/-! ## related lists -/

section Forall₂

variable {α β : Type}

/-- What stands across from an element of the first list. -/
theorem exists_of_forall₂_left {R : α → β → Prop} {cs : List α} {ds : List β}
    (h : List.Forall₂ R cs ds) {c : α} (hc : c ∈ cs) : ∃ d ∈ ds, R c d := by
  induction h with
  | nil => cases hc
  | cons hcd _ ih =>
      rcases List.mem_cons.mp hc with rfl | hc
      · exact ⟨_, List.mem_cons_self, hcd⟩
      · obtain ⟨d, hd, hR⟩ := ih hc
        exact ⟨d, List.mem_cons_of_mem _ hd, hR⟩

theorem exists_of_forall₂_right {R : α → β → Prop} {cs : List α} {ds : List β}
    (h : List.Forall₂ R cs ds) {d : β} (hd : d ∈ ds) : ∃ c ∈ cs, R c d :=
  exists_of_forall₂_left (List.Forall₂.flip h) hd

theorem forall₂_and {R S : α → β → Prop} {as : List α} {bs : List β} (hR : List.Forall₂ R as bs)
    (hS : List.Forall₂ S as bs) : List.Forall₂ (fun a b => R a b ∧ S a b) as bs := by
  induction hR with
  | nil => exact .nil
  | cons hab _ ih =>
      cases hS with
      | cons hab' hrest => exact .cons ⟨hab, hab'⟩ (ih hrest)

end Forall₂

/-! ## exits -/

/-- How a computation leaves: with a value, through `goto error_out`, or by
killing the process (a `NULL` dereference, `abort`). -/
inductive Exit (α : Type) where
  | ok (a : α)
  | error
  | crash
deriving DecidableEq, Repr

namespace Exit

variable {α β : Type}

/-- Sequencing: only a normal end continues. -/
def bind (x : Exit α) (f : α → Exit β) : Exit β :=
  match x with
  | .ok a => f a
  | .error => .error
  | .crash => .crash

instance : Monad Exit where
  pure := .ok
  bind := Exit.bind

@[simp] theorem pure_eq (a : α) : (pure a : Exit α) = .ok a := rfl

@[simp] theorem ok_bind (a : α) (f : α → Exit β) : (Exit.ok a >>= f) = f a := rfl

@[simp] theorem error_bind (f : α → Exit β) : (Exit.error >>= f) = .error := rfl

@[simp] theorem crash_bind (f : α → Exit β) : (Exit.crash >>= f) = .crash := rfl

/-- A sequence ends normally exactly when both halves do. -/
theorem bind_eq_ok {x : Exit α} {f : α → Exit β} {b : β} :
    (x >>= f) = .ok b ↔ ∃ a, x = .ok a ∧ f a = .ok b := by
  cases x with
  | ok a => simp
  | error => simp
  | crash => simp

instance : LawfulMonad Exit :=
  LawfulMonad.mk' Exit (by intro α x; cases x <;> rfl) (by intro α β a f; rfl)
    (by intro α β γ x f g; cases x <;> rfl)

/-- A computation for each element. -/
theorem mapM_of_forall₂ {f : α → Exit β} {as : List α} {bs : List β}
    (h : List.Forall₂ (fun a b => f a = .ok b) as bs) : as.mapM f = .ok bs := by
  induction h with
  | nil => rfl
  | cons hab _ ih =>
      rw [List.mapM_cons, hab, ok_bind, ih]
      rfl

end Exit

/-! ## programs -/

/-- A computation over a state `σ`. -/
structure Prog (σ α : Type) where
  run : σ → Exit α × σ

namespace Prog

variable {σ α β : Type}

/-- Sequencing: the state reached so far survives an early exit. -/
def bind (p : Prog σ α) (f : α → Prog σ β) : Prog σ β := ⟨fun s =>
  match p.run s with
  | (.ok a, s') => (f a).run s'
  | (.error, s') => (.error, s')
  | (.crash, s') => (.crash, s')⟩

instance : Monad (Prog σ) where
  pure a := ⟨fun s => (.ok a, s)⟩
  bind := Prog.bind

/-- Read the state. -/
def get : Prog σ σ := ⟨fun s => (.ok s, s)⟩

/-- Update the state. -/
def modify (f : σ → σ) : Prog σ Unit := ⟨fun s => (.ok (), f s)⟩

/-- `goto error_out`. -/
def fail : Prog σ α := ⟨fun s => (.error, s)⟩

/-- Run a pure computation. -/
def lift (x : Exit α) : Prog σ α := ⟨fun s => (x, s)⟩

/-- The epilogue of a function: its `error_out` label returns `code`. -/
def status (code : α) (p : Prog σ α) : Prog σ α := ⟨fun s =>
  match p.run s with
  | (.error, s') => (.ok code, s')
  | r => r⟩

/-- The statements under the `out` label, which both exits run. -/
def out (f : σ → σ) (p : Prog σ α) : Prog σ α := ⟨fun s =>
  match p.run s with
  | (.ok a, s') => (.ok a, f s')
  | (.error, s') => (.error, f s')
  | (.crash, s') => (.crash, s')⟩

/-- `error = p(); if (error != 0) goto error_out;` -/
def require (p : Prog σ Int) : Prog σ Unit := ⟨fun s =>
  match p.run s with
  | (.ok error, s') => if error = 0 then (.ok (), s') else (.error, s')
  | (.error, s') => (.error, s')
  | (.crash, s') => (.crash, s')⟩

/-- A function that returns 0 at its end, and `code` through `error_out`. -/
def exitCode (code : Int) (p : Prog σ Unit) : Prog σ Int := status code (p >>= fun _ => pure 0)

@[simp] theorem run_pure (a : α) (s : σ) : (pure a : Prog σ α).run s = (.ok a, s) := rfl

@[simp] theorem run_get (s : σ) : (get : Prog σ σ).run s = (.ok s, s) := rfl

@[simp] theorem run_modify (f : σ → σ) (s : σ) : (modify f).run s = (.ok (), f s) := rfl

@[simp] theorem run_fail (s : σ) : (fail : Prog σ α).run s = (.error, s) := rfl

@[simp] theorem run_lift (x : Exit α) (s : σ) : (lift x : Prog σ α).run s = (x, s) := rfl

theorem run_bind (p : Prog σ α) (f : α → Prog σ β) (s : σ) :
    (p >>= f).run s = match p.run s with
      | (.ok a, s') => (f a).run s'
      | (.error, s') => (.error, s')
      | (.crash, s') => (.crash, s') := rfl

theorem run_eq_of_fst {p : Prog σ α} {s : σ} {x : Exit α} (h : (p.run s).1 = x) :
    p.run s = (x, (p.run s).2) := by
  rw [← h]

/-- After a normal end the sequence is the run of what follows. -/
theorem run_bind_ok {p : Prog σ α} {f : α → Prog σ β} {s s' : σ} {a : α}
    (h : p.run s = (.ok a, s')) : (p >>= f).run s = (f a).run s' := by
  rw [run_bind, h]

theorem run_bind_error {p : Prog σ α} {f : α → Prog σ β} {s s' : σ}
    (h : p.run s = (.error, s')) : (p >>= f).run s = (.error, s') := by
  rw [run_bind, h]

theorem run_bind_crash {p : Prog σ α} {f : α → Prog σ β} {s s' : σ}
    (h : p.run s = (.crash, s')) : (p >>= f).run s = (.crash, s') := by
  rw [run_bind, h]

/-- A sequence that ends normally ran both halves to their normal ends. -/
theorem bind_eq_ok {p : Prog σ α} {f : α → Prog σ β} {s s'' : σ} {b : β}
    (h : (p >>= f).run s = (.ok b, s'')) :
    ∃ a s', p.run s = (.ok a, s') ∧ (f a).run s' = (.ok b, s'') := by
  rw [run_bind] at h
  split at h
  · next a s' hp => exact ⟨a, s', hp, h⟩
  · cases h
  · cases h

/-- Programs with the same runs are equal. -/
theorem ext_run {p q : Prog σ α} (h : ∀ s, p.run s = q.run s) : p = q := by
  obtain ⟨run⟩ := p
  congr 1
  exact funext h

instance : LawfulMonad (Prog σ) := by
  refine LawfulMonad.mk' (Prog σ) ?_ (fun _ _ => rfl) ?_
  · intro α p
    refine ext_run fun s => ?_
    show (p >>= pure).run s = p.run s
    rw [run_bind]
    rcases p.run s with ⟨a | _ | _, s'⟩ <;> rfl
  · intro α β γ p f g
    refine ext_run fun s => ?_
    rw [run_bind, run_bind, run_bind]
    rcases p.run s with ⟨a | _ | _, s'⟩
    · exact run_bind (f a) g s'
    · rfl
    · rfl

theorem run_status (code : α) (p : Prog σ α) (s : σ) :
    (p.status code).run s = match p.run s with
      | (.error, s') => (.ok code, s')
      | r => r := rfl

/-- A function with an epilogue returns either the value of its normal end or
the code of its `error_out` label. -/
theorem status_eq_ok {code a : α} {p : Prog σ α} {s s' : σ}
    (h : (p.status code).run s = (.ok a, s')) :
    p.run s = (.ok a, s') ∨ p.run s = (.error, s') ∧ a = code := by
  rw [run_status] at h
  split at h
  · next s'' hp => cases h; exact .inr ⟨hp, rfl⟩
  · exact .inl h

/-- A return value other than the one of `error_out` is that of the normal end. -/
theorem run_of_status_ne {code a : α} {p : Prog σ α} {s s' : σ}
    (h : (p.status code).run s = (.ok a, s')) (hne : a ≠ code) : p.run s = (.ok a, s') := by
  rcases status_eq_ok h with hp | ⟨_, heq⟩
  · exact hp
  · exact absurd heq hne

theorem run_out (f : σ → σ) (p : Prog σ α) (s : σ) :
    (p.out f).run s = match p.run s with
      | (.ok a, s') => (.ok a, f s')
      | (.error, s') => (.error, f s')
      | (.crash, s') => (.crash, s') := rfl

theorem run_require (p : Prog σ Int) (s : σ) :
    p.require.run s = match p.run s with
      | (.ok error, s') => if error = 0 then (.ok (), s') else (.error, s')
      | (.error, s') => (.error, s')
      | (.crash, s') => (.crash, s') := rfl

theorem run_require_of_zero {p : Prog σ Int} {s s' : σ} (h : p.run s = (.ok 0, s')) :
    p.require.run s = (.ok (), s') := by
  rw [run_require, h]
  rfl

theorem run_require_of_ne {p : Prog σ Int} {s s' : σ} {error : Int}
    (h : p.run s = (.ok error, s')) (hne : error ≠ 0) : p.require.run s = (.error, s') := by
  rw [run_require, h]
  exact if_neg hne

theorem require_eq_ok {p : Prog σ Int} {s s' : σ} :
    p.require.run s = (.ok (), s') ↔ p.run s = (.ok 0, s') := by
  rw [run_require]
  rcases p.run s with ⟨error | _ | _, s''⟩
  · by_cases h : error = 0 <;> simp [h]
  · simp
  · simp

theorem run_exitCode (code : Int) (p : Prog σ Unit) (s : σ) :
    (p.exitCode code).run s = match p.run s with
      | (.ok _, s') => (.ok 0, s')
      | (.error, s') => (.ok code, s')
      | (.crash, s') => (.crash, s') := by
  rw [exitCode, run_status, run_bind]
  rcases p.run s with ⟨_ | _ | _, s'⟩ <;> rfl

/-- A status code that is handed on leaves as the callee did. -/
theorem require_exitCode {code : Int} (hcode : code ≠ 0) (p : Prog σ Unit) :
    (p.exitCode code).require = p := by
  refine ext_run fun s => ?_
  rw [run_require, run_exitCode]
  rcases p.run s with ⟨_ | _ | _, s'⟩
  · rfl
  · exact if_neg hcode
  · rfl

/-- 0 comes from the normal end. -/
theorem exitCode_eq_zero {code : Int} (hcode : code ≠ 0) {p : Prog σ Unit} {s s' : σ} :
    (p.exitCode code).run s = (.ok 0, s') ↔ p.run s = (.ok (), s') := by
  rw [run_exitCode]
  rcases p.run s with ⟨_ | _ | _, s''⟩ <;> simp [hcode]

/-- Any other code comes from `error_out`. -/
theorem exitCode_eq_ne {code a : Int} (ha : a ≠ 0) {p : Prog σ Unit} {s s' : σ} :
    (p.exitCode code).run s = (.ok a, s') ↔ a = code ∧ p.run s = (.error, s') := by
  rw [run_exitCode]
  rcases p.run s with ⟨_ | _ | _, s''⟩
  · simp [ha.symm]
  · simp [eq_comm]
  · simp

/-! ## effect bounds -/

/-- Every run of `p`, whatever its exit, moves the state along `R`. -/
def Within (R : σ → σ → Prop) (p : Prog σ α) : Prop := ∀ s, R s (p.run s).2

theorem Within.mono {R S : σ → σ → Prop} {p : Prog σ α} (hp : Within R p)
    (h : ∀ s s', R s s' → S s s') : Within S p := fun s => h s _ (hp s)

section Within

variable {R : σ → σ → Prop} [IsPreorder σ R]

theorem within_pure (a : α) : Within R (pure a : Prog σ α) := fun s => refl_of R s

theorem within_get : Within R (get : Prog σ σ) := fun s => refl_of R s

theorem within_fail : Within R (fail : Prog σ α) := fun s => refl_of R s

theorem within_lift (x : Exit α) : Within R (lift x : Prog σ α) := fun s => refl_of R s

omit [IsPreorder σ R] in
theorem within_modify {f : σ → σ} (h : ∀ s, R s (f s)) : Within R (modify f) := h

theorem within_bind {p : Prog σ α} {f : α → Prog σ β} (hp : Within R p)
    (hf : ∀ a, Within R (f a)) : Within R (p >>= f) := by
  intro s
  have hs := hp s
  rw [run_bind]
  split
  · next a s' h => rw [h] at hs; exact trans_of R hs (hf a s')
  · next s' h => rw [h] at hs; exact hs
  · next s' h => rw [h] at hs; exact hs

/-- What a first step did is not undone by the second. -/
theorem within_after {p : Prog σ α} {f : α → Prog σ β} (hf : ∀ a, Within R (f a)) (s : σ) :
    R (p.run s).2 ((p >>= f).run s).2 := by
  rw [run_bind]
  rcases p.run s with ⟨a | _ | _, s'⟩
  · exact hf a s'
  · exact refl_of R s'
  · exact refl_of R s'

omit [IsPreorder σ R] in
theorem within_status {p : Prog σ α} (code : α) (hp : Within R p) :
    Within R (p.status code) := by
  intro s
  have hs := hp s
  rw [run_status]
  split
  · next s' h => rw [h] at hs; exact hs
  · exact hs

theorem within_out {p : Prog σ α} {f : σ → σ} (hf : ∀ s, R s (f s)) (hp : Within R p) :
    Within R (p.out f) := by
  intro s
  have hs := hp s
  rw [run_out]
  split
  · next a s' h => rw [h] at hs; exact trans_of R hs (hf s')
  · next s' h => rw [h] at hs; exact trans_of R hs (hf s')
  · next s' h => rw [h] at hs; exact hs

omit [IsPreorder σ R] in
theorem within_require {p : Prog σ Int} (hp : Within R p) : Within R p.require := by
  intro s
  have hs := hp s
  rw [run_require]
  split
  · next error s' h => rw [h] at hs; split <;> exact hs
  · next s' h => rw [h] at hs; exact hs
  · next s' h => rw [h] at hs; exact hs

theorem within_exitCode {p : Prog σ Unit} (code : Int) (hp : Within R p) :
    Within R (p.exitCode code) :=
  within_status code (within_bind hp fun _ => within_pure 0)

theorem within_foldlM {f : α → β → Prog σ α} (hf : ∀ a b, Within R (f a b)) (bs : List β)
    (a : α) : Within R (bs.foldlM f a) := by
  induction bs generalizing a with
  | nil => exact within_pure a
  | cons b bs ih =>
      rw [List.foldlM_cons]
      exact within_bind (hf a b) fun a' => ih a'

theorem within_forM_mem {f : β → Prog σ PUnit} {bs : List β} (hf : ∀ b ∈ bs, Within R (f b)) :
    Within R (forM bs f) := by
  induction bs with
  | nil => exact within_pure _
  | cons b bs ih =>
      rw [List.forM_cons]
      have hrest := ih fun c hc => hf c (List.mem_cons_of_mem _ hc)
      exact within_bind (hf b List.mem_cons_self) fun _ => hrest

theorem within_forM {f : β → Prog σ PUnit} (hf : ∀ b, Within R (f b)) (bs : List β) :
    Within R (forM bs f) := within_forM_mem fun b _ => hf b

theorem within_mapM {f : β → Prog σ α} (hf : ∀ b, Within R (f b)) (bs : List β) :
    Within R (bs.mapM f) := by
  induction bs with
  | nil => exact within_pure _
  | cons b bs ih =>
      rw [List.mapM_cons]
      exact within_bind (hf b) fun _ => within_bind ih fun _ => within_pure _

end Within

/-! ## return values -/

/-- Every normal end of `p` returns `a`. -/
def Yields (p : Prog σ α) (a : α) : Prop := ∀ s b s', p.run s = (.ok b, s') → b = a

theorem yields_pure (a : α) : Yields (pure a : Prog σ α) a := by
  intro s b s' h
  exact (Exit.ok.inj (Prod.mk.inj h).1).symm

theorem Yields.bind {p : Prog σ α} {f : α → Prog σ β} {a : α} {b : β} (hp : Yields p a)
    (hf : Yields (f a) b) : Yields (p >>= f) b := by
  intro s c s' h
  obtain ⟨a', s₁, ha, hc⟩ := bind_eq_ok h
  obtain rfl := hp s a' s₁ ha
  exact hf s₁ c s' hc

/-- When the rounds of a loop return the values of `g`, so does the loop. -/
theorem yields_mapM {f : β → Prog σ α} {g : β → α} {bs : List β}
    (hf : ∀ b ∈ bs, Yields (f b) (g b)) : Yields (bs.mapM f) (bs.map g) := by
  induction bs with
  | nil => exact yields_pure []
  | cons b bs ih =>
      rw [List.mapM_cons, List.map_cons]
      have hb := hf b List.mem_cons_self
      have hbs := ih fun b hb => hf b (List.mem_cons_of_mem _ hb)
      exact hb.bind (hbs.bind (yields_pure _))

/-! ## partial correctness -/

/-- From a state in `pre` every normal end is in `post`. -/
def Ensures (pre : σ → Prop) (p : Prog σ α) (post : α → σ → Prop) : Prop :=
  ∀ s a s', pre s → p.run s = (.ok a, s') → post a s'

section Ensures

variable {pre : σ → Prop} {p : Prog σ α} {f : α → Prog σ β} {mid : α → σ → Prop}
  {post : β → σ → Prop}

theorem Ensures.bind (hp : Ensures pre p mid) (hf : ∀ a, Ensures (mid a) (f a) post) :
    Ensures pre (p >>= f) post := by
  intro s b s' hs h
  obtain ⟨a, s₁, ha, hb⟩ := bind_eq_ok h
  exact hf a s₁ b s' (hp s a s₁ hs ha) hb

theorem ensures_pure {post : α → σ → Prop} {a : α} (h : ∀ s, pre s → post a s) :
    Ensures pre (pure a : Prog σ α) post := by
  intro s b s' hs hrun
  cases hrun
  exact h s hs

theorem Ensures.weaken {pre' : σ → Prop} {mid' : α → σ → Prop} (h : Ensures pre p mid)
    (hpre : ∀ s, pre' s → pre s) (hmid : ∀ a s, mid a s → mid' a s) : Ensures pre' p mid' :=
  fun s a s' hs hrun => hmid a s' (h s a s' (hpre s hs) hrun)

/-- A fact the precondition carries along. -/
theorem ensures_of_fact {fact : Prop} (h : fact → Ensures pre p mid) :
    Ensures (fun s => fact ∧ pre s) p mid :=
  fun s a s' hs hrun => h hs.1 s a s' hs.2 hrun

/-- A fact about the state that is not needed. -/
theorem ensures_of_and {fact : σ → Prop} (h : Ensures pre p mid) :
    Ensures (fun s => fact s ∧ pre s) p mid :=
  fun s a s' hs hrun => h s a s' hs.2 hrun

theorem Ensures.out {g : σ → σ} {mid' : α → σ → Prop} (h : Ensures pre p mid)
    (hg : ∀ a s, mid a s → mid' a (g s)) : Ensures pre (p.out g) mid' := by
  intro s a s' hs hrun
  rw [run_out] at hrun
  cases hp : p.run s with
  | mk exit s₁ =>
      rw [hp] at hrun
      cases exit with
      | ok b =>
          cases hrun
          exact hg a s₁ (h s a s₁ hs hp)
      | error => cases hrun
      | crash => cases hrun

/-- The rounds of a loop keep an invariant. -/
theorem ensures_forM {inv : σ → Prop} {g : β → Prog σ PUnit} {bs : List β}
    (h : ∀ b ∈ bs, Ensures inv (g b) fun _ => inv) : Ensures inv (forM bs g) fun _ => inv := by
  induction bs with
  | nil => exact ensures_pure fun _ => id
  | cons b bs ih =>
      rw [List.forM_cons]
      exact (h b (by simp)).bind fun _ => ih fun b hb => h b (by simp [hb])

/-- The rounds of a loop take a parameter of the invariant along. -/
theorem ensures_forM_foldl {τ : Type} {P : τ → σ → Prop} {step : τ → β → τ}
    {g : β → Prog σ PUnit} (h : ∀ b t, Ensures (P t) (g b) fun _ => P (step t b)) (bs : List β)
    (t : τ) : Ensures (P t) (forM bs g) fun _ => P (bs.foldl step t) := by
  induction bs generalizing t with
  | nil =>
      intro s a s' hs hrun
      cases hrun
      exact hs
  | cons b bs ih =>
      rw [List.forM_cons]
      exact (h b t).bind fun _ => ih (step t b)

end Ensures

/-! ## total runs -/

/-- From a state in `pre` the program reaches its normal end, in `post`. -/
def Ends (pre : σ → Prop) (p : Prog σ α) (post : α → σ → Prop) : Prop :=
  ∀ s, pre s → ∃ a s', p.run s = (.ok a, s') ∧ post a s'

/-- From a state in `pre` the program leaves through `error_out`, in `post`. -/
def Leaves (pre : σ → Prop) (p : Prog σ α) (post : σ → Prop) : Prop :=
  ∀ s, pre s → ∃ s', p.run s = (.error, s') ∧ post s'

section Ends

variable {pre : σ → Prop} {p : Prog σ α} {f : α → Prog σ β} {mid : α → σ → Prop}
  {post : β → σ → Prop} {inv : σ → Prop}

theorem ends_pure {post : α → σ → Prop} {a : α} (h : ∀ s, pre s → post a s) :
    Ends pre (pure a : Prog σ α) post := fun s hs => ⟨a, s, rfl, h s hs⟩

theorem Ends.bind (hp : Ends pre p mid) (hf : ∀ a, Ends (mid a) (f a) post) :
    Ends pre (p >>= f) post := by
  intro s hs
  obtain ⟨a, s', hrun, ha⟩ := hp s hs
  rw [run_bind_ok hrun]
  exact hf a s' ha

theorem Ends.bind_leaves {post : σ → Prop} (hp : Ends pre p mid)
    (hf : ∀ a, Leaves (mid a) (f a) post) : Leaves pre (p >>= f) post := by
  intro s hs
  obtain ⟨a, s', hrun, ha⟩ := hp s hs
  rw [run_bind_ok hrun]
  exact hf a s' ha

theorem Leaves.bind {post : σ → Prop} (hp : Leaves pre p post) :
    Leaves pre (p >>= f) post := by
  intro s hs
  obtain ⟨s', hrun, hpost⟩ := hp s hs
  exact ⟨s', run_bind_error hrun, hpost⟩

theorem Ends.weaken {pre' : σ → Prop} {mid' : α → σ → Prop} (h : Ends pre p mid)
    (hpre : ∀ s, pre' s → pre s) (hpost : ∀ a s, mid a s → mid' a s) : Ends pre' p mid' := by
  intro s hs
  obtain ⟨a, s', hrun, ha⟩ := h s (hpre s hs)
  exact ⟨a, s', hrun, hpost a s' ha⟩

/-- What stands under the `out` label keeps the exit. -/
theorem Ends.out {g : σ → σ} {mid' : α → σ → Prop} (h : Ends pre p mid)
    (hpost : ∀ a s, mid a s → mid' a (g s)) : Ends pre (p.out g) mid' := by
  intro s hs
  obtain ⟨a, s', hrun, ha⟩ := h s hs
  exact ⟨a, g s', by rw [run_out, hrun], hpost a s' ha⟩

theorem Leaves.out {g : σ → σ} {post post' : σ → Prop} (h : Leaves pre p post)
    (hpost : ∀ s, post s → post' (g s)) : Leaves pre (p.out g) post' := by
  intro s hs
  obtain ⟨s', hrun, hs'⟩ := h s hs
  exact ⟨g s', by rw [run_out, hrun], hpost s' hs'⟩

/-- A function whose `error_out` label returns a code that is not 0. -/
theorem Leaves.status {code : Int} {p : Prog σ Int} {post : σ → Prop} (hcode : code ≠ 0)
    (h : Leaves pre p post) : Leaves pre (p.status code).require post := by
  intro s hs
  obtain ⟨s', hrun, hpost⟩ := h s hs
  refine ⟨s', run_require_of_ne ?_ hcode, hpost⟩
  rw [run_status, hrun]

/-- A function whose own return value is 0. -/
theorem Ends.status {code : Int} {p : Prog σ Int} {post : σ → Prop}
    (h : Ends pre p fun error s => error = 0 ∧ post s) :
    Ends pre (p.status code).require fun _ => post := by
  intro s hs
  obtain ⟨error, s', hrun, rfl, hpost⟩ := h s hs
  refine ⟨(), s', run_require_of_zero ?_, hpost⟩
  rw [run_status, hrun]

/-- A function that reaches its end with a value that is not 0. -/
theorem Ends.status_leaves {code : Int} {p : Prog σ Int} {post : σ → Prop}
    (h : Ends pre p fun error s => error ≠ 0 ∧ post s) :
    Leaves pre (p.status code).require post := by
  intro s hs
  obtain ⟨error, s', hrun, hne, hpost⟩ := h s hs
  refine ⟨s', run_require_of_ne ?_ hne, hpost⟩
  rw [run_status, hrun]

/-- The rounds of a loop that reach their ends and keep an invariant. -/
theorem ends_forM {g : β → Prog σ PUnit} {bs : List β}
    (h : ∀ b ∈ bs, Ends inv (g b) fun _ => inv) : Ends inv (forM bs g) fun _ => inv := by
  induction bs with
  | nil => exact ends_pure fun _ => id
  | cons b bs ih =>
      rw [List.forM_cons]
      exact (h b List.mem_cons_self).bind fun _ => ih fun b hb => h b (List.mem_cons_of_mem _ hb)

/-- What every round establishes holds after a loop of at least one round. -/
theorem ends_forM_of_ne_nil {post : σ → Prop} {g : β → Prog σ PUnit} {bs : List β} (hne : bs ≠ [])
    (h : ∀ b ∈ bs, Ends inv (g b) fun _ => post) (hinv : ∀ s, post s → inv s) :
    Ends inv (forM bs g) fun _ => post := by
  induction bs with
  | nil => exact absurd rfl hne
  | cons b bs ih =>
      rw [List.forM_cons]
      have hrest : ∀ b ∈ bs, Ends inv (g b) fun _ => post :=
        fun b hb => h b (List.mem_cons_of_mem _ hb)
      refine (h b List.mem_cons_self).bind fun _ => ?_
      cases bs with
      | nil => exact ends_pure fun _ => id
      | cons b' bs' => exact (ih (List.cons_ne_nil _ _) hrest).weaken hinv fun _ _ => id

/-- The rounds of a loop with an accumulator. -/
theorem ends_foldlM {g : α → β → Prog σ α} {bs : List β}
    (h : ∀ a, ∀ b ∈ bs, Ends inv (g a b) fun _ => inv) {a : α} :
    Ends inv (bs.foldlM g a) fun _ => inv := by
  induction bs generalizing a with
  | nil => exact ends_pure fun _ => id
  | cons b bs ih =>
      rw [List.foldlM_cons]
      exact (h a b List.mem_cons_self).bind fun _ =>
        ih fun a b hb => h a b (List.mem_cons_of_mem _ hb)

/-- A loop is left in the first round that does not reach its end. -/
theorem leaves_forM {g : β → Prog σ PUnit} {bs : List β}
    (h : ∀ b ∈ bs, Ends inv (g b) (fun _ => inv) ∨ Leaves inv (g b) inv)
    (hleaves : ∃ b ∈ bs, Leaves inv (g b) inv) : Leaves inv (forM bs g) inv := by
  induction bs with
  | nil =>
      obtain ⟨b, hb, -⟩ := hleaves
      cases hb
  | cons b bs ih =>
      rw [List.forM_cons]
      rcases h b List.mem_cons_self with hends | hb
      · by_cases hfirst : Leaves inv (g b) inv
        · exact hfirst.bind
        · obtain ⟨b', hb', hleaves'⟩ := hleaves
          have htail : b' ∈ bs := by
            rcases List.mem_cons.mp hb' with rfl | hmem
            · exact absurd hleaves' hfirst
            · exact hmem
          exact hends.bind_leaves fun _ =>
            ih (fun b hb => h b (List.mem_cons_of_mem _ hb)) ⟨b', htail, hleaves'⟩
      · exact hb.bind

end Ends

end Prog

end CProg
