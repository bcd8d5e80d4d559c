import SysrepoInterfaces.Lib.CProg

/-!
# SysrepoInterfaces.Lib.Trace

What a program adds to a log in its state.  A run that comes to its end adds
the whole list; one that leaves early adds a first part of it.  Where the exit is
known too, `Gives` says both, and `walk` says them of a loop.
-/

namespace Trace

open CProg

variable {σ τ α β : Type} {seen : σ → List τ}

/-- The runs of `p` add `vs` to what `seen` shows of the state, and hand on
results that satisfy `Q`. -/
def Emits (seen : σ → List τ) (p : Prog σ α) (vs : List τ) (Q : α → Prop) : Prop :=
  ∀ s, ∃ new, seen (p.run s).2 = seen s ++ new ∧ new <+: vs ∧
    ∀ a, (p.run s).1 = .ok a → new = vs ∧ Q a

section Rules

variable {p : Prog σ α} {f : α → Prog σ β} {vs ws : List τ} {Q : α → Prop} {Q' : β → Prop}

theorem emits_pure {a : α} (ha : Q a) : Emits seen (pure a : Prog σ α) [] Q := by
  intro s
  refine ⟨[], by simp, List.prefix_refl _, ?_⟩
  intro b hb
  cases hb
  exact ⟨rfl, ha⟩

theorem emits_fail : Emits seen (Prog.fail : Prog σ α) vs Q :=
  fun s => ⟨[], by simp, List.nil_prefix, nofun⟩

theorem emits_crash : Emits seen (Prog.lift .crash : Prog σ α) vs Q :=
  fun s => ⟨[], by simp, List.nil_prefix, nofun⟩

/-- One step after another: the second only after the whole of the first. -/
theorem Emits.bind (hp : Emits seen p vs Q) (hf : ∀ a, Q a → Emits seen (f a) ws Q') :
    Emits seen (p >>= f) (vs ++ ws) Q' := by
  intro s
  obtain ⟨new, hseen, hpre, hok⟩ := hp s
  rw [Prog.run_bind]
  cases hrun : p.run s with
  | mk x s' =>
      rw [hrun] at hseen hok
      cases x with
      | ok a =>
          obtain ⟨rfl, ha⟩ := hok a rfl
          obtain ⟨new', hseen', hpre', hok'⟩ := hf a ha s'
          refine ⟨new ++ new', ?_, (List.prefix_append_right_inj new).mpr hpre', ?_⟩
          · have hfirst : seen s' = seen s ++ new := hseen
            simp only [hseen', hfirst, List.append_assoc]
          · intro b hb
            obtain ⟨rfl, hb⟩ := hok' b hb
            exact ⟨rfl, hb⟩
      | error => exact ⟨new, hseen, hpre.trans (List.prefix_append vs ws), nofun⟩
      | crash => exact ⟨new, hseen, hpre.trans (List.prefix_append vs ws), nofun⟩

/-- A loop whose accumulator keeps `Q` adds what its rounds add. -/
theorem emits_foldlM {g : α → β → Prog σ α} {out : β → List τ} {bs : List β} {a : α}
    (hg : ∀ a, Q a → ∀ b ∈ bs, Emits seen (g a b) (out b) Q) (ha : Q a) :
    Emits seen (bs.foldlM g a) (bs.flatMap out) Q := by
  induction bs generalizing a with
  | nil => exact emits_pure ha
  | cons b bs ih =>
      rw [List.foldlM_cons, List.flatMap_cons]
      have hfirst := hg a ha b (by simp)
      have hrest : ∀ a, Q a → ∀ c ∈ bs, Emits seen (g a c) (out c) Q :=
        fun a ha c hc => hg a ha c (by simp [hc])
      exact hfirst.bind fun a' ha' => ih hrest ha'

theorem emits_forM {g : β → Prog σ PUnit} {out : β → List τ} {bs : List β}
    (hg : ∀ b ∈ bs, Emits seen (g b) (out b) fun _ => True) :
    Emits seen (forM bs g) (bs.flatMap out) fun _ => True := by
  induction bs with
  | nil => exact emits_pure trivial
  | cons b bs ih =>
      rw [List.forM_cons, List.flatMap_cons]
      have hfirst := hg b (by simp)
      have hrest := ih fun c hc => hg c (by simp [hc])
      exact hfirst.bind fun _ _ => hrest

/-- What is known otherwise of the results may be added. -/
theorem Emits.results (hp : Emits seen p vs Q) {Q₁ : α → Prop}
    (hresults : ∀ s a s', p.run s = (.ok a, s') → Q₁ a) : Emits seen p vs Q₁ := by
  intro s
  obtain ⟨new, hseen, hpre, hok⟩ := hp s
  refine ⟨new, hseen, hpre, ?_⟩
  intro a ha
  exact ⟨(hok a ha).1, hresults s a _ (Prog.run_eq_of_fst ha)⟩

/-- What a run that came to its end has added. -/
theorem Emits.of_ok (hp : Emits seen p vs Q) {s s' : σ} {a : α} (hrun : p.run s = (.ok a, s')) :
    seen s' = seen s ++ vs ∧ Q a := by
  obtain ⟨new, hseen, -, hok⟩ := hp s
  rw [hrun] at hseen hok
  obtain ⟨rfl, ha⟩ := hok a rfl
  exact ⟨hseen, ha⟩

/-- A return code makes no difference to what was added. -/
theorem Emits.exitCode {p : Prog σ Unit} {Q : Unit → Prop} (hp : Emits seen p vs Q) (code : Int)
    (s : σ) : ∃ new, seen ((p.exitCode code).run s).2 = seen s ++ new ∧ new <+: vs := by
  obtain ⟨new, hseen, hpre, -⟩ := hp s
  refine ⟨new, ?_, hpre⟩
  rw [Prog.run_exitCode]
  cases hrun : p.run s with
  | mk x s' =>
      rw [hrun] at hseen
      cases x <;> exact hseen

/-- A last step that adds nothing. -/
theorem Emits.then (hp : Emits seen p vs Q) (hf : ∀ a, Q a → Emits seen (f a) [] Q') :
    Emits seen (p >>= f) vs Q' := by
  have h := hp.bind hf
  rwa [List.append_nil] at h

/-- A first step that adds nothing. -/
theorem Emits.before (hp : Emits seen p [] Q) (hf : ∀ a, Q a → Emits seen (f a) ws Q') :
    Emits seen (p >>= f) ws Q' := hp.bind hf

end Rules

/-! ## programs that add nothing -/

def Silent (seen : σ → List τ) (p : Prog σ α) : Prop := Emits seen p [] fun _ => True

section Silent

variable {p : Prog σ α} {f : α → Prog σ β} {ws : List τ} {Q' : β → Prop}

theorem silent_pure (a : α) : Silent seen (pure a : Prog σ α) := emits_pure trivial

theorem silent_get : Silent seen (Prog.get : Prog σ σ) :=
  fun s => ⟨[], by simp, List.prefix_refl _, fun _ _ => ⟨rfl, trivial⟩⟩

theorem silent_modify {g : σ → σ} (hg : ∀ s, seen (g s) = seen s) :
    Silent seen (Prog.modify g) :=
  fun s => ⟨[], by simp [hg], List.prefix_refl _, fun _ _ => ⟨rfl, trivial⟩⟩

theorem silent_lift (x : Exit α) : Silent seen (Prog.lift x : Prog σ α) :=
  fun s => ⟨[], by simp, List.prefix_refl _, fun _ _ => ⟨rfl, trivial⟩⟩

/-- A first step that adds nothing. -/
theorem Silent.before (hp : Silent seen p) (hf : ∀ a, Emits seen (f a) ws Q') :
    Emits seen (p >>= f) ws Q' :=
  Emits.bind hp fun a _ => hf a

theorem Silent.bind (hp : Silent seen p) (hf : ∀ a, Silent seen (f a)) : Silent seen (p >>= f) :=
  hp.before hf

theorem silent_foldlM {g : α → β → Prog σ α} (hg : ∀ a b, Silent seen (g a b)) (bs : List β)
    (a : α) : Silent seen (bs.foldlM g a) := by
  induction bs generalizing a with
  | nil => exact silent_pure a
  | cons b bs ih =>
      rw [List.foldlM_cons]
      exact (hg a b).bind fun a' => ih a'

end Silent

/-! ## programs that do not crash -/

/-- The runs of `p` add `vs`, and none of them crashes. -/
structure Reports (seen : σ → List τ) (p : Prog σ α) (vs : List τ) (Q : α → Prop) : Prop where
  emits : Emits seen p vs Q
  survives : ∀ s, (p.run s).1 ≠ .crash

section Reports

variable {p : Prog σ α} {f : α → Prog σ β} {vs ws : List τ} {Q : α → Prop} {Q' : β → Prop}

theorem reports_pure {a : α} (ha : Q a) : Reports seen (pure a : Prog σ α) [] Q :=
  ⟨emits_pure ha, fun s => by simp⟩

theorem Reports.bind (hp : Reports seen p vs Q) (hf : ∀ a, Q a → Reports seen (f a) ws Q') :
    Reports seen (p >>= f) (vs ++ ws) Q' := by
  refine ⟨hp.emits.bind fun a ha => (hf a ha).emits, fun s => ?_⟩
  have hfirst := hp.survives s
  obtain ⟨_, _, _, hok⟩ := hp.emits s
  rw [Prog.run_bind]
  cases hrun : p.run s with
  | mk x s' =>
      rw [hrun] at hfirst hok
      cases x with
      | ok a => exact (hf a (hok a rfl).2).survives s'
      | error => simp
      | crash => exact absurd rfl hfirst

/-- A first step that adds nothing. -/
theorem Reports.before (hp : Reports seen p [] Q) (hf : ∀ a, Q a → Reports seen (f a) ws Q') :
    Reports seen (p >>= f) ws Q' := hp.bind hf

/-- As a part of a program that shows something else, of which it adds nothing. -/
theorem Reports.embed {ρ υ : Type} {other : ρ → List υ} {q : Prog ρ α} {g : ρ → σ}
    (hp : Reports seen p vs Q) (hexit : ∀ s, (q.run s).1 = (p.run (g s)).1)
    (hother : ∀ s, other (q.run s).2 = other s) : Reports other q [] Q := by
  constructor
  · intro s
    refine ⟨[], by rw [hother, List.append_nil], List.nil_prefix, ?_⟩
    intro a ha
    obtain ⟨_, _, _, hok⟩ := hp.emits (g s)
    exact ⟨rfl, (hok a (hexit s ▸ ha)).2⟩
  · intro s
    rw [hexit]
    exact hp.survives (g s)

/-- A function with a return code always returns; 0 after all of it. -/
theorem Reports.exitCode {p : Prog σ Unit} {code : Int} (hcode : code ≠ 0)
    (hp : Reports seen p vs fun _ => True) (s : σ) :
    ∃ a s' new, (p.exitCode code).run s = (.ok a, s') ∧ seen s' = seen s ++ new ∧ new <+: vs ∧
      (a = 0 → new = vs) := by
  have hsurvives := hp.survives s
  obtain ⟨new, hseen, hpre, hok⟩ := hp.emits s
  rw [Prog.run_exitCode]
  cases hrun : p.run s with
  | mk x s' =>
      rw [hrun] at hsurvives hseen hok
      cases x with
      | ok _ => exact ⟨0, s', new, rfl, hseen, hpre, fun _ => (hok _ rfl).1⟩
      | error => exact ⟨code, s', new, rfl, hseen, hpre, fun h => absurd h hcode⟩
      | crash => exact absurd rfl hsurvives

end Reports

/-! ## programs whose runs are known -/

/-- Every run of `p` leaves the same way and adds exactly `vs`. -/
def Gives (seen : σ → List τ) (p : Prog σ α) (x : Exit α) (vs : List τ) : Prop :=
  ∀ s, (p.run s).1 = x ∧ seen (p.run s).2 = seen s ++ vs

/-- The exit of a loop and what it adds, from those of its rounds: it is left
in the first round that does not come to its end. -/
def walk (out : β → Exit Unit × List τ) : List β → Exit Unit × List τ
  | [] => (.ok (), [])
  | b :: bs =>
      match (out b).1 with
      | .ok _ => ((walk out bs).1, (out b).2 ++ (walk out bs).2)
      | x => (x, (out b).2)

/-- What a function with a return code does of an exit. -/
def exitOf (code : Int) : Exit Unit → Exit Int
  | .ok _ => .ok 0
  | .error => .ok code
  | .crash => .crash

section Gives

variable {p : Prog σ α} {f : α → Prog σ β} {a : α} {x : Exit β} {vs ws : List τ}

theorem gives_pure (a : α) : Gives seen (pure a : Prog σ α) (.ok a) [] :=
  fun s => ⟨rfl, by simp⟩

theorem gives_lift (x : Exit α) : Gives seen (Prog.lift x : Prog σ α) x [] :=
  fun s => ⟨rfl, by simp⟩

theorem gives_modify {g : σ → σ} (hg : ∀ s, seen (g s) = seen s ++ vs) :
    Gives seen (Prog.modify g) (.ok ()) vs := fun s => ⟨rfl, hg s⟩

theorem Gives.bind (hp : Gives seen p (.ok a) vs) (hf : Gives seen (f a) x ws) :
    Gives seen (p >>= f) x (vs ++ ws) := by
  intro s
  obtain ⟨hexit, hseen⟩ := hp s
  obtain ⟨hexit', hseen'⟩ := hf (p.run s).2
  rw [Prog.run_bind_ok (Prog.run_eq_of_fst hexit), hseen', hseen, List.append_assoc]
  exact ⟨hexit', rfl⟩

/-- A first step that adds nothing. -/
theorem Gives.before (hp : Gives seen p (.ok a) []) (hf : Gives seen (f a) x ws) :
    Gives seen (p >>= f) x ws := hp.bind hf

theorem Gives.error_bind (hp : Gives seen p .error vs) : Gives seen (p >>= f) .error vs := by
  intro s
  obtain ⟨hexit, hseen⟩ := hp s
  rw [Prog.run_bind_error (Prog.run_eq_of_fst hexit)]
  exact ⟨rfl, hseen⟩

theorem Gives.crash_bind (hp : Gives seen p .crash vs) : Gives seen (p >>= f) .crash vs := by
  intro s
  obtain ⟨hexit, hseen⟩ := hp s
  rw [Prog.run_bind_crash (Prog.run_eq_of_fst hexit)]
  exact ⟨rfl, hseen⟩

theorem run_exitCode_eq (code : Int) (p : Prog σ Unit) (s : σ) :
    (p.exitCode code).run s = (exitOf code (p.run s).1, (p.run s).2) := by
  rw [Prog.run_exitCode]
  rcases p.run s with ⟨_ | _ | _, s'⟩ <;> rfl

theorem exitOf_eq_zero {code : Int} (hcode : code ≠ 0) {x : Exit Unit} :
    exitOf code x = .ok 0 ↔ x = .ok () := by
  cases x <;> simp [exitOf, hcode]

theorem gives_forM {g : β → Prog σ PUnit} {out : β → Exit Unit × List τ} {bs : List β}
    (hg : ∀ b ∈ bs, Gives seen (g b) (out b).1 (out b).2) :
    Gives seen (forM bs g) (walk out bs).1 (walk out bs).2 := by
  induction bs with
  | nil => exact gives_pure _
  | cons b bs ih =>
      have hfirst := hg b List.mem_cons_self
      have hrest := ih fun c hc => hg c (List.mem_cons_of_mem _ hc)
      rw [List.forM_cons, walk]
      cases hexit : (out b).1 with
      | ok _ =>
          rw [hexit] at hfirst
          exact hfirst.bind (f := fun _ => forM bs g) hrest
      | error =>
          rw [hexit] at hfirst
          exact hfirst.error_bind
      | crash =>
          rw [hexit] at hfirst
          exact hfirst.crash_bind

/-- A loop comes to its end exactly when all its rounds do. -/
theorem walk_eq_ok {out : β → Exit Unit × List τ} {bs : List β} :
    (walk out bs).1 = .ok () ↔ ∀ b ∈ bs, (out b).1 = .ok () := by
  induction bs with
  | nil => simp [walk]
  | cons b bs ih =>
      rw [walk, List.forall_mem_cons, ← ih]
      cases hexit : (out b).1 with
      | ok _ => simp
      | error => simp
      | crash => simp

theorem walk_ne_crash {out : β → Exit Unit × List τ} {bs : List β}
    (h : ∀ b ∈ bs, (out b).1 ≠ .crash) : (walk out bs).1 ≠ .crash := by
  induction bs with
  | nil => simp [walk]
  | cons b bs ih =>
      rw [List.forall_mem_cons] at h
      rw [walk]
      split
      · exact ih h.2
      · exact h.1

/-- All of its rounds have added their part then. -/
theorem walk_snd {out : β → Exit Unit × List τ} {bs : List β}
    (h : ∀ b ∈ bs, (out b).1 = .ok ()) : (walk out bs).2 = bs.flatMap fun b => (out b).2 := by
  induction bs with
  | nil => rfl
  | cons b bs ih =>
      rw [List.forall_mem_cons] at h
      rw [walk, h.1, List.flatMap_cons, ih h.2]

end Gives

end Trace
