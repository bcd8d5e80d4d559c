import SysrepoInterfaces.Lib.Requests

/-!
# SysrepoInterfaces.Lib.Rounds

The rounds a loop comes to, each with the state it begins in: what holds
whenever its body is entered, and which round has sent a request.

* `Preserves` — an invariant kept on every way out but a crash;
* `rounds` — the rounds of a loop, up to one that does not reach its end;
* `Link.sentBy` — what one run of a program has sent;
* `Link.Asks` — a program whose requests all have a property.
-/

namespace CProg.Prog

variable {σ α β : Type}

/-! ## invariants of runs that are not killed -/

/-- From a state in `inv` every exit but a crash is in `inv`. -/
def Preserves (inv : σ → Prop) (p : Prog σ α) : Prop :=
  ∀ s, inv s → (p.run s).1 ≠ .crash → inv (p.run s).2

section Preserves

variable {inv : σ → Prop} {p : Prog σ α}

theorem Preserves.ensures (h : Preserves inv p) : Ensures inv p fun _ => inv := by
  intro s a s' hs hrun
  have hsafe := h s hs
  rw [hrun] at hsafe
  exact hsafe (by simp)

theorem preserves_pure (a : α) : Preserves inv (pure a : Prog σ α) := fun _ hs _ => hs

theorem preserves_of_within {R : σ → σ → Prop} (h : Within R p)
    (hR : ∀ s s', inv s → R s s' → inv s') : Preserves inv p := fun s hs _ => hR s _ hs (h s)

theorem Preserves.bind {f : α → Prog σ β} (hp : Preserves inv p)
    (hf : ∀ a, Preserves inv (f a)) : Preserves inv (p >>= f) := by
  intro s hs hcrash
  have hsafe := hp s hs
  cases hrun : p.run s with
  | mk exit s' =>
    rw [hrun] at hsafe
    cases exit with
    | ok a =>
        rw [run_bind_ok hrun] at hcrash ⊢
        exact hf a s' (hsafe (by simp)) hcrash
    | error =>
        rw [run_bind_error hrun]
        exact hsafe (by simp)
    | crash =>
        rw [run_bind_crash hrun] at hcrash
        exact absurd rfl hcrash

theorem Preserves.require {p : Prog σ Int} (h : Preserves inv p) : Preserves inv p.require := by
  intro s hs
  have hsafe := h s hs
  rw [run_require]
  rcases hrun : p.run s with ⟨error | _ | _, s'⟩ <;> rw [hrun] at hsafe
  · by_cases herror : error = 0 <;> simpa [herror] using hsafe
  · simpa using hsafe
  · simp

theorem Preserves.exitCode {p : Prog σ Unit} (code : Int) (h : Preserves inv p) :
    Preserves inv (p.exitCode code) := by
  intro s hs
  have hsafe := h s hs
  rw [run_exitCode]
  rcases hrun : p.run s with ⟨_ | _ | _, s'⟩ <;> rw [hrun] at hsafe
  · simpa using hsafe
  · simpa using hsafe
  · simp

/-- What stands under the `out` label may bring the invariant back. -/
theorem preserves_out {R : σ → σ → Prop} {f : σ → σ} (h : Within R p)
    (hf : ∀ s s', inv s → R s s' → inv (f s')) : Preserves inv (p.out f) := by
  intro s hs
  have hR := h s
  rw [run_out]
  rcases hrun : p.run s with ⟨_ | _ | _, s'⟩ <;> rw [hrun] at hR
  · exact fun _ => hf s s' hs hR
  · exact fun _ => hf s s' hs hR
  · exact fun hcrash => absurd rfl hcrash

theorem preserves_forM {f : β → Prog σ PUnit} (hf : ∀ b, Preserves inv (f b)) (bs : List β) :
    Preserves inv (forM bs f) := by
  induction bs with
  | nil => exact preserves_pure _
  | cons b bs ih =>
      rw [List.forM_cons]
      exact (hf b).bind fun _ => ih

end Preserves

/-! ## rounds -/

/-- The rounds a loop comes to, each with the state it begins in. -/
def rounds (f : β → Prog σ PUnit) : List β → σ → List (β × σ)
  | [], _ => []
  | b :: bs, s => (b, s) :: match (f b).run s with
      | (.ok _, s') => rounds f bs s'
      | (.error, _) => []
      | (.crash, _) => []

section Rounds

variable {f : β → Prog σ PUnit} {bs : List β} {b : β} {s s' : σ}

theorem rounds_cons_ok (h : (f b).run s = (.ok ⟨⟩, s')) :
    rounds f (b :: bs) s = (b, s) :: rounds f bs s' := by
  rw [rounds, h]

theorem rounds_cons_error (h : (f b).run s = (.error, s')) : rounds f (b :: bs) s = [(b, s)] := by
  rw [rounds, h]

theorem rounds_cons_crash (h : (f b).run s = (.crash, s')) : rounds f (b :: bs) s = [(b, s)] := by
  rw [rounds, h]

/-- What every round keeps holds whenever one begins. -/
theorem inv_of_mem_rounds {inv : σ → Prop} (hf : ∀ b, Preserves inv (f b)) (hs : inv s)
    {x : β × σ} (hx : x ∈ rounds f bs s) : inv x.2 := by
  induction bs generalizing s with
  | nil => cases hx
  | cons b bs ih =>
      cases hrun : (f b).run s with
      | mk exit s' =>
        cases exit with
        | ok a =>
            rw [rounds_cons_ok hrun] at hx
            rcases List.mem_cons.mp hx with rfl | hlater
            · exact hs
            · exact ih ((hf b).ensures s a s' hs hrun) hlater
        | error =>
            rw [rounds_cons_error hrun, List.mem_singleton] at hx
            rwa [hx]
        | crash =>
            rw [rounds_cons_crash hrun, List.mem_singleton] at hx
            rwa [hx]

end Rounds

end CProg.Prog

namespace Requests.Link

open CProg

variable {σ α β ρ κ : Type} (v : Link σ ρ κ)

/-! ## what a run has sent -/

/-- The requests a run of `p` from `s` adds to the log. -/
def sentBy (p : Prog σ α) (s : σ) : List (ρ × Int) := (v.log (p.run s).2).drop (v.log s).length

/-- A program that leaves the log as it was, but for what it adds. -/
def Appends (p : Prog σ α) : Prop := Prog.Within (fun s s' => v.log s <+: v.log s') p

instance : IsPreorder σ fun s s' => v.log s <+: v.log s' where
  refl _ := List.prefix_refl _
  trans _ _ _ := List.IsPrefix.trans

variable {v}

theorem Quiet.appends {p : Prog σ α} (h : v.Quiet p) : v.Appends p := by
  intro s
  rw [(h s).1]

theorem Appends.log_eq {p : Prog σ α} (h : v.Appends p) (s : σ) :
    v.log (p.run s).2 = v.log s ++ v.sentBy p s := (List.prefix_iff_eq_append.mp (h s)).symm

/-- A program that leaves the same state has sent the same. -/
theorem sentBy_congr {p : Prog σ α} {q : Prog σ β} {s : σ} (h : (p.run s).2 = (q.run s).2) :
    v.sentBy p s = v.sentBy q s := by
  rw [sentBy, h, sentBy]

theorem Sent.sentBy_eq {p : Prog σ α} {s : σ} {new : List (ρ × Int)}
    (h : v.Sent s (p.run s).2 new) : v.sentBy p s = new := by
  rw [sentBy, h.1, List.drop_left]

theorem Quiet.sentBy_eq {p : Prog σ α} (h : v.Quiet p) (s : σ) : v.sentBy p s = [] := by
  rw [sentBy, (h s).1, List.drop_length]

theorem sentBy_exitCode (code : Int) (p : Prog σ Unit) (s : σ) :
    v.sentBy (p.exitCode code) s = v.sentBy p s := by
  refine sentBy_congr ?_
  rw [Prog.run_exitCode]
  rcases p.run s with ⟨_ | _ | _, s'⟩ <;> rfl

theorem sentBy_require (p : Prog σ Int) (s : σ) : v.sentBy p.require s = v.sentBy p s := by
  refine sentBy_congr ?_
  rw [Prog.run_require]
  rcases p.run s with ⟨error | _ | _, s'⟩
  · by_cases h : error = 0 <;> simp [h]
  · rfl
  · rfl

theorem sentBy_out {p : Prog σ α} {f : σ → σ} (hf : ∀ s, v.Unchanged s (f s)) (s : σ) :
    v.sentBy (p.out f) s = v.sentBy p s := by
  rw [sentBy, sentBy, Prog.run_out]
  rcases p.run s with ⟨_ | _ | _, s'⟩
  · simp only [(hf s').1]
  · simp only [(hf s').1]
  · rfl

/-- In sequence a program sends what it sends from where the first one ends. -/
theorem sentBy_bind_quiet {p : Prog σ α} {f : α → Prog σ β} (hp : v.Quiet p) {s s' : σ} {a : α}
    (h : p.run s = (.ok a, s')) : v.sentBy (p >>= f) s = v.sentBy (f a) s' := by
  have hlog : v.log s' = v.log s := by
    have hquiet := (hp s).1
    rwa [h] at hquiet
  rw [sentBy, sentBy, Prog.run_bind_ok h, hlog]

theorem sentBy_bind_error {p : Prog σ α} {f : α → Prog σ β} (hp : v.Quiet p) {s s' : σ}
    (h : p.run s = (.error, s')) : v.sentBy (p >>= f) s = [] := by
  have hsame : v.sentBy (p >>= f) s = v.sentBy p s :=
    sentBy_congr (by rw [Prog.run_bind_error h, h])
  rw [hsame, hp.sentBy_eq]

theorem sentBy_bind_crash {p : Prog σ α} {f : α → Prog σ β} (hp : v.Quiet p) {s s' : σ}
    (h : p.run s = (.crash, s')) : v.sentBy (p >>= f) s = [] := by
  have hsame : v.sentBy (p >>= f) s = v.sentBy p s :=
    sentBy_congr (by rw [Prog.run_bind_crash h, h])
  rw [hsame, hp.sentBy_eq]

/-- Every request of a loop is sent in one of the rounds it comes to. -/
theorem sentBy_forM {f : β → Prog σ PUnit} (hf : ∀ b, v.Appends (f b)) (bs : List β) (s : σ) :
    v.sentBy (forM bs f) s = (Prog.rounds f bs s).flatMap fun x => v.sentBy (f x.1) x.2 := by
  have happends : ∀ bs s, v.log ((forM bs f : Prog σ PUnit).run s).2 =
      v.log s ++ (Prog.rounds f bs s).flatMap fun x => v.sentBy (f x.1) x.2 := by
    intro bs
    induction bs with
    | nil => exact fun s => (List.append_nil _).symm
    | cons b bs ih =>
        intro s
        have hround := (hf b).log_eq s
        rw [List.forM_cons]
        cases hrun : (f b).run s with
        | mk exit s' =>
          rw [hrun] at hround
          cases exit with
          | ok a =>
              rw [Prog.run_bind_ok hrun, ih s', Prog.rounds_cons_ok hrun, List.flatMap_cons, hround,
                List.append_assoc]
          | error => simpa [Prog.run_bind_error hrun, Prog.rounds_cons_error hrun] using hround
          | crash => simpa [Prog.run_bind_crash hrun, Prog.rounds_cons_crash hrun] using hround
  rw [sentBy, happends, List.drop_left]

/-! ## programs whose requests have a property -/

/-- The words whose requests all have a property. -/
def only (P : ρ → Prop) : Language (ρ × Int) := { w | ∀ x ∈ w, P x.1 }

theorem nil_mem_only {P : ρ → Prop} : [] ∈ only P := fun _ hx => absurd hx List.not_mem_nil

variable (v)

/-- From a state in `pre` the program asks for nothing but what has the
property. -/
def Asks (P : ρ → Prop) (pre : σ → Prop) (p : Prog σ α) : Prop :=
  v.Traces pre p (only P) (only P) fun _ _ => True

variable {v}

section Asks

variable {P : ρ → Prop} {pre : σ → Prop} {p : Prog σ α}

theorem Quiet.asks (h : v.Quiet p) : v.Asks P pre p := by
  refine (Quiet.traces h fun _ _ _ _ _ => trivial).weaken ?_ ?_ fun _ _ => id
  · rintro _ rfl
    exact nil_mem_only
  · rintro _ rfl
    exact nil_mem_only

theorem Sends.asks {p : Prog σ Int} {r : ρ} (h : v.Sends p r) (hr : P r) :
    v.Asks P pre p.require := by
  refine (h.traces fun _ _ _ _ _ => trivial).weaken ?_ ?_ fun _ _ => id
  · rintro _ rfl
    simpa [only] using hr
  · rintro _ ⟨answer, -, rfl⟩
    simpa [only] using hr

/-- After a quiet beginning the rest may rest on what that ensures. -/
theorem Asks.quiet_bind {f : α → Prog σ β} {mid : α → σ → Prop} (hp : v.Quiet p)
    (hmid : Prog.Ensures pre p mid) (hf : ∀ a, v.Asks P (mid a) (f a)) :
    v.Asks P pre (p >>= f) := Traces.quiet_bind hp hmid hf nil_mem_only

/-- A fact the precondition carries along. -/
theorem asks_of_fact {fact : Prop} (h : fact → v.Asks P pre p) :
    v.Asks P (fun s => fact ∧ pre s) p := fun s hs => h hs.1 s hs.2

/-- The precondition is a fact. -/
theorem asks_of_fact_only {fact : Prop} (h : fact → v.Asks P (fun _ => True) p) :
    v.Asks P (fun _ => fact) p := fun s hs => h hs s trivial

theorem Asks.of_sentBy (h : v.Asks P pre p) {s : σ} (hs : pre s) : ∀ x ∈ v.sentBy p s, P x.1 := by
  obtain ⟨new, hsent, hnew⟩ := h s hs
  rw [hsent.sentBy_eq]
  rcases hnew with ⟨_, _, hmem, _⟩ | ⟨_, hmem⟩
  · exact hmem
  · exact hmem

end Asks

end Requests.Link
