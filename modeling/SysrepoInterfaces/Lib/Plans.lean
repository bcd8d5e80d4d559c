import SysrepoInterfaces.Lib.Rounds

/-!
# SysrepoInterfaces.Lib.Plans

Loops that plan their rounds: what a round asks for may rest on the state the
server is in when the round begins.

* `answered` — a plan as carried out;
* `RefusedAt` — a plan that was refused at one of its requests;
* `Attempts` — a program that carries out its plan, or leaves at a refusal;
* `planRounds` — the plans of the rounds of a loop, one after the other;
* `leftIn` — a loop that was left in one of its rounds.
-/

namespace Requests

variable {ρ : Type}

/-! ## plans -/

/-- The requests of a plan, all of them accepted. -/
def answered (plan : List ρ) : List (ρ × Int) := plan.map fun r => (r, 0)

@[simp] theorem answered_nil : answered ([] : List ρ) = [] := rfl

theorem answered_append (plan plan' : List ρ) :
    answered (plan ++ plan') = answered plan ++ answered plan' := List.map_append

@[simp] theorem accepted_answered (plan : List ρ) : accepted (answered plan) = plan := by
  rw [accepted_of_all (by simp [answered]), answered, List.map_map]
  exact List.map_id _

/-- A beginning of the plan, accepted up to its last request, which was
refused. -/
def RefusedAt (sent : List (ρ × Int)) (plan : List ρ) : Prop :=
  ∃ before r answer, sent = answered before ++ [(r, answer)] ∧ answer ≠ 0 ∧
    before ++ [r] <+: plan

/-- Nothing was sent, or the plan was refused at one of its requests. -/
def Stops (plan : Option (List ρ)) (sent : List (ρ × Int)) : Prop :=
  sent = [] ∨ ∃ asked, plan = some asked ∧ RefusedAt sent asked

/-- What was carried out is the beginning of the plan before the refusal. -/
theorem RefusedAt.accepted {sent : List (ρ × Int)} {plan : List ρ} (h : RefusedAt sent plan) :
    ∃ r, accepted sent ++ [r] <+: plan := by
  obtain ⟨before, r, answer, rfl, hanswer, hpre⟩ := h
  refine ⟨r, ?_⟩
  rw [accepted_append, accepted_answered]
  simpa [Requests.accepted, hanswer] using hpre

end Requests

namespace Requests.Link

open CProg

variable {σ α β ρ κ : Type} (v : Link σ ρ κ)

/-! ## programs with a plan -/

/-- The words that carry out a plan; where there is none, there are none. -/
def carriesOut (plan : Option (List ρ)) : Language (ρ × Int) :=
  { w | ∃ asked, plan = some asked ∧ w = answered asked }

def stops (plan : Option (List ρ)) : Language (ρ × Int) := { w | Stops plan w }

/-- From a state in `pre` the program carries out its plan, or leaves with
nothing sent or at a refused request of the plan. -/
def Attempts (pre : σ → Prop) (p : Prog σ α) (plan : Option (List ρ)) : Prop :=
  v.Traces pre p (carriesOut plan) (stops plan) fun _ _ => True

variable {v}

section Attempts

variable {pre : σ → Prop} {p : Prog σ α} {plan : Option (List ρ)}

theorem nil_mem_stops : [] ∈ stops plan := .inl rfl

/-- A program that sends nothing is one of a plan it only ends by if that is
empty. -/
theorem Quiet.attempts (h : v.Quiet p)
    (hnil : ∀ s a s', pre s → p.run s = (.ok a, s') → plan = some []) : v.Attempts pre p plan := by
  intro s hs
  obtain ⟨hlog, hserver⟩ := h s
  refine ⟨[], ⟨hlog.trans (List.append_nil _).symm, hserver⟩, ?_⟩
  cases hrun : p.run s with
  | mk exit s' =>
    cases exit with
    | ok a => exact .inl ⟨a, rfl, ⟨[], hnil s a s' hs hrun, rfl⟩, trivial⟩
    | error => exact .inr ⟨nofun, nil_mem_stops⟩
    | crash => exact .inr ⟨nofun, nil_mem_stops⟩

theorem attempts_pure {a : α} (hnil : plan = some []) :
    v.Attempts pre (pure a : Prog σ α) plan :=
  Quiet.attempts (Prog.within_pure a) fun _ _ _ _ _ => hnil

theorem attempts_fail : v.Attempts pre (Prog.fail : Prog σ α) plan := by
  refine Quiet.attempts Prog.within_fail fun s a s' _ hrun => ?_
  cases hrun

/-- After a quiet beginning the plan may rest on what that ensures. -/
theorem Attempts.quiet_bind {f : α → Prog σ β} {mid : α → σ → Prop} (hp : v.Quiet p)
    (hmid : Prog.Ensures pre p mid) (hf : ∀ a, v.Attempts (mid a) (f a) plan) :
    v.Attempts pre (p >>= f) plan := Traces.quiet_bind hp hmid hf nil_mem_stops

/-- A fact the precondition carries along. -/
theorem attempts_of_fact {fact : Prop} (h : fact → v.Attempts pre p plan) :
    v.Attempts (fun s => fact ∧ pre s) p plan := fun s hs => h hs.1 s hs.2

theorem attempts_of_fact_only {fact : Prop} (h : fact → v.Attempts (fun _ => True) p plan) :
    v.Attempts (fun _ => fact) p plan := fun s hs => h hs s trivial

theorem Attempts.out {f : σ → σ} (h : v.Attempts pre p plan) (hf : ∀ s, v.Unchanged s (f s)) :
    v.Attempts pre (p.out f) plan := Traces.out h hf fun _ _ _ => trivial

/-- A request that has to be accepted. -/
theorem Sends.attempts {p : Prog σ Int} {r : ρ} (h : v.Sends p r) (hplan : plan = some [r]) :
    v.Attempts pre p.require plan := by
  refine (h.traces fun _ _ _ _ _ => trivial).weaken ?_ ?_ fun _ _ => id
  · rintro _ rfl
    exact ⟨[r], hplan, rfl⟩
  · rintro _ ⟨answer, hanswer, rfl⟩
    exact .inr ⟨[r], hplan, [], r, answer, rfl, hanswer, List.prefix_refl _⟩

/-- Two requests, the second after the first. -/
theorem Sends.attempts_two {p q : Prog σ Int} {r r' : ρ} (hp : v.Sends p r) (hq : v.Sends q r')
    (hplan : plan = some [r, r']) :
    v.Attempts pre (p.require >>= fun _ => q.require) plan := by
  have hfirst : v.Traces pre p.require (taken r) (refused r) fun _ _ => True :=
    hp.traces fun _ _ _ _ _ => trivial
  have hsecond : v.Traces (fun _ => True) q.require (taken r') (refused r') fun _ _ => True :=
    hq.traces fun _ _ _ _ _ => trivial
  refine (hfirst.bind fun _ => hsecond).weaken ?_ ?_ fun _ _ => id
  · intro w hw
    obtain ⟨_, rfl, _, rfl, rfl⟩ := Language.mem_mul.mp hw
    exact ⟨[r, r'], hplan, rfl⟩
  · rintro w (⟨answer, hanswer, rfl⟩ | hw)
    · exact .inr ⟨_, hplan, [], r, answer, rfl, hanswer, ⟨[r'], rfl⟩⟩
    · obtain ⟨_, rfl, _, ⟨answer, hanswer, rfl⟩, rfl⟩ := Language.mem_mul.mp hw
      exact .inr ⟨_, hplan, [r], r', answer, rfl, hanswer, List.prefix_refl _⟩

end Attempts

/-! ## loops -/

/-- The plans of the rounds of a loop, each made in the state the server has
come to, and the server after them. -/
def planRounds (apply : κ → ρ → κ) (plan : κ → β → Option (List ρ)) :
    List β → κ → Option (List ρ × κ)
  | [], k => some ([], k)
  | b :: bs, k => do
      let asked ← plan k b
      let (asked', k') ← planRounds apply plan bs (asked.foldl apply k)
      some (asked ++ asked', k')

/-- The rounds before one were carried out, and what that one has sent is a word
of its `cut`. -/
def leftIn (apply : κ → ρ → κ) (plan : κ → β → Option (List ρ))
    (cut : κ → β → Language (ρ × Int)) (bs : List β) (k : κ) : Language (ρ × Int) :=
  { w | ∃ before b after asked k', bs = before ++ b :: after ∧
    planRounds apply plan before k = some (asked, k') ∧ ∃ stop ∈ cut k' b,
      w = answered asked ++ stop }

section Rounds

variable {apply : κ → ρ → κ} {plan : κ → β → Option (List ρ)} {b : β} {bs before after : List β}
  {k k' : κ} {asked asked' : List ρ}

theorem planRounds_eq_foldl (h : planRounds apply plan bs k = some (asked, k')) :
    k' = asked.foldl apply k := by
  induction bs generalizing k asked k' with
  | nil =>
      cases h
      rfl
  | cons b bs ih =>
      simp only [planRounds, Option.bind_eq_bind, Option.bind_eq_some_iff] at h
      obtain ⟨first, -, ⟨rest, k''⟩, hrest, heq⟩ := h
      cases heq
      rw [ih hrest, List.foldl_append]

theorem planRounds_cons (hb : plan k b = some asked)
    (hbs : planRounds apply plan bs (asked.foldl apply k) = some (asked', k')) :
    planRounds apply plan (b :: bs) k = some (asked ++ asked', k') := by
  simp [planRounds, hb, hbs]

/-- What the plan of every round keeps is kept by all of them. -/
theorem planRounds_keeps {P : κ → Prop}
    (hround : ∀ b ∈ bs, ∀ k asked, P k → plan k b = some asked → P (asked.foldl apply k))
    (h : planRounds apply plan bs k = some (asked, k')) (hk : P k) : P k' := by
  induction bs generalizing k asked with
  | nil =>
      cases h
      exact hk
  | cons b bs ih =>
      simp only [planRounds, Option.bind_eq_bind, Option.bind_eq_some_iff] at h
      obtain ⟨first, hfirst, ⟨rest, k''⟩, hrest, heq⟩ := h
      cases heq
      exact ih (fun b hb => hround b (List.mem_cons_of_mem _ hb)) hrest
        (hround b List.mem_cons_self k first hk hfirst)

/-- The words that carry out the plans of all rounds. -/
def carriesOutRounds (apply : κ → ρ → κ) (plan : κ → β → Option (List ρ)) (bs : List β) (k : κ) :
    Language (ρ × Int) :=
  { w | ∃ asked k', planRounds apply plan bs k = some (asked, k') ∧ w = answered asked }

/-- The first round may begin in other states than the ones after it. -/
theorem traces_planRounds_cons {pre inv : σ → Prop} {f : β → Prog σ PUnit}
    {plan : κ → β → Option (List ρ)} {cut : κ → β → Language (ρ × Int)}
    (hb : v.Traces (fun s => pre s ∧ v.server s = k) (f b) (carriesOut (plan k b)) (cut k b)
      fun _ => inv)
    (hbs : ∀ k, v.Traces (fun s => inv s ∧ v.server s = k) (forM bs f)
      (carriesOutRounds v.apply plan bs k) (leftIn v.apply plan cut bs k) fun _ => inv) :
    v.Traces (fun s => pre s ∧ v.server s = k) (forM (b :: bs) f)
      (carriesOutRounds v.apply plan (b :: bs) k) (leftIn v.apply plan cut (b :: bs) k)
      fun _ => inv := by
  intro s hs
  obtain ⟨new, hsent, hnew⟩ := hb s hs
  have hleft : ∀ stop ∈ cut k b, stop ∈ leftIn v.apply plan cut (b :: bs) k :=
    fun stop hstop => ⟨[], b, bs, [], k, rfl, rfl, stop, hstop, rfl⟩
  rw [List.forM_cons]
  cases hrun : (f b).run s with
  | mk exit s' =>
    rw [hrun] at hsent hnew
    cases exit with
    | ok a =>
        obtain ⟨_, -, ⟨asked, hplan, rfl⟩, hinv⟩ := hnew.resolve_right fun h => h.1 a rfl
        have hserver : v.server s' = asked.foldl v.apply k := by
          rw [hsent.2, accepted_answered, hs.2]
        obtain ⟨new', hsent', hnew'⟩ := hbs _ s' ⟨hinv, hserver⟩
        rw [Prog.run_bind_ok hrun]
        refine ⟨_, hsent.trans hsent', ?_⟩
        rcases hnew' with ⟨u, hu, ⟨asked', k', hrest, rfl⟩, hinv'⟩ | ⟨hno, hcut⟩
        · refine .inl ⟨u, hu, ⟨asked ++ asked', k', planRounds_cons hplan hrest, ?_⟩, hinv'⟩
          rw [answered_append]
        · obtain ⟨before, c, after, asked', k', rfl, hbefore, stop, hstop, rfl⟩ := hcut
          refine .inr ⟨hno, b :: before, c, after, asked ++ asked', k', rfl,
            planRounds_cons hplan hbefore, stop, hstop, ?_⟩
          rw [answered_append, List.append_assoc]
    | error =>
        rw [Prog.run_bind_error hrun]
        exact ⟨new, hsent, .inr ⟨nofun, hleft new (hnew.resolve_left (by simp)).2⟩⟩
    | crash =>
        rw [Prog.run_bind_crash hrun]
        exact ⟨new, hsent, .inr ⟨nofun, hleft new (hnew.resolve_left (by simp)).2⟩⟩

/-- A loop whose rounds carry out their plans carries out all of them, or is
left in one of the rounds. -/
theorem traces_planRounds {inv : σ → Prop} {f : β → Prog σ PUnit}
    {plan : κ → β → Option (List ρ)} {cut : κ → β → Language (ρ × Int)}
    (hf : ∀ b ∈ bs, ∀ k, v.Traces (fun s => inv s ∧ v.server s = k) (f b)
      (carriesOut (plan k b)) (cut k b) fun _ => inv) (k : κ) :
    v.Traces (fun s => inv s ∧ v.server s = k) (forM bs f)
      (carriesOutRounds v.apply plan bs k) (leftIn v.apply plan cut bs k) fun _ => inv := by
  induction bs generalizing k with
  | nil =>
      intro s hs
      exact ⟨[], v.sent_nil s, .inl ⟨⟨⟩, rfl, ⟨[], k, rfl, rfl⟩, hs.1⟩⟩
  | cons b bs ih =>
      exact traces_planRounds_cons (hf b List.mem_cons_self k)
        (ih fun b hb => hf b (List.mem_cons_of_mem _ hb))

/-- A round that keeps an invariant of the loop. -/
theorem Attempts.round {inv : σ → Prop} {p : Prog σ α} {plan : Option (List ρ)}
    (h : v.Attempts inv p plan) (hp : Prog.Preserves inv p) (k : κ) :
    v.Traces (fun s => inv s ∧ v.server s = k) p (carriesOut plan) (stops plan) fun _ => inv := by
  intro s hs
  obtain ⟨new, hsent, hnew⟩ := h s hs.1
  refine ⟨new, hsent, hnew.imp_left fun ⟨a, ha, hfull, _⟩ => ⟨a, ha, hfull, ?_⟩⟩
  exact hp s hs.1 (by simp [ha])

end Rounds

end Requests.Link
