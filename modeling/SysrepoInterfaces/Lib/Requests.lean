import Mathlib.Computability.Language
import Mathlib.Data.List.Infix
import Mathlib.Order.CompletePartialOrder
import SysrepoInterfaces.Lib.CProg

/-!
# SysrepoInterfaces.Lib.Requests

Programs that change a server (a kernel, a database) by sending it requests.
The server carries out the requests it accepts and answers them with 0; a
request it refuses changes nothing.

* `Link` — where a program's state keeps the server and what was sent to it;
* `Link.Sent` — the requests sent between two states, whose accepted ones are
  all that happened to the server;
* `Link.Traces` — from which states a program sends what: a word of one language
  when it ends normally, a word of another when it leaves early;
* `Link.Follows` — a program that sends a plan in order: all of it, accepted,
  when it ends normally, and else the beginning of it, with at most the last
  request refused.
-/

namespace Requests

open CProg

variable {σ α β ρ κ : Type}

/-! ## answered requests -/

/-- The requests the server carried out, oldest first. -/
def accepted (sent : List (ρ × Int)) : List ρ :=
  (sent.filter fun x => x.2 = 0).map Prod.fst

@[simp] theorem accepted_nil : accepted ([] : List (ρ × Int)) = [] := rfl

theorem accepted_append (sent sent' : List (ρ × Int)) :
    accepted (sent ++ sent') = accepted sent ++ accepted sent' := by
  simp [accepted]

theorem accepted_of_all {sent : List (ρ × Int)} (h : ∀ x ∈ sent, x.2 = 0) :
    accepted sent = sent.map Prod.fst := by
  rw [accepted, List.filter_eq_self.mpr fun x hx => decide_eq_true (h x hx)]

/-- The beginning of a plan, cut short by a refusal of its last request or by
something else. -/
def CutShort (sent : List (ρ × Int)) (plan : List ρ) : Prop :=
  sent.map Prod.fst <+: plan ∧ ∀ x ∈ sent.dropLast, x.2 = 0

theorem CutShort.append {sent : List (ρ × Int)} {plan : List ρ} (h : CutShort sent plan)
    (plan' : List ρ) : CutShort sent (plan ++ plan') :=
  ⟨h.1.trans (List.prefix_append ..), h.2⟩

theorem CutShort.after {sent sent' : List (ρ × Int)} {plan' : List ρ} (h : CutShort sent' plan')
    (hall : ∀ x ∈ sent, x.2 = 0) : CutShort (sent ++ sent') (sent.map Prod.fst ++ plan') := by
  constructor
  · rw [List.map_append]
    exact (List.prefix_append_right_inj _).mpr h.1
  · intro x hx
    cases hs : sent' with
    | nil =>
        rw [hs, List.append_nil] at hx
        exact hall x (List.mem_of_mem_dropLast hx)
    | cons y ys =>
        rw [List.dropLast_append_of_ne_nil (by simp [hs])] at hx
        exact (List.mem_append.mp hx).elim (hall x) (h.2 x)

/-! ## a state with a server -/

/-- Where a state keeps the server and the log of requests, and what the
server does with a request it accepts. -/
structure Link (σ ρ κ : Type) where
  server : σ → κ
  log : σ → List (ρ × Int)
  apply : κ → ρ → κ

namespace Link

variable (v : Link σ ρ κ)

/-- From `s` to `s'` the requests `new` were sent, and nothing but the
accepted ones happened to the server. -/
def Sent (s s' : σ) (new : List (ρ × Int)) : Prop :=
  v.log s' = v.log s ++ new ∧ v.server s' = (accepted new).foldl v.apply (v.server s)

theorem sent_nil (s : σ) : v.Sent s s [] := ⟨(List.append_nil _).symm, rfl⟩

variable {v}

theorem Sent.trans {s s' s'' : σ} {new new' : List (ρ × Int)} (h : v.Sent s s' new)
    (h' : v.Sent s' s'' new') : v.Sent s s'' (new ++ new') := by
  constructor
  · rw [h'.1, h.1, List.append_assoc]
  · rw [h'.2, h.2, accepted_append, List.foldl_append]

variable (v)

/-! ## quiet programs -/

/-- Nothing is sent, and the server stays as it is. -/
def Unchanged (s s' : σ) : Prop := v.log s' = v.log s ∧ v.server s' = v.server s

instance : IsPreorder σ v.Unchanged where
  refl _ := ⟨rfl, rfl⟩
  trans _ _ _ h h' := ⟨h'.1.trans h.1, h'.2.trans h.2⟩

/-- A program that sends no requests. -/
def Quiet (p : Prog σ α) : Prop := Prog.Within v.Unchanged p

/-- A program that sends one request and returns the answer. -/
def Sends (p : Prog σ Int) (r : ρ) : Prop :=
  ∀ s, ∃ answer s', p.run s = (.ok answer, s') ∧ v.Sent s s' [(r, answer)]

/-! ## traces -/

/-- From a state in `pre` the program ends normally, having sent a word of
`full`, in a state in `post`, or leaves early, having sent a word of `cut`. -/
def Traces (pre : σ → Prop) (p : Prog σ α) (full cut : Language (ρ × Int))
    (post : α → σ → Prop) : Prop :=
  ∀ s, pre s → ∃ new, v.Sent s (p.run s).2 new ∧
    ((∃ a, (p.run s).1 = .ok a ∧ new ∈ full ∧ post a (p.run s).2) ∨
      (∀ a, (p.run s).1 ≠ .ok a) ∧ new ∈ cut)

variable {v}

section Traces

variable {pre : σ → Prop} {p : Prog σ α} {full cut full' cut' : Language (ρ × Int)}
  {post : α → σ → Prop}

theorem Traces.weaken {post' : α → σ → Prop} (h : v.Traces pre p full cut post)
    (hfull : full ≤ full') (hcut : cut ≤ cut') (hpost : ∀ a s, post a s → post' a s) :
    v.Traces pre p full' cut' post' := by
  intro s hs
  obtain ⟨new, hsent, hnew⟩ := h s hs
  refine ⟨new, hsent, ?_⟩
  rcases hnew with ⟨a, hrun, hmem, ha⟩ | ⟨hno, hmem⟩
  · exact .inl ⟨a, hrun, hfull hmem, hpost _ _ ha⟩
  · exact .inr ⟨hno, hcut hmem⟩

theorem Traces.of_pre {pre' : σ → Prop} (h : v.Traces pre p full cut post)
    (hpre : ∀ s, pre' s → pre s) : v.Traces pre' p full cut post := fun s hs => h s (hpre s hs)

/-- A quiet program sends the empty word. -/
theorem Quiet.traces (h : v.Quiet p)
    (hpost : ∀ s a s', pre s → p.run s = (.ok a, s') → post a s') : v.Traces pre p 1 1 post := by
  intro s hs
  obtain ⟨hlog, hserver⟩ := h s
  refine ⟨[], ⟨hlog.trans (List.append_nil _).symm, hserver⟩, ?_⟩
  cases hrun : p.run s with
  | mk exit s' =>
    cases exit with
    | ok a => exact .inl ⟨a, rfl, Language.nil_mem_one, hpost s a s' hs hrun⟩
    | error => exact .inr ⟨nofun, Language.nil_mem_one⟩
    | crash => exact .inr ⟨nofun, Language.nil_mem_one⟩

/-- The request was accepted. -/
def taken (r : ρ) : Language (ρ × Int) := { [(r, 0)] }

/-- The request was refused. -/
def refused (r : ρ) : Language (ρ × Int) := { w | ∃ answer, answer ≠ 0 ∧ w = [(r, answer)] }

/-- A request that has to be accepted. -/
theorem Sends.traces {p : Prog σ Int} {r : ρ} {post : Unit → σ → Prop} (h : v.Sends p r)
    (hpost : ∀ s s', pre s → v.Sent s s' [(r, 0)] → p.run s = (.ok 0, s') → post () s') :
    v.Traces pre p.require (taken r) (refused r) post := by
  intro s hs
  obtain ⟨answer, s', hrun, hsent⟩ := h s
  by_cases hanswer : answer = 0
  · subst hanswer
    rw [Prog.run_require_of_zero hrun]
    exact ⟨_, hsent, .inl ⟨(), rfl, rfl, hpost s s' hs hsent hrun⟩⟩
  · rw [Prog.run_require_of_ne hrun hanswer]
    exact ⟨_, hsent, .inr ⟨nofun, answer, hanswer, rfl⟩⟩

/-- In sequence a word of the second program comes after a full word of the
first. -/
theorem Traces.bind {f : α → Prog σ β} {mid : α → σ → Prop} {post : β → σ → Prop}
    (hp : v.Traces pre p full cut mid) (hf : ∀ a, v.Traces (mid a) (f a) full' cut' post) :
    v.Traces pre (p >>= f) (full * full') (cut + full * cut') post := by
  intro s hs
  obtain ⟨new, hsent, hnew⟩ := hp s hs
  cases hrun : p.run s with
  | mk exit s' =>
    rw [hrun] at hsent hnew
    cases exit with
    | ok a =>
        obtain ⟨_, hok, hfull, hmid⟩ := hnew.resolve_right fun h => h.1 a rfl
        cases hok
        obtain ⟨new', hsent', hnew'⟩ := hf a s' hmid
        rw [Prog.run_bind_ok hrun]
        refine ⟨new ++ new', hsent.trans hsent', ?_⟩
        rcases hnew' with ⟨b, hb, hfull', hpost⟩ | ⟨hno, hcut'⟩
        · exact .inl ⟨b, hb, Language.append_mem_mul hfull hfull', hpost⟩
        · exact .inr ⟨hno, .inr (Language.append_mem_mul hfull hcut')⟩
    | error =>
        rw [Prog.run_bind_error hrun]
        exact ⟨new, hsent, .inr ⟨nofun, .inl (hnew.resolve_left (by simp)).2⟩⟩
    | crash =>
        rw [Prog.run_bind_crash hrun]
        exact ⟨new, hsent, .inr ⟨nofun, .inl (hnew.resolve_left (by simp)).2⟩⟩

/-- A quiet beginning adds nothing to a program that may be left before it
sends anything. -/
theorem Traces.quiet_bind {f : α → Prog σ β} {mid : α → σ → Prop} {post : β → σ → Prop}
    (hp : v.Quiet p) (hmid : ∀ s a s', pre s → p.run s = (.ok a, s') → mid a s')
    (hf : ∀ a, v.Traces (mid a) (f a) full cut post) (hnil : [] ∈ cut) :
    v.Traces pre (p >>= f) full cut post := by
  have hseq := (hp.traces hmid).bind hf
  rw [one_mul, one_mul] at hseq
  refine hseq.weaken le_rfl ?_ fun _ _ => id
  rintro w (rfl | hw)
  · exact hnil
  · exact hw

/-- What stands under the `out` label sends nothing. -/
theorem Traces.out {f : σ → σ} {post' : α → σ → Prop} (h : v.Traces pre p full cut post)
    (hf : ∀ s, v.Unchanged s (f s)) (hpost : ∀ a s, post a s → post' a (f s)) :
    v.Traces pre (p.out f) full cut post' := by
  intro s hs
  obtain ⟨new, hsent, hnew⟩ := h s hs
  rw [Prog.run_out]
  cases hrun : p.run s with
  | mk exit s' =>
    rw [hrun] at hsent hnew
    have hsent' : v.Sent s (f s') new :=
      ⟨(hf s').1.trans hsent.1, (hf s').2.trans hsent.2⟩
    cases exit with
    | ok a =>
        obtain ⟨_, hok, hfull, ha⟩ := hnew.resolve_right fun h => h.1 a rfl
        cases hok
        exact ⟨new, hsent', .inl ⟨a, rfl, hfull, hpost a s' ha⟩⟩
    | error => exact ⟨new, hsent', .inr ⟨nofun, (hnew.resolve_left (by simp)).2⟩⟩
    | crash => exact ⟨new, hsent, .inr ⟨nofun, (hnew.resolve_left (by simp)).2⟩⟩

/-- What a run that ends normally has sent. -/
theorem Traces.of_ok (h : v.Traces pre p full cut post) {s s' : σ} {a : α} (hs : pre s)
    (hrun : p.run s = (.ok a, s')) : ∃ new ∈ full, v.Sent s s' new ∧ post a s' := by
  obtain ⟨new, hsent, hnew⟩ := h s hs
  rw [hrun] at hsent hnew
  obtain ⟨_, hok, hfull, hpost⟩ := hnew.resolve_right fun h => h.1 a rfl
  cases hok
  exact ⟨new, hfull, hsent, hpost⟩

/-- What a run that leaves through `error_out` has sent. -/
theorem Traces.of_error (h : v.Traces pre p full cut post) {s s' : σ} (hs : pre s)
    (hrun : p.run s = (.error, s')) : ∃ new ∈ cut, v.Sent s s' new := by
  obtain ⟨new, hsent, hnew⟩ := h s hs
  rw [hrun] at hsent hnew
  exact ⟨new, (hnew.resolve_left (by simp)).2, hsent⟩

end Traces

/-! ## programs that follow a plan -/

/-- The words of a language as carried out. -/
def carriedOut (plans : Language ρ) : Language (ρ × Int) :=
  { new | new.map Prod.fst ∈ plans ∧ ∀ x ∈ new, x.2 = 0 }

theorem carriedOut_mul_le (plans plans' : Language ρ) :
    carriedOut plans * carriedOut plans' ≤ carriedOut (plans * plans') := by
  intro w hw
  obtain ⟨new, hnew, new', hnew', rfl⟩ := Language.mem_mul.mp hw
  constructor
  · rw [List.map_append]
    exact Language.append_mem_mul hnew.1 hnew'.1
  · intro x hx
    exact (List.mem_append.mp hx).elim (hnew.2 x) (hnew'.2 x)

/-- The plan as carried out. -/
def exactly (plan : List ρ) : Language (ρ × Int) := carriedOut {plan}

/-- The plan, cut short. -/
def cutShort (plan : List ρ) : Language (ρ × Int) := { new | CutShort new plan }

variable (v)

/-- `p` sends the requests of `plan`. -/
def Follows (p : Prog σ α) (plan : List ρ) : Prop :=
  v.Traces (fun _ => True) p (exactly plan) (cutShort plan) fun _ _ => True

variable {v}

theorem Quiet.follows_nil {p : Prog σ α} (h : v.Quiet p) : v.Follows p [] := by
  refine (Quiet.traces h fun _ _ _ _ _ => trivial).weaken ?_ ?_ fun _ _ => id
  · rintro _ rfl
    exact ⟨rfl, by simp⟩
  · rintro _ rfl
    exact ⟨List.nil_prefix, by simp⟩

theorem follows_pure (a : α) : v.Follows (pure a : Prog σ α) [] :=
  Quiet.follows_nil (Prog.within_pure a)

/-- A request that has to be accepted is a plan. -/
theorem Sends.follows {p : Prog σ Int} {r : ρ} (h : v.Sends p r) : v.Follows p.require [r] := by
  refine (h.traces fun _ _ _ _ _ => trivial).weaken ?_ ?_ fun _ _ => id
  · rintro _ rfl
    exact ⟨rfl, by simp⟩
  · rintro _ ⟨answer, -, rfl⟩
    exact ⟨List.prefix_refl _, by simp⟩

/-- In sequence the second plan comes after the first; it may rest on what the
first program returned. -/
theorem Follows.bind {p : Prog σ α} {f : α → Prog σ β} {plan plan' : List ρ}
    (hp : v.Follows p plan)
    (hf : ∀ s a s', p.run s = (.ok a, s') → v.Follows (f a) plan') :
    v.Follows (p >>= f) (plan ++ plan') := by
  have hrun : v.Traces (fun _ => True) p (exactly plan) (cutShort plan)
      fun a s' => ∃ s, p.run s = (.ok a, s') := by
    intro s hs
    obtain ⟨new, hsent, hnew⟩ := hp s hs
    refine ⟨new, hsent, hnew.imp_left fun ⟨a, ha, hfull, _⟩ => ⟨a, ha, hfull, s, ?_⟩⟩
    rw [← ha]
  have hseq := hrun.bind fun a => show v.Traces _ (f a) (exactly plan') (cutShort plan')
    fun _ _ => True from fun s' ⟨s, hs⟩ => hf s a s' hs s' trivial
  refine hseq.weaken ?_ ?_ fun _ _ => id
  · have hplans : ({plan} * {plan'} : Language ρ) = {plan ++ plan'} := Set.image2_singleton
    have hmul := carriedOut_mul_le ({plan} : Language ρ) {plan'}
    rw [hplans] at hmul
    exact hmul
  · rintro w (hw | hw)
    · exact CutShort.append hw plan'
    · obtain ⟨new, hnew, new', hnew', rfl⟩ := Language.mem_mul.mp hw
      have hafter : CutShort (new ++ new') (new.map Prod.fst ++ plan') :=
        CutShort.after hnew' hnew.2
      rw [show new.map Prod.fst = plan from hnew.1] at hafter
      exact hafter

/-- A loop follows the plans of its rounds one after the other. -/
theorem follows_forM {f : β → Prog σ PUnit} {plan : β → List ρ}
    (hf : ∀ b, v.Follows (f b) (plan b)) (bs : List β) :
    v.Follows (forM bs f) (bs.flatMap plan) := by
  induction bs with
  | nil => exact follows_pure _
  | cons b bs ih =>
      rw [List.forM_cons, List.flatMap_cons]
      exact (hf b).bind fun _ _ _ _ => ih

/-- A run that ends normally carried out the whole plan. -/
theorem Follows.server_eq {p : Prog σ α} {plan : List ρ} (h : v.Follows p plan) {s s' : σ} {a : α}
    (hrun : p.run s = (.ok a, s')) : v.server s' = plan.foldl v.apply (v.server s) := by
  obtain ⟨new, hnew, hsent, -⟩ := h.of_ok trivial hrun
  rw [hsent.2, accepted_of_all hnew.2, show new.map Prod.fst = plan from hnew.1]

/-- A run that leaves early carried out the accepted beginning of the plan. -/
theorem Follows.cutShort {p : Prog σ α} {plan : List ρ} (h : v.Follows p plan) {s s' : σ}
    (hrun : p.run s = (.error, s')) : ∃ new, v.Sent s s' new ∧ CutShort new plan := by
  obtain ⟨new, hnew, hsent⟩ := h.of_error trivial hrun
  exact ⟨new, hsent, hnew⟩

end Link

end Requests
