import SysrepoInterfaces.Lib.Counted
import SysrepoInterfaces.Lib.Requests

/-!
# SysrepoInterfaces.Lib.Delivery

Loops that send one request a round and stop at the first one refused.  The
n-th request is answered by `answer n`; a round may also stop before its
request, when one of its calls fails or its element is not usable.

* `upToRefusal` — a plan with its answers, up to the first refusal;
* `ready` — the elements of a loop whose rounds come to their requests;
* `Link.SendsOnce` — a round;
* `Link.sends_forM` — the loop.
-/

namespace Requests

open CProg Counted

variable {σ β ρ κ : Type}

/-! ## answered plans -/

/-- The requests of a plan with their answers, the first one being the n-th,
up to and including the first one refused. -/
def upToRefusal (answer : Nat → Int) : Nat → List ρ → List (ρ × Int)
  | _, [] => []
  | n, r :: rs => (r, answer n) :: if answer n = 0 then upToRefusal answer (n + 1) rs else []

/-! ## rounds that come to their request -/

instance (lib : Nat → Bool) (n k : Nat) : Decidable (AllGood lib n k) :=
  inferInstanceAs (Decidable (∀ i < k, lib (n + i) = true))

/-- The elements up to the first one that is not usable, or whose calls do not
all succeed; the calls are numbered from `n` on. -/
def ready (lib : Nat → Bool) (calls : β → Nat) (usable : β → Bool) : Nat → List β → List β
  | _, [] => []
  | n, b :: bs =>
      if AllGood lib n (calls b) ∧ usable b then b :: ready lib calls usable (n + calls b) bs
      else []

/-- When no call fails, only the elements matter. -/
theorem ready_of_lib {lib : Nat → Bool} (hlib : ∀ n, lib n = true) (calls : β → Nat)
    (usable : β → Bool) (n : Nat) (bs : List β) :
    ready lib calls usable n bs = bs.takeWhile usable := by
  induction bs generalizing n with
  | nil => rfl
  | cons b bs ih =>
      have hgood : AllGood lib n (calls b) := fun i _ => hlib (n + i)
      rw [ready, List.takeWhile_cons, ih]
      cases usable b <;> simp [hgood]

namespace Link

theorem sent_of_unchanged {v : Link σ ρ κ} {s s' : σ} (h : v.Unchanged s s') : v.Sent s s' [] :=
  ⟨h.1.trans (List.append_nil _).symm, h.2⟩

variable (v : Link σ ρ κ) (calls : σ → Nat) (lib : Nat → Bool) (answer : Nat → Int)

/-- `p` makes `k` calls and sends `r`, and ends normally when it is accepted;
when a call fails or `usable` is false it leaves before. -/
structure SendsOnce (p : Prog σ PUnit) (k : Nat) (usable : Bool) (r : ρ) : Prop where
  ready : ∀ s, AllGood lib (calls s) k ∧ usable → ∃ s',
    p.run s = (if answer (v.log s).length = 0 then .ok ⟨⟩ else .error, s') ∧
      calls s' = calls s + k ∧ v.Sent s s' [(r, answer (v.log s).length)]
  stuck : ∀ s, ¬ (AllGood lib (calls s) k ∧ usable) → ∃ s',
    p.run s = (.error, s') ∧ v.Sent s s' []

variable {v calls lib answer}

/-- A loop of such rounds sends the requests of the elements that are ready, up
to the first refusal; it comes to its end when all requests were sent and
accepted. -/
theorem sends_forM {f : β → Prog σ PUnit} {k : β → Nat} {usable : β → Bool} {request : β → ρ}
    (hf : ∀ b, v.SendsOnce calls lib answer (f b) (k b) (usable b) (request b)) (bs : List β)
    (s : σ) : ∃ x s' new, (forM bs f).run s = (x, s') ∧ v.Sent s s' new ∧
      new = upToRefusal answer (v.log s).length
        ((ready lib k usable (calls s) bs).map request) ∧
      (x = .ok ⟨⟩ ∨ x = .error) ∧ (x = .ok ⟨⟩ ↔ new = bs.map fun b => (request b, 0)) := by
  induction bs generalizing s with
  | nil => exact ⟨_, s, [], rfl, v.sent_nil s, rfl, .inl rfl, by simp⟩
  | cons b bs ih =>
      rw [List.forM_cons, Requests.ready]
      by_cases hready : AllGood lib (calls s) (k b) ∧ usable b = true
      · obtain ⟨s₁, hrun, hcalls, hsent⟩ := (hf b).ready s hready
        rw [if_pos hready, List.map_cons, upToRefusal]
        by_cases hanswer : answer (v.log s).length = 0
        · rw [if_pos hanswer] at hrun
          obtain ⟨x, s₂, new, hrun', hsent', hnew, hexit, hall⟩ := ih s₁
          rw [hsent.1, List.length_append, List.length_singleton, hcalls] at hnew
          refine ⟨x, s₂, _, (Prog.run_bind_ok hrun).trans hrun', hsent.trans hsent', ?_, hexit, ?_⟩
          · rw [if_pos hanswer, hnew]
            rfl
          · rw [hall, List.map_cons, hanswer]
            simp
        · rw [if_neg hanswer] at hrun
          refine ⟨_, s₁, _, Prog.run_bind_error hrun, hsent, ?_, .inr rfl, ?_⟩
          · rw [if_neg hanswer]
          · simp [hanswer]
      · obtain ⟨s₁, hrun, hsent⟩ := (hf b).stuck s hready
        rw [if_neg hready]
        exact ⟨_, s₁, [], Prog.run_bind_error hrun, hsent, rfl, .inr rfl, by simp⟩

end Link

end Requests
