import Mathlib.Algebra.BigOperators.Group.List.Basic
import Mathlib.Algebra.GroupWithZero.Nat
import SysrepoInterfaces.Lib.CProg

/-!
# SysrepoInterfaces.Lib.Counted

Programs whose only source of failure is a sequence of numbered calls: the
n-th call succeeds when the oracle says so, and the program leaves through
`error_out` at the first one that does not.

`Exact p k Q` says all there is to such a program: it makes `k` calls and its
value meets `Q`, or one of the `k` calls fails, the program leaves, and the
failure is on record.
-/

namespace Counted

open CProg

variable {σ ρ α β : Type}

/-- Where a state counts the calls and records a failure, and what calls leave
alone in it. -/
structure Ledger (σ ρ : Type) where
  calls : σ → Nat
  failed : σ → Bool
  rest : σ → ρ

/-- The `k` calls from the n-th on succeed. -/
def AllGood (lib : Nat → Bool) (n k : Nat) : Prop := ∀ i < k, lib (n + i) = true

theorem allGood_zero (lib : Nat → Bool) (n : Nat) : AllGood lib n 0 :=
  fun _ hi => absurd hi (Nat.not_lt_zero _)

theorem allGood_one {lib : Nat → Bool} {n : Nat} : AllGood lib n 1 ↔ lib n = true := by
  constructor
  · intro h
    exact h 0 Nat.one_pos
  · intro h i hi
    obtain rfl : i = 0 := by omega
    exact h

/-- A run of calls is good when its two parts are. -/
theorem allGood_add {lib : Nat → Bool} {n k m : Nat} :
    AllGood lib n (k + m) ↔ AllGood lib n k ∧ AllGood lib (n + k) m := by
  constructor
  · intro h
    refine ⟨fun i hi => h i (by omega), fun i hi => ?_⟩
    have := h (k + i) (by omega)
    rwa [← Nat.add_assoc] at this
  · rintro ⟨hk, hm⟩ i hi
    by_cases hik : i < k
    · exact hk i hik
    · have := hm (i - k) (by omega)
      rwa [show n + k + (i - k) = n + i by omega] at this

/-- Not every call of the run is good when one of them fails. -/
theorem not_allGood {lib : Nat → Bool} {n k : Nat} :
    ¬ AllGood lib n k ↔ ∃ i < k, lib (n + i) = false := by
  simp [AllGood]

namespace Ledger

variable (v : Ledger σ ρ) (lib : Nat → Bool)

/-- `p` makes `k` calls and returns a value that meets `Q`, unless one of them
fails. -/
def Exact (p : Prog σ α) (k : Nat) (Q : α → Prop) : Prop :=
  ∀ s,
    (AllGood lib (v.calls s) k → ∃ a s', p.run s = (.ok a, s') ∧ Q a ∧
      v.calls s' = v.calls s + k ∧ v.failed s' = v.failed s ∧ v.rest s' = v.rest s) ∧
    (¬ AllGood lib (v.calls s) k → ∃ s', p.run s = (.error, s') ∧ v.failed s' = true)

variable {v lib} {Q : α → Prop} {k : Nat}

theorem exact_pure {a : α} (ha : Q a) : v.Exact lib (pure a : Prog σ α) 0 Q := by
  intro s
  have hgood : AllGood lib (v.calls s) 0 := allGood_zero lib (v.calls s)
  constructor
  · intro _
    exact ⟨a, s, rfl, ha, rfl, rfl, rfl⟩
  · intro hbad
    exact absurd hgood hbad

/-- In sequence the calls add up. -/
theorem Exact.bind {p : Prog σ α} {f : α → Prog σ β} {m : Nat} {Q' : β → Prop}
    (hp : v.Exact lib p k Q) (hf : ∀ a, Q a → v.Exact lib (f a) m Q') :
    v.Exact lib (p >>= f) (k + m) Q' := by
  intro s
  rw [allGood_add]
  constructor
  · intro ⟨hk, hm⟩
    obtain ⟨a, s₁, hrun, ha, hcalls, hfailed, hrest⟩ := (hp s).1 hk
    obtain ⟨b, s₂, hrun', hb, hcalls', hfailed', hrest'⟩ := (hf a ha s₁).1 (hcalls ▸ hm)
    have hsum : v.calls s₂ = v.calls s + (k + m) := by omega
    exact ⟨b, s₂, (Prog.run_bind_ok hrun).trans hrun', hb, hsum, hfailed'.trans hfailed,
      hrest'.trans hrest⟩
  · intro hbad
    by_cases hk : AllGood lib (v.calls s) k
    · obtain ⟨a, s₁, hrun, ha, hcalls, -⟩ := (hp s).1 hk
      have hm : ¬ AllGood lib (v.calls s₁) m := fun hm => hbad ⟨hk, hcalls ▸ hm⟩
      obtain ⟨s₂, hrun', hfailed'⟩ := (hf a ha s₁).2 hm
      exact ⟨s₂, (Prog.run_bind_ok hrun).trans hrun', hfailed'⟩
    · obtain ⟨s₁, hrun, hfailed⟩ := (hp s).2 hk
      exact ⟨s₁, Prog.run_bind_error hrun, hfailed⟩

/-- What is known of the value may be weakened, and the count rewritten. -/
theorem Exact.imp {p : Prog σ α} {m : Nat} {Q' : α → Prop} (hp : v.Exact lib p k Q)
    (hk : k = m) (hQ : ∀ a, Q a → Q' a) : v.Exact lib p m Q' := by
  subst hk
  intro s
  refine ⟨fun hgood => ?_, (hp s).2⟩
  obtain ⟨a, s', hrun, ha, h⟩ := (hp s).1 hgood
  exact ⟨a, s', hrun, hQ a ha, h⟩

/-- A loop makes the calls of its rounds, and keeps an invariant of the rounds
done. -/
theorem exact_foldlM {f : α → β → Prog σ α} {cost : β → Nat} {I : List β → α → Prop}
    {bs : List β}
    (hf : ∀ done a, ∀ b ∈ bs, I done a → v.Exact lib (f a b) (cost b) (I (done ++ [b])))
    {a : α} (ha : I [] a) : v.Exact lib (bs.foldlM f a) (bs.map cost).sum (I bs) := by
  suffices h : ∀ (todo done : List β) (a : α), (∀ b ∈ todo, b ∈ bs) → I done a →
      v.Exact lib (todo.foldlM f a) (todo.map cost).sum (I (done ++ todo)) from
    h bs [] a (fun _ hb => hb) ha
  intro todo
  induction todo with
  | nil =>
      intro done a _ ha
      rw [List.append_nil]
      exact exact_pure ha
  | cons b todo ih =>
      intro done a hmem ha
      rw [List.foldlM_cons, List.map_cons, List.sum_cons, List.append_cons]
      have hb := hf done a b (hmem b List.mem_cons_self) ha
      exact hb.bind fun a' ha' =>
        ih (done ++ [b]) a' (fun x hx => hmem x (List.mem_cons_of_mem _ hx)) ha'

/-- A loop returns what its last round does. -/
theorem exact_foldlM_last {f : β → Prog σ α} {cost : β → Nat} {bs : List β}
    (hf : ∀ b ∈ bs, v.Exact lib (f b) (cost b) Q) (hne : bs ≠ []) (a : α) :
    v.Exact lib (bs.foldlM (fun _ b => f b) a) (bs.map cost).sum Q := by
  have hround : ∀ done (a : α), ∀ b ∈ bs, (done ≠ [] → Q a) →
      v.Exact lib (f b) (cost b) fun a' => done ++ [b] ≠ [] → Q a' :=
    fun done a b hb _ => (hf b hb).imp rfl fun _ ha' _ => ha'
  have hstart : ([] : List β) ≠ [] → Q a := fun h => absurd rfl h
  have hloop := exact_foldlM (I := fun done a => done ≠ [] → Q a) hround hstart
  exact hloop.imp rfl fun _ h => h hne

/-- A loop that collects what its rounds return. -/
theorem exact_mapM {f : β → Prog σ α} {cost : β → Nat} {g : β → α} {bs : List β}
    (hf : ∀ b ∈ bs, v.Exact lib (f b) (cost b) fun a => a = g b) :
    v.Exact lib (bs.mapM f) (bs.map cost).sum fun as => as = bs.map g := by
  induction bs with
  | nil => exact exact_pure rfl
  | cons b bs ih =>
      rw [List.mapM_cons, List.map_cons, List.sum_cons, List.map_cons]
      have hrest := ih fun b hb => hf b (List.mem_cons_of_mem _ hb)
      refine (hf b List.mem_cons_self).bind fun a ha => ?_
      refine (hrest.bind fun as has => exact_pure ?_).imp (Nat.add_zero _) fun _ h => h
      rw [ha, has]

theorem exact_forM {f : β → Prog σ PUnit} {cost : β → Nat} {bs : List β}
    (hf : ∀ b ∈ bs, v.Exact lib (f b) (cost b) fun _ => True) :
    v.Exact lib (forM bs f) (bs.map cost).sum fun _ => True := by
  induction bs with
  | nil => exact exact_pure trivial
  | cons b bs ih =>
      rw [List.forM_cons, List.map_cons, List.sum_cons]
      have hb := hf b List.mem_cons_self
      exact hb.bind fun _ _ => ih fun b hb => hf b (List.mem_cons_of_mem _ hb)

end Ledger

end Counted
