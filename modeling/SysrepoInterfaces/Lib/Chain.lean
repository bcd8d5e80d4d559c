import Mathlib.Data.Fintype.Card
import Mathlib.Data.List.Nodup
import Mathlib.Data.Set.Finite.List
import Mathlib.Logic.Relation

/-!
# SysrepoInterfaces.Lib.Chain

Walks along a partial function `next` that end where it is undefined.  Inside a
finite list that `next` does not lead out of, and without a cycle, every walk
ends, and it visits each element after its start once.
-/

namespace Chain

open Relation

variable {α : Type} {next : α → Option α} {x y : α} {l : List α}

/-- One step of a walk. -/
def Step (next : α → Option α) (x y : α) : Prop := next x = some y

/-- The walk from `x` visits `l` and ends. -/
inductive Walk (next : α → Option α) : α → List α → Prop
  | stop {x : α} (h : next x = none) : Walk next x []
  | step {x y : α} {l : List α} (h : next x = some y) (hl : Walk next y l) :
      Walk next x (y :: l)

/-- A walk visits what can be reached. -/
theorem Walk.mem_iff (h : Walk next x l) : y ∈ l ↔ TransGen (Step next) x y := by
  induction h with
  | stop hnone =>
      constructor
      · intro hmem
        cases hmem
      · intro hreach
        obtain ⟨z, hstep, -⟩ := TransGen.head'_iff.mp hreach
        rw [Step, hnone] at hstep
        cases hstep
  | @step x z l hnext hl ih =>
      rw [List.mem_cons, ih]
      constructor
      · rintro (rfl | hreach)
        · exact .single hnext
        · exact .head hnext hreach
      · intro hreach
        obtain ⟨z', hstep, hrest⟩ := TransGen.head'_iff.mp hreach
        obtain rfl : z = z' := Option.some.inj (hnext.symm.trans hstep)
        rcases reflTransGen_iff_eq_or_transGen.mp hrest with rfl | hreach
        · exact .inl rfl
        · exact .inr hreach

/-- No element of the list can be reached from itself. -/
def Acyclic (next : α → Option α) (elements : List α) : Prop :=
  ∀ x ∈ elements, ¬ TransGen (Step next) x x

/-- The list is not left. -/
def Closed (next : α → Option α) (elements : List α) : Prop :=
  ∀ x ∈ elements, ∀ y, next x = some y → y ∈ elements

variable {elements : List α}

theorem lt_of_transGen {rank : α → Nat} (hx : x ∈ elements)
    (h : ∀ x ∈ elements, ∀ y ∈ next x, y ∈ elements ∧ rank y < rank x)
    (hreach : TransGen (Step next) x y) : y ∈ elements ∧ rank y < rank x := by
  induction hreach with
  | single hstep => exact h x hx _ hstep
  | tail _ hstep ih =>
      obtain ⟨hmem, hlt⟩ := h _ ih.1 _ hstep
      exact ⟨hmem, Nat.lt_trans hlt ih.2⟩

/-- A rank that decreases with every step rules out a cycle. -/
theorem acyclic_of_rank (rank : α → Nat)
    (h : ∀ x ∈ elements, ∀ y ∈ next x, y ∈ elements ∧ rank y < rank x) :
    Acyclic next elements := by
  intro x hx hreach
  exact Nat.lt_irrefl _ (lt_of_transGen hx h hreach).2

/-- No element is visited twice. -/
theorem Walk.nodup (h : Walk next x l) (hx : x ∈ elements) (hclosed : Closed next elements)
    (hacyclic : Acyclic next elements) : l.Nodup := by
  induction h with
  | stop _ => exact List.nodup_nil
  | @step x y l hnext hl ih =>
      have hy := hclosed x hx y hnext
      rw [List.nodup_cons]
      exact ⟨fun hmem => hacyclic y hy (hl.mem_iff.mp hmem), ih hy⟩

theorem Walk.subset (h : Walk next x l) (hx : x ∈ elements) (hclosed : Closed next elements) :
    l ⊆ elements := by
  induction h with
  | stop _ => exact List.nil_subset _
  | @step x y l hnext hl ih =>
      have hy := hclosed x hx y hnext
      exact List.cons_subset.mpr ⟨hy, ih hy⟩

/-- A walk is not longer than the list. -/
theorem Walk.length_le (h : Walk next x l) (hx : x ∈ elements) (hclosed : Closed next elements)
    (hacyclic : Acyclic next elements) : l.length ≤ elements.length :=
  ((h.nodup hx hclosed hacyclic).subperm (h.subset hx hclosed)).length_le

/-- Every walk ends. -/
theorem exists_walk (hx : x ∈ elements) (hclosed : Closed next elements)
    (hacyclic : Acyclic next elements) : ∃ l, Walk next x l := by
  let Later (y x : { x // x ∈ elements }) : Prop := TransGen (Step next) x.1 y.1
  have : IsTrans _ Later := ⟨fun _ _ _ hab hbc => hbc.trans hab⟩
  have : Std.Irrefl Later := ⟨fun x => hacyclic x.1 x.2⟩
  have : Finite { x // x ∈ elements } := List.finite_toSet elements
  have hwf : WellFounded Later := Finite.wellFounded_of_trans_of_irrefl Later
  suffices h : ∀ x : { x // x ∈ elements }, ∃ l, Walk next x.1 l from h ⟨x, hx⟩
  intro x
  induction x using hwf.induction with
  | _ x ih =>
      cases hnext : next x.1 with
      | none => exact ⟨[], .stop hnext⟩
      | some y =>
          obtain ⟨l, hl⟩ := ih ⟨y, hclosed x.1 x.2 y hnext⟩ (.single hnext)
          exact ⟨y :: l, .step hnext hl⟩

end Chain
