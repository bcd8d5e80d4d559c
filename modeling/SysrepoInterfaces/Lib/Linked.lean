import Mathlib.Data.List.Nodup
import Mathlib.Data.List.Range
import SysrepoInterfaces.Lib.CProg

/-!
# SysrepoInterfaces.Lib.Linked

Singly linked lists in memory, after `utlist.h`.  Cells are allocated one after
the other and stay where they are; a pointer is the place of a cell, or `none`
for `NULL`.

* `Links` — where a cell has its pointer to the next one;
* `Path` — the cells on the way from one pointer to another;
* `llSearch`, `llWalk`, `llAppend`, `llPrepend` — the macros.  Their loops are
  given a number of rounds; on a list that ends, as many as there are cells are
  enough.
-/

namespace Linked

open CProg

/-- The link in a cell. -/
structure Links (ε : Type) where
  next : ε → Option Nat
  setNext : Option Nat → ε → ε
  next_setNext : ∀ p c, next (setNext p c) = p

variable {ε α : Type} (v : Links ε)

/-! ## the macros -/

/-- `LL_SEARCH`: the first cell that passes the test. -/
def llSearch (cells : List ε) (test : ε → Bool) : Nat → Option Nat → Exit (Option Nat)
  | _, none => .ok none
  | 0, some _ => .crash
  | rounds + 1, some i =>
      match cells[i]? with
      | none => .crash
      | some c => if test c then .ok (some i) else llSearch cells test rounds (v.next c)

/-- `LL_FOREACH`: the cells in order. -/
def llWalk (cells : List ε) : Nat → Option Nat → Exit (List Nat)
  | _, none => .ok []
  | 0, some _ => .crash
  | rounds + 1, some i =>
      match cells[i]? with
      | none => .crash
      | some c => do
          let rest ← llWalk cells rounds (v.next c)
          return i :: rest

/-- `while (tmp->next) tmp = tmp->next`. -/
def llLast (cells : List ε) : Nat → Nat → Exit Nat
  | 0, _ => .crash
  | rounds + 1, i =>
      match cells[i]? with
      | none => .crash
      | some c =>
          match v.next c with
          | none => .ok i
          | some j => llLast cells rounds j

/-- `LL_APPEND`: the cells and the head afterwards. -/
def llAppend (cells : List ε) (head : Option Nat) (new : Nat) : Exit (List ε × Option Nat) :=
  let cells := cells.modify new (v.setNext none)
  match head with
  | none => .ok (cells, some new)
  | some i => do
      let last ← llLast v cells cells.length i
      return (cells.modify last (v.setNext (some new)), some i)

/-- `LL_PREPEND`. -/
def llPrepend (cells : List ε) (head : Option Nat) (new : Nat) : List ε × Option Nat :=
  (cells.modify new (v.setNext head), some new)

/-! ## paths -/

/-- From `p` the cells `is` are visited, and the last of them points to `q`. -/
inductive Path (cells : List ε) : Option Nat → List Nat → Option Nat → Prop where
  | nil (p : Option Nat) : Path cells p [] p
  | cons {i : Nat} {c : ε} {is : List Nat} {q : Option Nat} (hc : cells[i]? = some c)
      (hrest : Path cells (v.next c) is q) : Path cells (some i) (i :: is) q

variable {v} {cells cells' : List ε} {p q r : Option Nat} {is js : List Nat} {i new : Nat}

theorem Path.append (h : Path v cells p is q) (h' : Path v cells q js r) :
    Path v cells p (is ++ js) r := by
  induction h with
  | nil p => exact h'
  | cons hc _ ih => exact .cons hc (ih h')

theorem Path.split (h : Path v cells p (is ++ js) r) :
    ∃ q, Path v cells p is q ∧ Path v cells q js r := by
  induction is generalizing p with
  | nil => exact ⟨p, .nil p, h⟩
  | cons i is ih =>
      cases h with
      | cons hc hrest =>
          obtain ⟨q, hfirst, hlast⟩ := ih hrest
          exact ⟨q, .cons hc hfirst, hlast⟩

/-- A path to the end is the only one. -/
theorem Path.unique (h : Path v cells p is none) (h' : Path v cells p js none) : is = js := by
  induction is generalizing p js with
  | nil =>
      cases h
      cases h'
      rfl
  | cons i is ih =>
      cases h with
      | cons hc hrest =>
          cases h' with
          | cons hc' hrest' =>
              obtain rfl := Option.some.inj (hc.symm.trans hc')
              rw [ih hrest hrest']

theorem Path.lt_of_mem (h : Path v cells p is q) (hi : i ∈ is) : i < cells.length := by
  induction h with
  | nil p => cases hi
  | cons hc _ ih =>
      rcases List.mem_cons.mp hi with rfl | hi
      · exact (List.getElem?_eq_some_iff.mp hc).1
      · exact ih hi

/-- A list that ends has no cell twice. -/
theorem Path.nodup (h : Path v cells p is none) : is.Nodup := by
  induction is generalizing p with
  | nil => exact List.nodup_nil
  | cons i is ih =>
      cases h with
      | @cons _ c _ _ hc hrest =>
          refine List.nodup_cons.mpr ⟨fun hi => ?_, ih hrest⟩
          -- from the second time on the list would be as long as from the first
          obtain ⟨before, after, rfl⟩ := List.append_of_mem hi
          obtain ⟨q, -, htail⟩ := hrest.split
          have hq : q = some i := by
            cases htail
            rfl
          rw [hq] at htail
          have hlength := congrArg List.length (htail.unique (.cons hc hrest))
          simp only [List.length_cons, List.length_append] at hlength
          omega

theorem Path.length_le (h : Path v cells p is none) : is.length ≤ cells.length := by
  have hsub : is ⊆ List.range cells.length := fun i hi => List.mem_range.mpr (h.lt_of_mem hi)
  have hle := List.Nodup.length_le_of_subset h.nodup hsub
  rwa [List.length_range] at hle

/-- A path depends on the links of its cells. -/
theorem Path.congr (h : Path v cells p is q)
    (hcells : ∀ i ∈ is, (cells'[i]?).map v.next = (cells[i]?).map v.next) :
    Path v cells' p is q := by
  induction h with
  | nil p => exact .nil p
  | @cons i c is q hc hrest ih =>
      have hnext := hcells i List.mem_cons_self
      rw [hc, Option.map_some] at hnext
      obtain ⟨c', hc', hnext⟩ := Option.map_eq_some_iff.mp hnext
      refine .cons hc' ?_
      rw [hnext]
      exact ih fun j hj => hcells j (List.mem_cons_of_mem i hj)

theorem Path.of_map_eq (h : Path v cells p is q) (hcells : cells'.map v.next = cells.map v.next) :
    Path v cells' p is q := by
  refine h.congr fun i _ => ?_
  rw [← List.getElem?_map, hcells, List.getElem?_map]

/-- New cells do not matter. -/
theorem Path.alloc (h : Path v cells p is q) (new : List ε) : Path v (cells ++ new) p is q := by
  refine h.congr fun i hi => ?_
  rw [List.getElem?_append_left (h.lt_of_mem hi)]

/-! ## what the macros do -/

theorem llSearch_eq (test : ε → Bool) (h : Path v cells p is none) {rounds : Nat}
    (hrounds : is.length ≤ rounds) :
    llSearch v cells test rounds p = .ok (is.find? fun i => (cells[i]?).any test) := by
  induction is generalizing p rounds with
  | nil =>
      cases h
      rw [llSearch, List.find?_nil]
  | cons i is ih =>
      cases h with
      | cons hc hrest =>
          obtain ⟨rounds, rfl⟩ := Nat.exists_eq_add_one_of_ne_zero (Nat.ne_of_gt
            (Nat.lt_of_lt_of_le (Nat.succ_pos is.length) hrounds))
          rw [llSearch, hc]
          simp only [List.find?_cons, hc, Option.any_some]
          rw [ih hrest (Nat.le_of_succ_le_succ hrounds)]
          split <;> simp_all

/-- A write to the cell that was just allocated. -/
theorem modify_new (cells : List ε) (c : ε) (f : ε → ε) :
    (cells ++ [c]).modify cells.length f = cells ++ [f c] := by
  rw [List.modify_eq_take_cons_drop (by simp)]
  simp

theorem llPrepend_new (v : Links ε) (cells : List ε) (head : Option Nat) (c : ε) :
    llPrepend v (cells ++ [c]) head cells.length =
      (cells ++ [v.setNext head c], some cells.length) := by
  rw [llPrepend, modify_new]

theorem llWalk_eq (h : Path v cells p is none) {rounds : Nat} (hrounds : is.length ≤ rounds) :
    llWalk v cells rounds p = .ok is := by
  induction is generalizing p rounds with
  | nil =>
      cases h
      rw [llWalk]
  | cons i is ih =>
      cases h with
      | cons hc hrest =>
          obtain ⟨rounds, rfl⟩ := Nat.exists_eq_add_one_of_ne_zero (Nat.ne_of_gt
            (Nat.lt_of_lt_of_le (Nat.succ_pos is.length) hrounds))
          rw [llWalk, hc]
          simp only [ih hrest (Nat.le_of_succ_le_succ hrounds)]
          rfl

theorem llLast_eq (h : Path v cells (some i) (is ++ [new]) none) {rounds : Nat}
    (hrounds : (is ++ [new]).length ≤ rounds) : llLast v cells rounds i = .ok new := by
  induction is generalizing i rounds with
  | nil =>
      obtain ⟨rounds, rfl⟩ := Nat.exists_eq_add_one_of_ne_zero (Nat.ne_of_gt hrounds)
      cases h with
      | @cons _ c _ _ hc hrest =>
          have hnext : v.next c = none := by
            generalize v.next c = next at hrest
            cases hrest
            rfl
          rw [llLast, hc]
          simp only [hnext]
  | cons i is ih =>
      obtain ⟨rounds, rfl⟩ := Nat.exists_eq_add_one_of_ne_zero (Nat.ne_of_gt
        (Nat.lt_of_lt_of_le (Nat.succ_pos _) hrounds))
      cases h with
      | @cons _ c _ _ hc hrest =>
          obtain ⟨j, hnext⟩ : ∃ j, v.next c = some j := by
            generalize v.next c = next at hrest
            cases is <;> cases hrest <;> exact ⟨_, rfl⟩
          rw [llLast, hc]
          simp only [hnext]
          rw [hnext] at hrest
          exact ih hrest (Nat.le_of_succ_le_succ hrounds)

/-- What a write to one cell leaves alone in it, it leaves alone in all. -/
theorem map_modify_eq {g : ε → α} {f : ε → ε} (hg : ∀ c, g (f c) = g c) (cells : List ε) (i : Nat) :
    (cells.modify i f).map g = cells.map g := by
  refine List.ext_getElem? fun j => ?_
  rw [List.getElem?_map, List.getElem?_map, List.getElem?_modify]
  cases cells[j]? with
  | none => rfl
  | some c =>
      by_cases hij : i = j <;> simp [hij, hg]

/-- A cell has what was left alone in all. -/
theorem getElem?_of_map_eq {α : Type} {g : ε → α} (h : cells'.map g = cells.map g) {i : Nat}
    {c : ε} (hc : cells[i]? = some c) : ∃ c', cells'[i]? = some c' ∧ g c' = g c := by
  have hi : (cells'.map g)[i]? = some (g c) := by
    rw [h, List.getElem?_map, hc]
    rfl
  rw [List.getElem?_map] at hi
  exact Option.map_eq_some_iff.mp hi

/-- A link written outside of a path does not change it. -/
theorem Path.modify_of_not_mem (h : Path v cells p is q) {f : ε → ε} (hi : i ∉ is) :
    Path v (cells.modify i f) p is q := by
  refine h.congr fun j hj => ?_
  have hij : i ≠ j := fun heq => hi (heq ▸ hj)
  rw [List.getElem?_modify]
  simp [hij]

/-- The new cell is the last one; nothing but links was written. -/
theorem llAppend_eq (h : Path v cells p is none) (hnew : new < cells.length) (hfresh : new ∉ is) :
    ∃ cells' p', llAppend v cells p new = .ok (cells', p') ∧
      Path v cells' p' (is ++ [new]) none ∧
      ∀ (α : Type) (g : ε → α), (∀ p c, g (v.setNext p c) = g c) → cells'.map g = cells.map g := by
  have hend : ∀ cells' : List ε, (cells'[new]?).map v.next = some none →
      Path v cells' (some new) [new] none := by
    intro cells' hnext
    obtain ⟨c, hc, hnext⟩ := Option.map_eq_some_iff.mp hnext
    exact .cons hc (hnext ▸ .nil _)
  have hnull : (cells.modify new (v.setNext none))[new]?.map v.next = some none := by
    simp [List.getElem?_eq_getElem hnew, v.next_setNext]
  cases is using List.reverseRecOn with
  | nil =>
      cases h
      exact ⟨_, _, rfl, hend _ hnull, fun α g hg => map_modify_eq (hg none) cells new⟩
  | append_singleton is last =>
      obtain ⟨i, rfl⟩ : ∃ i, p = some i := by
        cases is <;> cases h <;> exact ⟨_, rfl⟩
      have hold := h.modify_of_not_mem (f := v.setNext none) hfresh
      have hlast := llLast_eq hold hold.length_le
      have hne : last ≠ new := fun heq => hfresh (heq ▸ List.mem_append_right is (by simp))
      obtain ⟨q, hbefore, hcell⟩ := hold.split
      have hnotMem : last ∉ is := fun hmem =>
        (List.nodup_append.mp hold.nodup).2.2 last hmem last (by simp) rfl
      cases hcell with
      | @cons _ c _ _ hc hrest =>
          have hcell : ((cells.modify new (v.setNext none)).modify last
              (v.setNext (some new)))[last]? = some (v.setNext (some new) c) := by
            rw [List.getElem?_modify, hc]
            simp
          have hpath : Path v
              ((cells.modify new (v.setNext none)).modify last (v.setNext (some new)))
              (some i) (is ++ ([last] ++ [new])) none := by
            refine (hbefore.modify_of_not_mem hnotMem).append (.cons hcell ?_)
            rw [v.next_setNext]
            refine hend _ ?_
            rwa [List.getElem?_modify_ne _ _ hne]
          refine ⟨_, _, ?_, by rwa [List.append_assoc], fun α g hg => ?_⟩
          · rw [llAppend]
            simp only [hlast]
            rfl
          · rw [map_modify_eq (hg _), map_modify_eq (hg _)]

end Linked
