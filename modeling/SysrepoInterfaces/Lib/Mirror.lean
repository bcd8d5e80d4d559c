import Mathlib.Data.List.Basic
import Mathlib.Logic.Function.Basic

/-!
# SysrepoInterfaces.Lib.Mirror

Lists of rows that mirror a table.  The rows of a domain are those that encode
the entries of the table, each once; rows outside the domain are nobody's
business.  `Mirrors.set` says when a change of the list is a change of one
entry.
-/

namespace Mirror

variable {ρ κ ν : Type}

/-- A row stands for the entry a key has. -/
def Encodes (enc : κ → ν → Option ρ) (k : κ) (entry : Option ν) (row : ρ) : Prop :=
  ∃ v, entry = some v ∧ enc k v = some row

section Encodes

variable {enc : κ → ν → Option ρ} {k : κ} {v : ν} {row : ρ}

theorem not_encodes_none : ¬ Encodes enc k none row := by
  rintro ⟨v, hv, -⟩
  cases hv

theorem encodes_some : Encodes enc k (some v) row ↔ enc k v = some row := by
  constructor
  · rintro ⟨_, hv, hrow⟩
    rwa [Option.some.inj hv]
  · exact fun h => ⟨v, rfl, h⟩

end Encodes

variable [DecidableEq ρ]

/-- The rows of a domain are the entries of a table, each once. -/
structure Mirrors (D : ρ → Prop) (enc : κ → ν → Option ρ) (rows : List ρ) (t : κ → Option ν) :
    Prop where
  count : ∀ row, D row → ∀ k, Encodes enc k (t k) row → rows.count row = 1
  absent : ∀ row, D row → (∀ k, ¬ Encodes enc k (t k) row) → rows.count row = 0

section Mirrors

variable {D : ρ → Prop} {enc : κ → ν → Option ρ} {rows rows' : List ρ} {t : κ → Option ν} {k : κ}
  {v v' : ν} {entry : Option ν} {row row' : ρ}

theorem Mirrors.mem_iff (h : Mirrors D enc rows t) (hrow : D row) :
    row ∈ rows ↔ ∃ k, Encodes enc k (t k) row := by
  constructor
  · intro hmem
    by_contra hnone
    have hzero := h.absent row hrow fun k hk => hnone ⟨k, hk⟩
    exact List.count_eq_zero.mp hzero hmem
  · rintro ⟨k, hk⟩
    have hone := h.count row hrow k hk
    exact List.count_pos_iff.mp (by omega)

/-- What happens outside the domain does not matter. -/
theorem Mirrors.frame (h : Mirrors D enc rows t)
    (hcount : ∀ row, D row → rows'.count row = rows.count row) : Mirrors D enc rows' t where
  count row hrow k hk := (hcount row hrow).trans (h.count row hrow k hk)
  absent row hrow hnone := (hcount row hrow).trans (h.absent row hrow hnone)

variable [DecidableEq κ]

/-- One entry of the table is changed: its new row is there once, its old row
is not, and nothing else moves. -/
theorem Mirrors.set (h : Mirrors D enc rows t)
    (hown : ∀ k' row, k' ≠ k → Encodes enc k' (t k') row →
      ¬ Encodes enc k (t k) row ∧ ¬ Encodes enc k entry row)
    (hnew : ∀ row, D row → Encodes enc k entry row → rows'.count row = 1)
    (hold : ∀ row, D row → ¬ Encodes enc k entry row → Encodes enc k (t k) row →
      rows'.count row = 0)
    (hkept : ∀ row, D row → ¬ Encodes enc k entry row → ¬ Encodes enc k (t k) row →
      rows'.count row = rows.count row) :
    Mirrors D enc rows' (Function.update t k entry) where
  count row hrow k' hk' := by
    by_cases hsame : k' = k
    · subst hsame
      rw [Function.update_self] at hk'
      exact hnew row hrow hk'
    · rw [Function.update_of_ne hsame] at hk'
      obtain ⟨hnotOld, hnotNew⟩ := hown k' row hsame hk'
      exact (hkept row hrow hnotNew hnotOld).trans (h.count row hrow k' hk')
  absent row hrow hnone := by
    have hnotNew : ¬ Encodes enc k entry row := by
      have hk := hnone k
      rwa [Function.update_self] at hk
    by_cases hwas : Encodes enc k (t k) row
    · exact hold row hrow hnotNew hwas
    · refine (hkept row hrow hnotNew hwas).trans (h.absent row hrow fun k' hk' => ?_)
      by_cases hsame : k' = k
      · exact hwas (hsame ▸ hk')
      · have hk := hnone k'
        rw [Function.update_of_ne hsame] at hk
        exact hk hk'

/-- A row for a key that had no entry. -/
theorem Mirrors.insert (h : Mirrors D enc rows t) (hnone : t k = none) (hrow : enc k v = some row)
    (hinj : ∀ k' v', t k' = some v' → enc k' v' = some row → k' = k)
    (hcount : ∀ r, D r → rows'.count r = rows.count r + if r = row then 1 else 0) :
    Mirrors D enc rows' (Function.update t k (some v)) := by
  have hfresh : ∀ k', ¬ Encodes enc k' (t k') row := by
    rintro k' ⟨v', hv', hk'⟩
    have hsame := hinj k' v' hv' hk'
    rw [hsame, hnone] at hv'
    cases hv'
  refine h.set (fun k' r hne hk' => ?_) (fun r hr hk => ?_) (fun r _ _ hwas => ?_)
    fun r hr hk _ => ?_
  · rw [hnone]
    refine ⟨not_encodes_none, fun hk => ?_⟩
    rw [encodes_some, hrow] at hk
    exact hfresh k' (Option.some.inj hk ▸ hk')
  · rw [encodes_some, hrow] at hk
    obtain rfl := Option.some.inj hk
    rw [hcount row hr, if_pos rfl, h.absent row hr hfresh]
  · rw [hnone] at hwas
    exact absurd hwas not_encodes_none
  · have hne : r ≠ row := by
      rintro rfl
      exact hk (encodes_some.mpr hrow)
    rw [hcount r hr, if_neg hne, Nat.add_zero]

/-- The row of a key is taken away. -/
theorem Mirrors.remove (h : Mirrors D enc rows t) (hsome : t k = some v)
    (hrow : enc k v = some row)
    (hinj : ∀ k' v', t k' = some v' → enc k' v' = some row → k' = k)
    (hcount : ∀ r, D r → rows'.count r = if r = row then 0 else rows.count r) :
    Mirrors D enc rows' (Function.update t k none) := by
  have hwas : ∀ r, Encodes enc k (t k) r ↔ r = row := by
    intro r
    rw [hsome, encodes_some, hrow, Option.some.injEq, eq_comm]
  refine h.set (fun k' r hne hk' => ⟨fun hk => ?_, not_encodes_none⟩)
    (fun r _ hk => absurd hk not_encodes_none) (fun r hr _ hk => ?_) fun r hr _ hk => ?_
  · obtain ⟨v', hv', hr⟩ := hk'
    exact hne (hinj k' v' hv' ((hwas r).mp hk ▸ hr))
  · rw [hcount r hr, if_pos ((hwas r).mp hk)]
  · rw [hcount r hr, if_neg fun heq => hk ((hwas r).mpr heq)]

/-- The row of a key is replaced. -/
theorem Mirrors.replace (h : Mirrors D enc rows t) (hsome : t k = some v)
    (hrow : enc k v = some row) (hrow' : enc k v' = some row')
    (hinj : ∀ k' v'' r, t k' = some v'' → enc k' v'' = some r → r = row ∨ r = row' → k' = k)
    (hcount : ∀ r, D r → rows'.count r =
      if r = row' then 1 else if r = row then 0 else rows.count r) :
    Mirrors D enc rows' (Function.update t k (some v')) := by
  have hwas : ∀ r, Encodes enc k (t k) r ↔ r = row := by
    intro r
    rw [hsome, encodes_some, hrow, Option.some.injEq, eq_comm]
  have his : ∀ r, Encodes enc k (some v') r ↔ r = row' := by
    intro r
    rw [encodes_some, hrow', Option.some.injEq, eq_comm]
  refine h.set (fun k' r hne hk' => ?_) (fun r hr hk => ?_) (fun r hr hk hold => ?_)
    fun r hr hk hold => ?_
  · obtain ⟨v'', hv'', hr⟩ := hk'
    rw [hwas, his]
    exact ⟨fun heq => hne (hinj k' v'' r hv'' hr (.inl heq)),
      fun heq => hne (hinj k' v'' r hv'' hr (.inr heq))⟩
  · rw [hcount r hr, if_pos ((his r).mp hk)]
  · rw [hcount r hr, if_neg fun heq => hk ((his r).mpr heq), if_pos ((hwas r).mp hold)]
  · rw [hcount r hr, if_neg fun heq => hk ((his r).mpr heq),
      if_neg fun heq => hold ((hwas r).mpr heq)]

end Mirrors

/-! ## counting rows -/

theorem count_concat (rows : List ρ) (row r : ρ) :
    (rows ++ [row]).count r = rows.count r + if r = row then 1 else 0 := by
  rw [List.count_append, List.count_singleton]
  by_cases h : r = row
  · simp [h]
  · simp [h, Ne.symm h]

theorem count_filter_eq (p : ρ → Bool) (rows : List ρ) (r : ρ) :
    (rows.filter p).count r = if p r then rows.count r else 0 := by
  split
  · next h => exact List.count_filter h
  · next h => exact List.count_eq_zero.mpr fun hmem => h (List.mem_filter.mp hmem).2

end Mirror
