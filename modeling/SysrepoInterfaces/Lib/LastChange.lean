import Mathlib.Data.List.Basic
import Mathlib.Data.List.Induction

/-!
# SysrepoInterfaces.Lib.LastChange

A register that follows a value which comes and goes: it keeps the last value
seen, with the time from which on every sighting showed that value.  The times
are those of the observations, one of each in the history.
-/

namespace LastChange

variable {α τ : Type} [DecidableEq α]

/-- One observation: the register keeps what it has while nothing is seen. -/
def track (entry : Option (α × τ)) (seen : τ × Option α) : Option (α × τ) :=
  match seen.2, entry with
  | none, entry => entry
  | some a, none => some (a, seen.1)
  | some a, some (b, t) => if a = b then some (b, t) else some (a, seen.1)

/-- The last value seen. -/
def lastSeen (history : List (τ × Option α)) : Option α :=
  (history.filterMap Prod.snd).getLast?

/-- An observation shows a value other than the one seen before it. -/
def ChangedAt (history : List (τ × Option α)) (i : Nat) : Prop :=
  ∃ t a, history[i]? = some (t, some a) ∧ lastSeen (history.take i) ≠ some a

/-- The last observation of a change. -/
def LastChangedAt (history : List (τ × Option α)) (i : Nat) : Prop :=
  ChangedAt history i ∧ ∀ j, i < j → ¬ ChangedAt history j

variable {history : List (τ × Option α)} {seen : τ × Option α}

/-- A new value replaces the entry. -/
theorem track_of_changed {entry : Option (α × τ)} {a : α} (hseen : seen.2 = some a)
    (hne : entry.map Prod.fst ≠ some a) : track entry seen = some (a, seen.1) := by
  unfold track
  rw [hseen]
  cases entry with
  | none => rfl
  | some e =>
      have hvalue : ¬ a = e.1 := fun heq => hne (by simp [heq])
      exact if_neg hvalue

/-- Nothing else does. -/
theorem track_of_unchanged {entry : Option (α × τ)}
    (h : ¬ ∃ a, seen.2 = some a ∧ entry.map Prod.fst ≠ some a) : track entry seen = entry := by
  unfold track
  cases hseen : seen.2 with
  | none => rfl
  | some a =>
      cases entry with
      | none => exact absurd ⟨a, hseen, by simp⟩ h
      | some e =>
          have hvalue : a = e.1 := by
            by_contra hne
            exact h ⟨a, hseen, fun heq => hne (Option.some.inj heq).symm⟩
          exact if_pos hvalue

omit [DecidableEq α] in
theorem lastSeen_concat : lastSeen (history ++ [seen]) = seen.2.or (lastSeen history) := by
  unfold lastSeen
  rw [List.filterMap_append]
  cases h : seen.2 with
  | none => simp [h]
  | some a => simp [h]

omit [DecidableEq α] in
/-- Later observations do not matter. -/
theorem changedAt_append {i : Nat} (h : i < history.length) (later : List (τ × Option α)) :
    ChangedAt (history ++ later) i ↔ ChangedAt history i := by
  unfold ChangedAt
  rw [List.getElem?_append_left h, List.take_append_of_le_length (Nat.le_of_lt h)]

omit [DecidableEq α] in
theorem ChangedAt.lt_length {i : Nat} (h : ChangedAt history i) : i < history.length := by
  obtain ⟨t, a, hget, -⟩ := h
  exact (List.getElem?_eq_some_iff.mp hget).1

omit [DecidableEq α] in
theorem changedAt_concat_length :
    ChangedAt (history ++ [seen]) history.length ↔
      ∃ a, seen.2 = some a ∧ lastSeen history ≠ some a := by
  unfold ChangedAt
  rw [List.getElem?_append_right (Nat.le_refl _), List.take_left]
  obtain ⟨t, a⟩ := seen
  simp

omit [DecidableEq α] in
/-- There is one last change at most. -/
theorem LastChangedAt.unique {i j : Nat} (hi : LastChangedAt history i)
    (hj : LastChangedAt history j) : i = j := by
  rcases Nat.lt_trichotomy i j with h | h | h
  · exact absurd hj.1 (hi.2 j h)
  · exact h
  · exact absurd hi.1 (hj.2 i h)

omit [DecidableEq α] in
/-- A change is the last one so far. -/
theorem lastChangedAt_concat_length (h : ∃ a, seen.2 = some a ∧ lastSeen history ≠ some a) :
    LastChangedAt (history ++ [seen]) history.length := by
  refine ⟨changedAt_concat_length.mpr h, fun j hj hchanged => ?_⟩
  have hlt := hchanged.lt_length
  rw [List.length_append, List.length_singleton] at hlt
  omega

omit [DecidableEq α] in
/-- The last change stays the last one while nothing changes. -/
theorem LastChangedAt.concat {i : Nat} (hi : LastChangedAt history i)
    (h : ¬ ∃ a, seen.2 = some a ∧ lastSeen history ≠ some a) :
    LastChangedAt (history ++ [seen]) i := by
  refine ⟨(changedAt_append hi.1.lt_length _).mpr hi.1, fun j hj hchanged => ?_⟩
  have hlt := hchanged.lt_length
  rw [List.length_append, List.length_singleton] at hlt
  by_cases hend : j = history.length
  · exact h (changedAt_concat_length.mp (hend ▸ hchanged))
  · exact hi.2 j hj ((changedAt_append (by omega) _).mp hchanged)

/-- The register holds the last value seen. -/
theorem map_fst_foldl_track :
    (history.foldl track none).map Prod.fst = lastSeen history := by
  induction history using List.reverseRecOn with
  | nil => rfl
  | append_singleton history seen ih =>
      rw [List.foldl_append, List.foldl_cons, List.foldl_nil, lastSeen_concat]
      generalize history.foldl track none = entry at ih
      obtain ⟨t, a⟩ := seen
      cases a with
      | none => simpa [track] using ih
      | some a =>
          cases entry with
          | none => rfl
          | some e =>
              by_cases h : a = e.1 <;> simp [track, h]

/-- The register holds the time of the last change. -/
theorem foldl_track_eq_some {a : α} {t : τ} (h : history.foldl track none = some (a, t)) :
    ∃ i, LastChangedAt history i ∧ history[i]?.map Prod.fst = some t := by
  induction history using List.reverseRecOn generalizing a t with
  | nil => cases h
  | append_singleton history seen ih =>
      have hlast : (history.foldl track none).map Prod.fst = lastSeen history :=
        map_fst_foldl_track
      rw [List.foldl_append, List.foldl_cons, List.foldl_nil] at h
      by_cases hchanged : ∃ a, seen.2 = some a ∧ lastSeen history ≠ some a
      · refine ⟨history.length, lastChangedAt_concat_length hchanged, ?_⟩
        obtain ⟨b, hseen, hne⟩ := hchanged
        rw [← hlast] at hne
        rw [track_of_changed hseen hne] at h
        cases h
        simp
      · have hkept : history.foldl track none = some (a, t) := by
          rw [← hlast] at hchanged
          rwa [track_of_unchanged hchanged] at h
        obtain ⟨i, hi, htime⟩ := ih hkept
        refine ⟨i, hi.concat hchanged, ?_⟩
        rw [List.getElem?_append_left hi.1.lt_length, htime]

/-- Without a change the register keeps its time. -/
theorem snd_foldl_track_append {later : List (τ × Option α)} {a b : α} {t u : τ}
    (hbefore : history.foldl track none = some (a, t))
    (hafter : (history ++ later).foldl track none = some (b, u))
    (h : ∀ i, history.length ≤ i → ¬ ChangedAt (history ++ later) i) : u = t := by
  obtain ⟨i, hi, htime⟩ := foldl_track_eq_some hbefore
  obtain ⟨j, hj, htime'⟩ := foldl_track_eq_some hafter
  have hlt : j < history.length := by
    by_contra hge
    exact h j (by omega) hj.1
  have hlast : LastChangedAt history j :=
    ⟨(changedAt_append hlt _).mp hj.1, fun k hk hchanged =>
      hj.2 k hk ((changedAt_append hchanged.lt_length _).mpr hchanged)⟩
  obtain rfl := hi.unique hlast
  rw [List.getElem?_append_left hlt, htime] at htime'
  exact (Option.some.inj htime').symm

end LastChange
