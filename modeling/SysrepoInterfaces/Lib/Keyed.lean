import Mathlib.Algebra.GroupWithZero.Nat
import Mathlib.Data.List.Induction
import Mathlib.Data.List.Nodup
import Mathlib.Data.List.Perm.Basic

/-!
# SysrepoInterfaces.Lib.Keyed

Singly linked lists searched by a key, in the style of `utlist.h`: a search
walks from the head (`lookup`), an element is appended only when its key is
new (`ensure`), and a pointer obtained from a search writes to the first
element with that key (`adjust`).

`Multimap` is what such a list is for when its elements are buckets, a key with
the values stored under it: `push` adds a value to the front of its bucket, and
`pairs` is everything stored.
-/

namespace Keyed

variable {κ ε α : Type} [DecidableEq κ]

/-! ## keyed elements -/

/-- The first element with key `k`. -/
def lookup (key : ε → κ) (k : κ) (es : List ε) : Option ε := es.find? fun e => key e = k

/-- Write to the first element with key `k`. -/
def adjust (key : ε → κ) (k : κ) (f : ε → ε) : List ε → List ε
  | [] => []
  | e :: es => if key e = k then f e :: es else e :: adjust key k f es

/-- Append `e` unless an element with key `k` is already there. -/
def ensure (key : ε → κ) (k : κ) (e : ε) (es : List ε) : List ε :=
  match lookup key k es with
  | some _ => es
  | none => es ++ [e]

section Elements

variable {key : ε → κ} {k k' : κ} {f : ε → ε} {e : ε} {es : List ε}

@[simp] theorem lookup_nil : lookup key k [] = none := rfl

theorem lookup_cons : lookup key k (e :: es) =
    if key e = k then some e else lookup key k es := by
  by_cases h : key e = k <;> simp [lookup, h]

theorem lookup_append (fs : List ε) :
    lookup key k (es ++ fs) = (lookup key k es).or (lookup key k fs) := by
  simp [lookup, List.find?_append]

theorem lookup_map {ι : Type} (g : ι → ε) (xs : List ι) :
    lookup key k (xs.map g) = (lookup (fun x => key (g x)) k xs).map g :=
  List.find?_map

theorem key_of_lookup (h : lookup key k es = some e) : key e = k := by
  simpa using List.find?_some h

theorem mem_of_lookup (h : lookup key k es = some e) : e ∈ es := List.mem_of_find?_eq_some h

theorem lookup_eq_none_iff : lookup key k es = none ↔ k ∉ es.map key := by
  simp [lookup]

/-- With distinct keys, an element is what a search for its key returns. -/
theorem lookup_of_mem (hnd : (es.map key).Nodup) (h : e ∈ es) :
    lookup key (key e) es = some e := by
  induction es with
  | nil => cases h
  | cons x xs ih =>
      rw [List.map_cons, List.nodup_cons] at hnd
      rw [lookup_cons]
      rcases List.mem_cons.mp h with rfl | hx
      · rw [if_pos rfl]
      · have hne : key x ≠ key e := fun heq =>
          hnd.1 (heq ▸ List.mem_map_of_mem hx)
        rw [if_neg hne]
        exact ih hnd.2 hx

/-- What a write leaves alone in one element it leaves alone in the list. -/
theorem map_adjust {β : Type} {g : ε → β} (hg : ∀ e, g (f e) = g e) :
    (adjust key k f es).map g = es.map g := by
  induction es with
  | nil => rfl
  | cons x xs ih =>
      rw [adjust]
      split
      · rw [List.map_cons, hg, List.map_cons]
      · rw [List.map_cons, ih, List.map_cons]

/-- A write to the images of elements. -/
theorem adjust_map {ι : Type} {g : ι → ε} {f' : ι → ι} (hf : ∀ x, f (g x) = g (f' x))
    (xs : List ι) : adjust key k f (xs.map g) = (adjust (fun x => key (g x)) k f' xs).map g := by
  induction xs with
  | nil => rfl
  | cons x xs ih =>
      rw [List.map_cons, adjust, adjust]
      split
      · rw [List.map_cons, hf]
      · rw [List.map_cons, ih]

theorem lookup_adjust_self (hf : ∀ e, key (f e) = key e) :
    lookup key k (adjust key k f es) = (lookup key k es).map f := by
  induction es with
  | nil => rfl
  | cons x xs ih =>
      rw [adjust, lookup_cons]
      split
      · next h => simp [lookup_cons, hf, h]
      · next h => rw [lookup_cons, if_neg h, ih]

theorem lookup_adjust_ne (hf : ∀ e, key (f e) = key e) (hne : k' ≠ k) :
    lookup key k' (adjust key k f es) = lookup key k' es := by
  induction es with
  | nil => rfl
  | cons x xs ih =>
      rw [adjust]
      split
      · next h =>
          have hx : key x ≠ k' := fun h' => hne (h'.symm.trans h)
          rw [lookup_cons, lookup_cons, hf, if_neg hx, if_neg hx]
      · rw [lookup_cons, lookup_cons, ih]

/-- An element of the written list is an old one or the written one. -/
theorem mem_adjust (h : e ∈ adjust key k f es) :
    e ∈ es ∨ ∃ x, lookup key k es = some x ∧ e = f x := by
  induction es with
  | nil => cases h
  | cons x xs ih =>
      rw [adjust] at h
      split at h
      · next hk =>
          rcases List.mem_cons.mp h with rfl | hx
          · exact .inr ⟨x, by rw [lookup_cons, if_pos hk], rfl⟩
          · exact .inl (List.mem_cons_of_mem _ hx)
      · next hk =>
          rcases List.mem_cons.mp h with rfl | hx
          · exact .inl List.mem_cons_self
          · rcases ih hx with h' | ⟨y, hy, rfl⟩
            · exact .inl (List.mem_cons_of_mem _ h')
            · exact .inr ⟨y, by rw [lookup_cons, if_neg hk, hy], rfl⟩

theorem adjust_append_of_not_mem (fs : List ε) (h : k ∉ es.map key) :
    adjust key k f (es ++ fs) = es ++ adjust key k f fs := by
  induction es with
  | nil => rfl
  | cons x xs ih =>
      rw [List.map_cons, List.mem_cons, not_or] at h
      rw [List.cons_append, adjust, if_neg (Ne.symm h.1), ih h.2, List.cons_append]

/-- A write depends on what it does to the element a search finds. -/
theorem adjust_congr {g : ε → ε} (h : ∀ x, lookup key k es = some x → f x = g x) :
    adjust key k f es = adjust key k g es := by
  induction es with
  | nil => rfl
  | cons x xs ih =>
      rw [adjust, adjust]
      split
      · next hk => rw [h x (by rw [lookup_cons, if_pos hk])]
      · next hk => rw [ih fun y hy => h y (by rw [lookup_cons, if_neg hk, hy])]

/-- What stands before and after the element a write goes to. -/
theorem adjust_split (h : lookup key k es = some e) :
    ∃ as bs, es = as ++ e :: bs ∧ ∀ f, adjust key k f es = as ++ f e :: bs := by
  induction es with
  | nil => cases h
  | cons x xs ih =>
      rw [lookup_cons] at h
      split at h
      · next hk =>
          obtain rfl := Option.some.inj h
          exact ⟨[], xs, rfl, fun f => by rw [adjust, if_pos hk]; rfl⟩
      · next hk =>
          obtain ⟨as, bs, rfl, hadjust⟩ := ih h
          exact ⟨x :: as, bs, rfl, fun f => by rw [adjust, if_neg hk, hadjust]; rfl⟩

/-- With distinct keys, an element of the written list is an old one with
another key or the written one. -/
theorem mem_adjust_of_nodup (hf : ∀ e, key (f e) = key e) (hnd : (es.map key).Nodup)
    (h : e ∈ adjust key k f es) :
    e ∈ es ∧ key e ≠ k ∨ ∃ x, lookup key k es = some x ∧ e = f x := by
  have hlook := lookup_of_mem (by rwa [map_adjust hf]) h
  by_cases hk : key e = k
  · rw [hk, lookup_adjust_self hf] at hlook
    obtain ⟨x, hx, rfl⟩ := Option.map_eq_some_iff.mp hlook
    exact .inr ⟨x, hx, rfl⟩
  · rw [lookup_adjust_ne hf hk] at hlook
    exact .inl ⟨mem_of_lookup hlook, hk⟩

/-- Two writes to one key are one write. -/
theorem adjust_adjust {g : ε → ε} (hf : ∀ e, key (f e) = key e) :
    adjust key k g (adjust key k f es) = adjust key k (fun e => g (f e)) es := by
  induction es with
  | nil => rfl
  | cons x xs ih =>
      by_cases h : key x = k
      · simp [adjust, h, hf]
      · simp [adjust, h, ih]

theorem adjust_id (hid : ∀ e, f e = e) : adjust key k f es = es := by
  induction es with
  | nil => rfl
  | cons x xs ih => simp [adjust, ih, hid]

/-- With distinct keys, removing the first element with a key removes the key. -/
theorem lookup_eraseP_self (hnd : (es.map key).Nodup) :
    lookup key k (es.eraseP fun e => key e = k) = none := by
  induction es with
  | nil => rfl
  | cons x xs ih =>
      rw [List.map_cons, List.nodup_cons] at hnd
      by_cases h : key x = k
      · rw [List.eraseP_cons_of_pos (by simpa using h)]
        exact lookup_eq_none_iff.mpr (h ▸ hnd.1)
      · rw [List.eraseP_cons_of_neg (by simpa using h), lookup_cons, if_neg h, ih hnd.2]

theorem lookup_eraseP_ne (hne : k' ≠ k) :
    lookup key k' (es.eraseP fun e => key e = k) = lookup key k' es := by
  induction es with
  | nil => rfl
  | cons x xs ih =>
      by_cases h : key x = k
      · rw [List.eraseP_cons_of_pos (by simpa using h), lookup_cons,
          if_neg fun h' => hne (h'.symm.trans h)]
      · rw [List.eraseP_cons_of_neg (by simpa using h), lookup_cons, lookup_cons, ih]

/-- Remove the first element with each of the keys. -/
def eraseKeys (key : ε → κ) (ks : List κ) (es : List ε) : List ε :=
  ks.foldl (fun es k => es.eraseP fun e => key e = k) es

theorem nodup_eraseKeys (ks : List κ) (hnd : (es.map key).Nodup) :
    ((eraseKeys key ks es).map key).Nodup := by
  induction ks generalizing es with
  | nil => exact hnd
  | cons k ks ih => exact ih (hnd.sublist (List.eraseP_sublist.map key))

theorem lookup_eraseKeys (ks : List κ) (hnd : (es.map key).Nodup) :
    lookup key k (eraseKeys key ks es) = if k ∈ ks then none else lookup key k es := by
  induction ks generalizing es with
  | nil => rfl
  | cons x ks ih =>
      have hnd' : ((es.eraseP fun e => key e = x).map key).Nodup :=
        hnd.sublist (List.eraseP_sublist.map key)
      have hlook := ih hnd'
      rw [eraseKeys, List.foldl_cons, ← eraseKeys, hlook]
      by_cases hx : k = x
      · subst hx
        simp [lookup_eraseP_self hnd]
      · rw [lookup_eraseP_ne hx]
        simp [hx]

theorem ensure_of_mem (h : k ∈ es.map key) : ensure key k e es = es := by
  rw [ensure]
  cases hl : lookup key k es with
  | none => exact absurd h (lookup_eq_none_iff.mp hl)
  | some _ => rfl

theorem ensure_of_not_mem (h : k ∉ es.map key) : ensure key k e es = es ++ [e] := by
  rw [ensure, lookup_eq_none_iff.mpr h]

theorem map_key_ensure [Decidable (k ∈ es.map key)] (he : key e = k) :
    (ensure key k e es).map key = if k ∈ es.map key then es.map key else es.map key ++ [k] := by
  split
  · next h => rw [ensure_of_mem h]
  · next h => rw [ensure_of_not_mem h, List.map_append, List.map_singleton, he]

theorem isSome_lookup_ensure (he : key e = k) : (lookup key k (ensure key k e es)).isSome := by
  rw [ensure]
  cases hl : lookup key k es with
  | none => simp [lookup_append, hl, lookup_cons, he]
  | some x => simp [hl]

theorem mem_ensure {x : ε} (h : x ∈ ensure key k e es) : x ∈ es ∨ x = e := by
  rw [ensure] at h
  split at h
  · exact .inl h
  · simpa using h

end Elements

/-! ## order of first appearance -/

section EraseDups

variable {ι : Type} [BEq ι] [LawfulBEq ι]

/-- Appending a key only when it is new keeps the keys in order of first
appearance. -/
theorem eraseDups_concat (ks : List ι) (k : ι) [Decidable (k ∈ ks)] :
    (ks ++ [k]).eraseDups = if k ∈ ks then ks.eraseDups else ks.eraseDups ++ [k] := by
  rw [List.eraseDups_append]
  split
  · next h => simp [List.removeAll, h]
  · next h => simp [List.removeAll, h, List.eraseDups_cons]

theorem mem_eraseDups {ks : List ι} {k : ι} : k ∈ ks.eraseDups ↔ k ∈ ks := by
  induction ks using List.reverseRecOn with
  | nil => simp
  | append_singleton ks x ih =>
      rw [eraseDups_concat]
      split
      · next h =>
          rw [ih, List.mem_append, List.mem_singleton]
          exact ⟨.inl, fun h' => h'.elim id fun hk => hk ▸ h⟩
      · simp [ih]

theorem nodup_eraseDups (ks : List ι) : ks.eraseDups.Nodup := by
  induction ks using List.reverseRecOn with
  | nil => simp
  | append_singleton ks x ih =>
      rw [eraseDups_concat]
      split
      · exact ih
      · next h =>
          refine List.nodup_append.mpr ⟨ih, List.nodup_singleton x, ?_⟩
          rintro a ha b hb rfl
          exact h (mem_eraseDups.mp (List.mem_singleton.mp hb ▸ ha))

theorem eraseDups_of_nodup {ks : List ι} (h : ks.Nodup) : ks.eraseDups = ks := by
  induction ks using List.reverseRecOn with
  | nil => rfl
  | append_singleton ks x ih =>
      obtain ⟨hnodup, -, hdisjoint⟩ := List.nodup_append.mp h
      have hnot : x ∉ ks := fun hmem => hdisjoint x hmem x (List.mem_singleton_self x) rfl
      rw [eraseDups_concat, if_neg hnot, ih hnodup]

theorem subperm_eraseDups (ks : List ι) : ks.eraseDups.Subperm ks :=
  List.subperm_of_subset (nodup_eraseDups ks) fun _ hk => mem_eraseDups.mp hk

/-- Nothing is left out exactly when there are no repetitions. -/
theorem nodup_of_length_eraseDups {ks : List ι} (h : ks.length ≤ ks.eraseDups.length) :
    ks.Nodup :=
  ((subperm_eraseDups ks).perm_of_length_le h).nodup_iff.mp (nodup_eraseDups ks)

end EraseDups

/-- Sorting a list by a key loses and duplicates nothing. -/
theorem perm_flatMap_filter {α : Type} {f : α → κ} {ks : List κ} (hks : ks.Nodup) {l : List α}
    (h : ∀ x ∈ l, f x ∈ ks) : (ks.flatMap fun k => l.filter fun x => f x = k).Perm l := by
  induction ks generalizing l with
  | nil =>
      rw [List.eq_nil_iff_forall_not_mem.mpr fun x hx => List.not_mem_nil (h x hx)]
      rfl
  | cons k ks ih =>
      rw [List.nodup_cons] at hks
      rw [List.flatMap_cons]
      have hrest : (ks.flatMap fun k' => l.filter fun x => f x = k').Perm
          (l.filter fun x => ¬ f x = k) := by
        have hsub : ∀ k' ∈ ks, (l.filter fun x => f x = k') =
            (l.filter fun x => ¬ f x = k).filter fun x => f x = k' := fun k' hk' => by
          rw [List.filter_filter]
          refine List.filter_congr fun x _ => ?_
          by_cases hx : f x = k'
          · simp [hx, show k' ≠ k from fun heq => hks.1 (heq ▸ hk')]
          · simp [hx]
        rw [List.flatMap_congr hsub]
        refine ih hks.2 fun x hx => ?_
        obtain ⟨hx, hne⟩ := List.mem_filter.mp hx
        exact (List.mem_cons.mp (h x hx)).resolve_left (by simpa using hne)
      exact (hrest.append_left _).trans (by simpa using List.filter_append_perm (f · = k) l)

/-! ## multimaps -/

/-- Buckets in order of first insertion; in a bucket the newest value comes
first. -/
abbrev Multimap (κ α : Type) := List (κ × List α)

namespace Multimap

/-- Store `v` under `k`. -/
def push (k : κ) (v : α) : Multimap κ α → Multimap κ α
  | [] => [(k, [v])]
  | b :: m => if b.1 = k then (b.1, v :: b.2) :: m else b :: push k v m

/-- The values stored under `k`. -/
def values (k : κ) (m : Multimap κ α) : Option (List α) := (lookup Prod.fst k m).map Prod.snd

/-- Everything stored, with its key. -/
def pairs (m : Multimap κ α) : List (κ × α) := m.flatMap fun b => b.2.map fun v => (b.1, v)

/-- Store the elements of a list one after the other. -/
def ofList (ps : List (κ × α)) : Multimap κ α := ps.foldl (fun m p => push p.1 p.2 m) []

section Push

variable {k k' : κ} {v : α} {m : Multimap κ α}

theorem ofList_concat (ps : List (κ × α)) (p : κ × α) :
    ofList (ps ++ [p]) = push p.1 p.2 (ofList ps) := by
  simp [ofList, List.foldl_append]

theorem keys_push : (push k v m).map Prod.fst =
    if k ∈ m.map Prod.fst then m.map Prod.fst else m.map Prod.fst ++ [k] := by
  induction m with
  | nil => simp [push]
  | cons b m ih =>
      rw [push]
      by_cases h : b.1 = k
      · simp [h]
      · rw [if_neg h, List.map_cons, ih, List.map_cons]
        by_cases hk : k ∈ m.map Prod.fst
        · rw [if_pos hk, if_pos (List.mem_cons_of_mem _ hk)]
        · rw [if_neg hk, if_neg, List.cons_append]
          exact fun hm => (List.mem_cons.mp hm).elim (fun he => h he.symm) hk

theorem values_push_self : values k (push k v m) = some (v :: (values k m).getD []) := by
  induction m with
  | nil => simp [push, values, lookup_cons]
  | cons b m ih =>
      rw [push]
      by_cases h : b.1 = k
      · simp [h, values, lookup_cons]
      · simpa [h, values, lookup_cons] using ih

theorem values_push_ne (hne : k' ≠ k) : values k' (push k v m) = values k' m := by
  induction m with
  | nil => simp [push, values, lookup_cons, hne.symm]
  | cons b m ih =>
      rw [push]
      by_cases h : b.1 = k
      · simp [h, values, lookup_cons, hne.symm]
      · simp only [h, if_false, values, lookup_cons]
        split
        · rfl
        · exact ih

theorem pairs_push : (pairs (push k v m)).Perm ((k, v) :: pairs m) := by
  induction m with
  | nil => simp [push, pairs]
  | cons b m ih =>
      rw [push]
      by_cases h : b.1 = k
      · simp [h, pairs]
      · rw [if_neg h]
        show (b.2.map (fun w => (b.1, w)) ++ pairs (push k v m)).Perm
          ((k, v) :: (b.2.map (fun w => (b.1, w)) ++ pairs m))
        exact (ih.append_left _).trans List.perm_middle

theorem keys_ofList (ps : List (κ × α)) :
    (ofList ps).map Prod.fst = (ps.map Prod.fst).eraseDups := by
  induction ps using List.reverseRecOn with
  | nil => rfl
  | append_singleton ps p ih =>
      rw [ofList_concat, keys_push, ih, List.map_append, List.map_singleton, eraseDups_concat]
      simp only [mem_eraseDups]

/-- A key has what was stored under it, newest first. -/
theorem values_ofList (ps : List (κ × α)) (k : κ) :
    (values k (ofList ps)).getD [] = ((ps.filter fun p => p.1 = k).map Prod.snd).reverse := by
  induction ps using List.reverseRecOn with
  | nil => rfl
  | append_singleton ps p ih =>
      rw [ofList_concat, List.filter_append, List.map_append, List.reverse_append]
      by_cases h : p.1 = k
      · subst h
        rw [values_push_self, Option.getD_some, ih]
        simp
      · rw [values_push_ne (fun hk => h hk.symm), ih]
        simp [h]

theorem nodup_keys_ofList (ps : List (κ × α)) : ((ofList ps).map Prod.fst).Nodup := by
  rw [keys_ofList]
  exact nodup_eraseDups _

/-- What is stored under other keys does not matter. -/
theorem values_foldl_push_ne (ps : List (κ × α)) (hk : k ∉ ps.map Prod.fst) (m : Multimap κ α) :
    values k (ps.foldl (fun m p => push p.1 p.2 m) m) = values k m := by
  induction ps generalizing m with
  | nil => rfl
  | cons p ps ih =>
      rw [List.map_cons, List.mem_cons, not_or] at hk
      rw [List.foldl_cons, ih hk.2, values_push_ne hk.1]

/-- A bucket has what was stored under its key, newest first. -/
theorem snd_of_mem_ofList {ps : List (κ × α)} {b : κ × List α} (h : b ∈ ofList ps) :
    b.2 = ((ps.filter fun p => p.1 = b.1).map Prod.snd).reverse := by
  have hvalues : values b.1 (ofList ps) = some b.2 := by
    rw [values, lookup_of_mem (nodup_keys_ofList ps) h]
    rfl
  rw [← values_ofList, hvalues, Option.getD_some]

/-- No bucket is empty. -/
theorem snd_ne_nil_of_mem_ofList {ps : List (κ × α)} {b : κ × List α} (h : b ∈ ofList ps) :
    b.2 ≠ [] := by
  have hkey : b.1 ∈ ps.map Prod.fst := by
    rw [← mem_eraseDups, ← keys_ofList]
    exact List.mem_map_of_mem h
  obtain ⟨p, hp, hpk⟩ := List.mem_map.mp hkey
  rw [snd_of_mem_ofList h, Ne, List.reverse_eq_nil_iff, List.map_eq_nil_iff]
  exact List.ne_nil_of_mem (List.mem_filter.mpr ⟨hp, by simp [hpk]⟩)

theorem pairs_ofList (ps : List (κ × α)) : (pairs (ofList ps)).Perm ps := by
  induction ps using List.reverseRecOn with
  | nil => exact List.Perm.refl _
  | append_singleton ps p ih =>
      rw [ofList_concat]
      exact (pairs_push.trans (ih.cons p)).trans (List.perm_append_singleton p ps).symm

/-- Values may be mapped before they are stored, or after. -/
theorem push_map {β : Type} (f : α → β) (k : κ) (v : α) (m : Multimap κ α) :
    push k (f v) (m.map (Prod.map id (List.map f))) =
      (push k v m).map (Prod.map id (List.map f)) := by
  induction m with
  | nil => rfl
  | cons b m ih =>
      rw [List.map_cons, push, push]
      by_cases h : b.1 = k
      · simp [h]
      · simp [h, ih]

theorem pairs_ofList_map {β : Type} (f : α → β) (ps : List (κ × α)) :
    pairs (ofList (ps.map (Prod.map id f))) = (pairs (ofList ps)).map (Prod.map id f) := by
  have hmap : ofList (ps.map (Prod.map id f)) = (ofList ps).map (Prod.map id (List.map f)) := by
    induction ps using List.reverseRecOn with
    | nil => rfl
    | append_singleton ps p ih =>
        rw [List.map_append, List.map_singleton, ofList_concat, ofList_concat, ih]
        exact push_map f p.1 p.2 _
  rw [hmap, pairs, pairs, List.flatMap_map, List.map_flatMap]
  simp [Function.comp_def]

/-- Nothing is lost. -/
theorem sum_length_ofList (ps : List (κ × α)) :
    ((ofList ps).map fun b => b.2.length).sum = ps.length := by
  rw [← (pairs_ofList ps).length_eq, pairs, List.length_flatMap]
  simp

end Push

end Multimap

end Keyed
