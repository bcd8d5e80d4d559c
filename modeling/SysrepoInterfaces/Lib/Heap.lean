import Mathlib.Data.List.Perm.Basic
import SysrepoInterfaces.Lib.CProg

/-!
# SysrepoInterfaces.Lib.Heap

Programs that allocate.  A heap knows which blocks are allocated and as what;
to release or to read one that is not ends the process.

`Does` says which blocks a program takes over and which it leaves, and that it
leaves alone whatever else is allocated.  `Tracks` says the same of a program
that does to the rest of the state what a program without a heap does.
-/

namespace Ownership

open CProg

variable {σ κ α β γ : Type}

/-! ## heaps -/

/-- A block, by its address, with what it was allocated as. -/
abbrev Block (κ : Type) := Nat × κ

/-- The blocks that are allocated; an address is used once. -/
structure Heap (κ : Type) where
  next : Nat
  live : List (Block κ)
  below : ∀ b ∈ live, b.1 < next
  nodup : (live.map Prod.fst).Nodup

def Heap.empty : Heap κ where
  next := 0
  live := []
  below _ hb := absurd hb List.not_mem_nil
  nodup := List.nodup_nil

def Heap.alloc (h : Heap κ) (k : κ) : Heap κ where
  next := h.next + 1
  live := (h.next, k) :: h.live
  below b hb := by
    rcases List.mem_cons.mp hb with rfl | hb
    · exact Nat.lt_succ_self h.next
    · exact Nat.lt_succ_of_lt (h.below b hb)
  nodup := by
    refine List.nodup_cons.mpr ⟨fun hmem => ?_, h.nodup⟩
    obtain ⟨b, hb, haddr⟩ := List.mem_map.mp hmem
    exact absurd (h.below b hb) (by omega)

def Heap.free [DecidableEq κ] (h : Heap κ) (b : Block κ) : Heap κ where
  next := h.next
  live := h.live.erase b
  below c hc := h.below c (List.mem_of_mem_erase hc)
  nodup := h.nodup.sublist (List.erase_sublist.map Prod.fst)

/-- A state with a heap beside it. -/
structure WithHeap (σ κ : Type) where
  base : σ
  heap : Heap κ

/-! ## programs -/

/-- A program that does not touch the heap. -/
def embed (p : Prog σ α) : Prog (WithHeap σ κ) α := ⟨fun s =>
  ((p.run s.base).1, { s with base := (p.run s.base).2 })⟩

/-- `malloc`; returns the address. -/
def alloc (k : κ) : Prog (WithHeap σ κ) Nat := ⟨fun s =>
  (.ok s.heap.next, { s with heap := s.heap.alloc k })⟩

/-- `free`. -/
def release [DecidableEq κ] (b : Block κ) : Prog (WithHeap σ κ) Unit := ⟨fun s =>
  if b ∈ s.heap.live then (.ok (), { s with heap := s.heap.free b }) else (.crash, s)⟩

/-- Read from a block. -/
def touch [DecidableEq κ] (b : Block κ) : Prog (WithHeap σ κ) Unit := ⟨fun s =>
  if b ∈ s.heap.live then (.ok (), s) else (.crash, s)⟩

/-- The statements under the `out` label, which both exits run. -/
def after (q : Prog σ Unit) (p : Prog σ α) : Prog σ α := ⟨fun s =>
  match p.run s with
  | (.ok a, s') => (q >>= fun _ => pure a).run s'
  | (.error, s') => (q >>= fun _ => Prog.fail).run s'
  | (.crash, s') => (.crash, s')⟩

@[simp] theorem run_embed (p : Prog σ α) (s : WithHeap σ κ) :
    (embed p).run s = ((p.run s.base).1, { s with base := (p.run s.base).2 }) := rfl

theorem embed_bind (p : Prog σ α) (f : α → Prog σ β) :
    (embed (p >>= f) : Prog (WithHeap σ κ) β) = embed p >>= fun a => embed (f a) := by
  refine congrArg Prog.mk (funext fun s => ?_)
  rw [run_embed, Prog.run_bind p f]
  cases hrun : p.run s.base with
  | mk x s' => cases x <;> rfl

/-! ## programs that end normally -/

/-- Of the blocks `xs` and those it allocates, `p` leaves the blocks of its
result; it ends normally, and the rest of the heap and of the state is as it
was. -/
def Does (p : Prog (WithHeap σ κ) α) (xs : List (Block κ)) (Q : α → Prop)
    (foot : α → List (Block κ)) : Prop :=
  ∀ s rest, s.heap.live.Perm (xs ++ rest) → ∃ a h, p.run s = (.ok a, ⟨s.base, h⟩) ∧ Q a ∧
    h.live.Perm (foot a ++ rest)

section Does

variable {p : Prog (WithHeap σ κ) α} {f : α → Prog (WithHeap σ κ) β} {xs ys z : List (Block κ)}
  {Q : α → Prop} {Q' : β → Prop} {foot : α → List (Block κ)} {foot' : β → List (Block κ)}

theorem does_pure {a : α} (ha : Q a) (h : xs.Perm (foot a)) :
    Does (pure a : Prog (WithHeap σ κ) α) xs Q foot :=
  fun s _ hlive => ⟨a, s.heap, rfl, ha, hlive.trans (h.append_right _)⟩

/-- The blocks a program does not take over are the ones it leaves alone. -/
theorem Does.frame (hp : Does p xs Q foot) (z : List (Block κ)) :
    Does p (xs ++ z) Q fun a => foot a ++ z := by
  intro s rest hlive
  rw [List.append_assoc] at hlive
  obtain ⟨a, h, hrun, ha, hleft⟩ := hp s (z ++ rest) hlive
  exact ⟨a, h, hrun, ha, by rwa [List.append_assoc]⟩

theorem Does.perm (hp : Does p xs Q foot) (h : ys.Perm xs) : Does p ys Q foot :=
  fun s rest hlive => hp s rest (hlive.trans (h.append_right _))

theorem Does.weaken {P : α → Prop} {foot₁ : α → List (Block κ)} (hp : Does p xs Q foot)
    (hQ : ∀ a, Q a → P a) (hfoot : ∀ a, Q a → (foot a).Perm (foot₁ a)) : Does p xs P foot₁ := by
  intro s rest hlive
  obtain ⟨a, h, hrun, ha, hleft⟩ := hp s rest hlive
  exact ⟨a, h, hrun, hQ a ha, hleft.trans ((hfoot a ha).append_right _)⟩

/-- One step after another, the first on a part of the blocks. -/
theorem Does.bind (hp : Does p xs Q foot) (hxs : ys.Perm (xs ++ z))
    (hf : ∀ a, Q a → Does (f a) (foot a ++ z) Q' foot') : Does (p >>= f) ys Q' foot' := by
  intro s rest hlive
  obtain ⟨a, h, hrun, ha, hleft⟩ := (hp.frame z).perm hxs s rest hlive
  obtain ⟨b, h', hrun', hb, hleft'⟩ := hf a ha ⟨s.base, h⟩ rest hleft
  exact ⟨b, h', by rw [Prog.run_bind_ok hrun, hrun'], hb, hleft'⟩

theorem does_alloc (k : κ) :
    Does (alloc k : Prog (WithHeap σ κ) Nat) [] (fun _ => True) fun addr => [(addr, k)] :=
  fun s _ hlive => ⟨s.heap.next, s.heap.alloc k, rfl, trivial, hlive.cons _⟩

/-- Two lists of blocks in another order. -/
theorem perm_of_count [DecidableEq κ] (h : ∀ b, xs.count b = ys.count b) : xs.Perm ys :=
  List.perm_iff_count.mpr h

/-- Nothing is set aside. -/
theorem perm_append_nil (ys : List (Block κ)) : (ys ++ []).Perm ([] ++ ys) :=
  List.perm_append_comm

/-- A loop that releases the blocks of each element. -/
theorem does_forM {g : γ → Prog (WithHeap σ κ) PUnit} {blocks : γ → List (Block κ)} {cs : List γ}
    (hg : ∀ c ∈ cs, Does (g c) (blocks c) (fun _ => True) fun _ => []) :
    Does (forM cs g) (cs.flatMap blocks) (fun _ => True) fun _ => [] := by
  induction cs with
  | nil => exact does_pure trivial (List.Perm.refl _)
  | cons c cs ih =>
      rw [List.forM_cons, List.flatMap_cons]
      have hrest := ih fun c hc => hg c (List.mem_cons_of_mem _ hc)
      exact (hg c List.mem_cons_self).bind (List.Perm.refl _) fun _ _ => hrest

variable [DecidableEq κ]

theorem does_release (b : Block κ) :
    Does (release b : Prog (WithHeap σ κ) Unit) [b] (fun _ => True) fun _ => [] := by
  intro s rest hlive
  have hmem : b ∈ s.heap.live := hlive.mem_iff.mpr List.mem_cons_self
  have hleft := hlive.erase b
  rw [List.singleton_append, List.erase_cons_head] at hleft
  exact ⟨(), s.heap.free b, by simp [release, hmem], trivial, hleft⟩

theorem does_touch {b : Block κ} (hb : b ∈ xs) :
    Does (touch b : Prog (WithHeap σ κ) Unit) xs (fun _ => True) fun _ => xs := by
  intro s rest hlive
  have hmem : b ∈ s.heap.live := hlive.mem_iff.mpr (List.mem_append_left _ hb)
  exact ⟨(), s.heap, by simp [touch, hmem], trivial, hlive⟩

theorem does_forM_touch {bs : List (Block κ)} (hbs : ∀ b ∈ bs, b ∈ xs) :
    Does (forM bs touch : Prog (WithHeap σ κ) PUnit) xs (fun _ => True) fun _ => xs := by
  induction bs with
  | nil => exact does_pure trivial (List.Perm.refl _)
  | cons b bs ih =>
      rw [List.forM_cons]
      refine (does_touch (hbs b List.mem_cons_self)).bind (z := []) (by simp) fun _ _ => ?_
      exact (ih fun b hb => hbs b (List.mem_cons_of_mem _ hb)).perm (by simp)

theorem does_forM_release (bs : List (Block κ)) :
    Does (forM bs release : Prog (WithHeap σ κ) PUnit) bs (fun _ => True) fun _ => [] :=
  (does_forM fun b _ => does_release b).perm (by simp)

end Does

/-! ## programs that do what another does -/

/-- From the state `s`, with the blocks `xs`, `p` ends as `q` does, with the same
rest of the state.  At a normal end the results satisfy `Q`, and there are left
the blocks of the result and some that were lost, allocated as `leak` says; at
an early end there are left blocks that `lost` allows. -/
def Tracks (p : Prog (WithHeap σ κ) α) (q : Prog σ β) (s : σ) (xs : List (Block κ))
    (Q : α → β → σ → Prop) (foot : α → List (Block κ)) (leak : List κ)
    (lost : List κ → Prop) : Prop :=
  ∀ h rest, h.live.Perm (xs ++ rest) → match q.run s with
    | (.ok b, s') => ∃ a us h', p.run ⟨s, h⟩ = (.ok a, ⟨s', h'⟩) ∧ Q a b s' ∧
        us.map Prod.snd = leak ∧ h'.live.Perm (foot a ++ us ++ rest)
    | (.error, s') => ∃ us h', p.run ⟨s, h⟩ = (.error, ⟨s', h'⟩) ∧ lost (us.map Prod.snd) ∧
        h'.live.Perm (us ++ rest)
    | (.crash, s') => ∃ h', p.run ⟨s, h⟩ = (.crash, ⟨s', h'⟩)

section Tracks

variable {p : Prog (WithHeap σ κ) α} {q : Prog σ β} {s : σ} {xs ys z u : List (Block κ)}
  {Q : α → β → σ → Prop} {foot : α → List (Block κ)} {leak leak' : List κ} {lost : List κ → Prop}

/-- What is not part of the result is lost. -/
theorem tracks_pure {a : α} {b : β} (hQ : Q a b s) (hxs : xs.Perm (foot a ++ u))
    (hu : u.map Prod.snd = leak) : Tracks (pure a) (pure b) s xs Q foot leak lost := by
  intro h rest hlive
  exact ⟨a, u, h, rfl, hQ, hu, hlive.trans (hxs.append_right rest)⟩

theorem tracks_fail (hlost : lost (xs.map Prod.snd)) :
    Tracks (Prog.fail : Prog (WithHeap σ κ) α) (Prog.fail : Prog σ β) s xs Q foot leak lost :=
  fun h _ hlive => ⟨xs, h, rfl, hlost, hlive⟩

/-- A step that does not touch the heap. -/
theorem tracks_embed (q : Prog σ α) (s : σ) (hlost : ∀ s', q.run s = (.error, s') → lost []) :
    Tracks (embed q : Prog (WithHeap σ κ) α) q s [] (fun a b s' => a = b ∧ q.run s = (.ok b, s'))
      (fun _ => []) [] lost := by
  intro h rest hlive
  cases hrun : q.run s with
  | mk x s' =>
      have hembed : (embed q).run ⟨s, h⟩ = (x, (⟨s', h⟩ : WithHeap σ κ)) := by
        rw [run_embed, hrun]
      cases x with
      | ok a => exact ⟨a, [], h, hembed, ⟨rfl, rfl⟩, rfl, hlive⟩
      | error => exact ⟨[], h, hembed, hlost s' hrun, hlive⟩
      | crash => exact ⟨h, hembed⟩

theorem Tracks.perm (hp : Tracks p q s xs Q foot leak lost) (h : ys.Perm xs) :
    Tracks p q s ys Q foot leak lost :=
  fun h' rest hlive => hp h' rest (hlive.trans (h.append_right rest))

theorem Tracks.weaken {Q' : α → β → σ → Prop} {foot' : α → List (Block κ)}
    {lost' : List κ → Prop} (hp : Tracks p q s xs Q foot leak lost)
    (hQ : ∀ a b s', Q a b s' → Q' a b s' ∧ (foot a).Perm (foot' a))
    (hlost : ∀ ks, lost ks → lost' ks) : Tracks p q s xs Q' foot' leak lost' := by
  intro h rest hlive
  have hrun := hp h rest hlive
  split at hrun
  · obtain ⟨a, us, h', hrun, ha, hus, hleft⟩ := hrun
    obtain ⟨hQ', hfoot⟩ := hQ _ _ _ ha
    exact ⟨a, us, h', hrun, hQ', hus, hleft.trans ((hfoot.append_right us).append_right rest)⟩
  · obtain ⟨us, h', hrun, hus, hleft⟩ := hrun
    exact ⟨us, h', hrun, hlost _ hus, hleft⟩
  · exact hrun

/-- One step after another, the first on a part of the blocks. -/
theorem Tracks.bind {α' β' : Type} {f : α → Prog (WithHeap σ κ) α'} {g : β → Prog σ β'}
    {Q' : α' → β' → σ → Prop} {foot' : α' → List (Block κ)} {lost₁ lost₂ : List κ → Prop}
    (hp : Tracks p q s xs Q foot leak lost₁) (hxs : ys.Perm (xs ++ z))
    (hf : ∀ a b s', Q a b s' → Tracks (f a) (g b) s' (foot a ++ z) Q' foot' leak' lost₂)
    (hlost₁ : ∀ ks, lost₁ ks → lost (ks ++ z.map Prod.snd))
    (hlost₂ : ∀ ks, lost₂ ks → lost (leak ++ ks)) :
    Tracks (p >>= f) (q >>= g) s ys Q' foot' (leak ++ leak') lost := by
  intro h rest hlive
  have hlive' : h.live.Perm (xs ++ (z ++ rest)) := by
    rw [← List.append_assoc]
    exact hlive.trans (hxs.append_right rest)
  have hfirst := hp h (z ++ rest) hlive'
  rw [Prog.run_bind q g]
  cases hq : q.run s with
  | mk x s' =>
      rw [hq] at hfirst
      cases x with
      | error =>
          obtain ⟨us, h', hrun, hus, hleft⟩ := hfirst
          refine ⟨us ++ z, h', Prog.run_bind_error hrun, ?_, by rwa [List.append_assoc]⟩
          rw [List.map_append]
          exact hlost₁ _ hus
      | crash =>
          obtain ⟨h', hrun⟩ := hfirst
          exact ⟨h', Prog.run_bind_crash hrun⟩
      | ok b =>
          obtain ⟨a, us, h', hrun, ha, hus, hleft⟩ := hfirst
          have hmove : (foot a ++ us ++ (z ++ rest)).Perm (foot a ++ z ++ (us ++ rest)) := by
            simp only [List.append_assoc]
            refine List.Perm.append_left _ ?_
            simp only [← List.append_assoc]
            exact List.perm_append_comm.append_right rest
          have hsecond := hf a b s' ha h' (us ++ rest) (hleft.trans hmove)
          simp only [Prog.run_bind_ok hrun]
          split at hsecond
          · obtain ⟨a', vs, h'', hrun', ha', hvs, hleft'⟩ := hsecond
            refine ⟨a', us ++ vs, h'', hrun', ha', by rw [List.map_append, hvs, hus], ?_⟩
            refine hleft'.trans ?_
            simp only [List.append_assoc]
            exact List.Perm.append_left _ (List.perm_append_comm_assoc vs us rest)
          · obtain ⟨vs, h'', hrun', hvs, hleft'⟩ := hsecond
            refine ⟨us ++ vs, h'', hrun', ?_, ?_⟩
            · rw [List.map_append, hus]
              exact hlost₂ _ hvs
            · rw [List.append_assoc]
              exact hleft'.trans (List.perm_append_comm_assoc vs us rest)
          · exact hsecond

/-- The same for steps that end normally or not at all. -/
theorem Tracks.seq {α' β' : Type} {f : α → Prog (WithHeap σ κ) α'} {g : β → Prog σ β'}
    {Q' : α' → β' → σ → Prop} {foot' : α' → List (Block κ)}
    (hp : Tracks p q s xs Q foot leak fun _ => False) (hxs : ys.Perm (xs ++ z))
    (hf : ∀ a b s', Q a b s' →
      Tracks (f a) (g b) s' (foot a ++ z) Q' foot' leak' fun _ => False) :
    Tracks (p >>= f) (q >>= g) s ys Q' foot' (leak ++ leak') fun _ => False :=
  hp.bind hxs hf (fun _ h => h.elim) fun _ h => h.elim

/-- A step of the program with the heap alone. -/
theorem Does.tracks {α' : Type} {f : α → Prog (WithHeap σ κ) α'} {Q₁ : α → Prop}
    {foot' : α' → List (Block κ)} {Q' : α' → β → σ → Prop}
    (hp : Does p xs Q₁ foot) (hxs : ys.Perm (xs ++ z))
    (hf : ∀ a, Q₁ a → Tracks (f a) q s (foot a ++ z) Q' foot' leak lost) :
    Tracks (p >>= f) q s ys Q' foot' leak lost := by
  intro h rest hlive
  obtain ⟨a, h', hrun, ha, hleft⟩ := (hp.frame z).perm hxs ⟨s, h⟩ rest hlive
  rw [Prog.run_bind_ok hrun]
  exact hf a ha h' rest hleft

/-- What stands under `out` releases blocks at either end. -/
theorem Tracks.after {q' : Prog (WithHeap σ κ) Unit} (hp : Tracks p q s xs Q foot leak lost)
    (hq' : Does q' z (fun _ => True) fun _ => []) (hys : ys.Perm (xs ++ z)) :
    Tracks (after q' p) q s ys Q foot leak lost := by
  have hout : ∀ s' us h' rest, h'.live.Perm (us ++ (z ++ rest)) →
      ∃ h'', q'.run ⟨s', h'⟩ = (.ok (), ⟨s', h''⟩) ∧ h''.live.Perm (us ++ rest) := by
    intro s' us h' rest hleft
    have hmove : (us ++ (z ++ rest)).Perm (z ++ (us ++ rest)) := by
      simp only [← List.append_assoc]
      exact List.perm_append_comm.append_right rest
    obtain ⟨_, h'', hrun, _, hleft'⟩ := hq' ⟨s', h'⟩ (us ++ rest) (hleft.trans hmove)
    exact ⟨h'', hrun, hleft'⟩
  intro h rest hlive
  have hlive' : h.live.Perm (xs ++ (z ++ rest)) := by
    rw [← List.append_assoc]
    exact hlive.trans (hys.append_right rest)
  have hp' := hp h (z ++ rest) hlive'
  unfold Ownership.after
  cases hq : q.run s with
  | mk x s' =>
      rw [hq] at hp'
      cases x with
      | ok b =>
          obtain ⟨a, us, h', hrun, ha, hus, hleft⟩ := hp'
          obtain ⟨h'', hrun', hleft'⟩ := hout s' _ h' rest hleft
          exact ⟨a, us, h'', by simp only [hrun, Prog.run_bind_ok hrun', Prog.run_pure], ha, hus,
            hleft'⟩
      | error =>
          obtain ⟨us, h', hrun, hus, hleft⟩ := hp'
          obtain ⟨h'', hrun', hleft'⟩ := hout s' us h' rest hleft
          exact ⟨us, h'', by simp only [hrun, Prog.run_bind_ok hrun', Prog.run_fail], hus, hleft'⟩
      | crash =>
          obtain ⟨h', hrun⟩ := hp'
          exact ⟨h', by simp only [hrun]⟩

/-- A function with an epilogue: its return value says which end it had. -/
theorem Tracks.status {p : Prog (WithHeap σ κ) β} {Q : β → β → σ → Prop}
    {foot : β → List (Block κ)} (hp : Tracks p q s xs Q foot leak lost) (code : β)
    {h : Heap κ} {rest : List (Block κ)} (hlive : h.live.Perm (xs ++ rest)) :
    match (q.status code).run s with
    | (.ok b, s') => ∃ a us h', (p.status code).run ⟨s, h⟩ = (.ok a, ⟨s', h'⟩) ∧
        (Q a b s' ∧ us.map Prod.snd = leak ∧ h'.live.Perm (foot a ++ us ++ rest) ∨
          a = code ∧ b = code ∧ lost (us.map Prod.snd) ∧ h'.live.Perm (us ++ rest))
    | (.error, _) => False
    | (.crash, s') => ∃ h', (p.status code).run ⟨s, h⟩ = (.crash, ⟨s', h'⟩) := by
  have hp' := hp h rest hlive
  rw [Prog.run_status, Prog.run_status]
  cases hq : q.run s with
  | mk x s' =>
      rw [hq] at hp'
      cases x with
      | ok b =>
          obtain ⟨a, us, h', hrun, hends⟩ := hp'
          exact ⟨a, us, h', by rw [hrun], .inl hends⟩
      | error =>
          obtain ⟨us, h', hrun, hends⟩ := hp'
          exact ⟨code, us, h', by rw [hrun], .inr ⟨rfl, rfl, hends⟩⟩
      | crash =>
          obtain ⟨h', hrun⟩ := hp'
          exact ⟨h', by rw [hrun]⟩

end Tracks

/-! ## programs that leave the heap as it is -/

/-- `p` does what `q` does and leaves the blocks it found; at an early end there
are more, which `lost` allows. -/
def Mirrors (p : Prog (WithHeap σ κ) α) (q : Prog σ α) (lost : List κ → Prop) : Prop :=
  ∀ s, Tracks p q s [] (fun a b _ => a = b) (fun _ => []) [] lost

section Mirrors

variable {p : Prog (WithHeap σ κ) α} {q : Prog σ α} {lost lost' : List κ → Prop}

theorem mirrors_pure (a : α) : Mirrors (pure a : Prog (WithHeap σ κ) α) (pure a) lost :=
  fun _ => tracks_pure rfl (u := []) (List.Perm.refl _) rfl

theorem mirrors_embed (q : Prog σ α) (h : ∀ s s', q.run s = (.error, s') → lost []) :
    Mirrors (embed q) q lost := by
  intro s
  refine (tracks_embed q s (h s)).weaken ?_ fun _ h => h
  rintro _ _ _ ⟨hab, _⟩
  exact ⟨hab, List.Perm.refl _⟩

theorem Mirrors.bind {f : α → Prog (WithHeap σ κ) β} {g : α → Prog σ β}
    (hp : Mirrors p q lost) (hf : ∀ a, Mirrors (f a) (g a) lost) :
    Mirrors (p >>= f) (q >>= g) lost := by
  intro s
  refine (hp s).bind (z := []) (List.Perm.refl _) ?_ ?_ fun _ h => h
  · intro a b s' hab
    subst hab
    exact hf a s'
  · intro ks h
    rwa [List.map_nil, List.append_nil]

theorem mirrors_foldlM {f : β → γ → Prog (WithHeap σ κ) β} {g : β → γ → Prog σ β}
    (hf : ∀ b c, Mirrors (f b c) (g b c) lost) (cs : List γ) (b : β) :
    Mirrors (cs.foldlM f b) (cs.foldlM g b) lost := by
  induction cs generalizing b with
  | nil => exact mirrors_pure b
  | cons c cs ih =>
      rw [List.foldlM_cons, List.foldlM_cons]
      exact (hf b c).bind fun b' => ih b'

end Mirrors

end Ownership
