import SysrepoInterfaces.Routing.RouteHash
import SysrepoInterfaces.Routing.Datastore

/-!
# SysrepoInterfaces.Routing.Batches

The change loop of `apply_static_routes_changes`, entry by entry.  A whole
entry opens a route of its own and points `routes_head` at it, so its leaves
are recorded where they belong.  An entry that is kept opens nothing, and a
leaf it has to record goes wherever the last whole entry left the pointer.
-/

namespace SysrepoInterfaces.Routing

open CProg Keyed

/-! ## the batches -/

@[simp] theorem Batches.get_set_self (b : Batches) (batch : Batch)
    (routes : List RouteListHashElement) : (b.set batch routes).get batch = routes := by
  cases batch <;> rfl

theorem Batches.get_set_ne (b : Batches) {batch other : Batch} (h : other ≠ batch)
    (routes : List RouteListHashElement) : (b.set batch routes).get other = b.get other := by
  cases batch <;> cases other <;> first | rfl | exact absurd rfl h

@[simp] theorem Batches.routesHead_set (b : Batches) (batch : Batch)
    (routes : List RouteListHashElement) : (b.set batch routes).routesHead = b.routesHead := by
  cases batch <;> rfl

@[simp] theorem Batches.routesHead_updateHead (b : Batches) (batch : Batch) (addr : NlAddr)
    (f : Route → Route) : (b.updateHead batch addr f).routesHead = b.routesHead :=
  Batches.routesHead_set ..

/-- The state after a whole entry's key was read. -/
def Batches.openRoute (b : Batches) (batch : Batch) (addr : NlAddr) : Batches :=
  { b.set batch (routeListHashPush (b.get batch) addr {}) with routesHead := some (batch, addr) }

/-! ## single changes -/

/-- Whether the loop records the leaf: a description or a next-hop-address
that was created or deleted. -/
def LeafChange.Recorded (l : LeafChange) : Prop :=
  (l.operation = .created ∨ l.operation = .deleted) ∧ l.leaf ≠ .outgoingInterface

instance (l : LeafChange) : Decidable l.Recorded := inferInstanceAs (Decidable (_ ∧ _))

/-- What recording a leaf does to the route it is recorded on. -/
def LeafChange.write (env : RoutingEnv) (l : LeafChange) : Exit (Route → Route) :=
  match l.leaf with
  | .description => .ok fun route => routeSetDescription route (some l.value)
  | .outgoingInterface => .ok id
  | .nextHopAddress => do
      let gateway ← nlAddrParse env (some l.value)
      return fun route =>
        { route with nextHop := routeNextHopSetSimpleGateway route.nextHop (some gateway) }

/-- The key of a whole entry opens a new route. -/
theorem staticRoutesStep_key (env : RoutingEnv) (b : Batches) (batch : Batch) (dest : String) :
    staticRoutesStep env b (keyChange batch dest) =
      (nlAddrParse env (some dest) >>= fun addr => Exit.ok (b.openRoute batch addr)) := by
  have hname : strPrefix "destination-prefix" "destination-prefix" = true := by decide
  cases batch <;>
    cases h : nlAddrParse env (some dest) <;>
      simp [staticRoutesStep, keyChange, Batch.operation, collectChange, hname, h,
        routeListHashAdd_eq, Batches.openRoute]

theorem collectChange_leaf (env : RoutingEnv) (batch : Batch) (b : Batches) (l : LeafChange) :
    collectChange env batch b l.leaf.nodeName (some l.value) =
      if l.leaf = .outgoingInterface then .ok b
      else match b.routesHead with
        | none => .error
        | some (head, addr) => l.write env >>= fun f => Exit.ok (b.updateHead head addr f) := by
  obtain ⟨leaf, operation, value⟩ := l
  cases leaf with
  | description =>
      have h1 : strPrefix "destination-prefix" "description" = false := by decide
      have h2 : strPrefix "description" "description" = true := by decide
      simp only [RouteLeaf.nodeName, collectChange, h1, h2, LeafChange.write]
      rfl
  | outgoingInterface =>
      have h1 : strPrefix "destination-prefix" "outgoing-interface" = false := by decide
      have h2 : strPrefix "description" "outgoing-interface" = false := by decide
      have h3 : strPrefix "next-hop-address" "outgoing-interface" = false := by decide
      simp [RouteLeaf.nodeName, collectChange, h1, h2, h3]
  | nextHopAddress =>
      have h1 : strPrefix "destination-prefix" "next-hop-address" = false := by decide
      have h2 : strPrefix "description" "next-hop-address" = false := by decide
      have h3 : strPrefix "next-hop-address" "next-hop-address" = true := by decide
      simp only [RouteLeaf.nodeName, collectChange, h1, h2, h3, LeafChange.write]
      cases b.routesHead with
      | none => rfl
      | some head => cases nlAddrParse env (some value) <;> simp

/-- A recorded leaf is written to the route under `routes_head`; any other
leaf changes nothing. -/
theorem staticRoutesStep_leaf (env : RoutingEnv) (b : Batches) (l : LeafChange) :
    staticRoutesStep env b l.toChange =
      if l.Recorded then match b.routesHead with
        | none => .error
        | some (head, addr) => l.write env >>= fun f => Exit.ok (b.updateHead head addr f)
      else .ok b := by
  rw [staticRoutesStep, LeafChange.toChange]
  cases h : l.operation with
  | created => simp [collectChange_leaf, LeafChange.Recorded, h]
  | modified => simp [LeafChange.Recorded, h]
  | deleted => simp [collectChange_leaf, LeafChange.Recorded, h]
  | moved => simp [LeafChange.Recorded, h]

/-- What recording the leaves of an entry does to one route. -/
def writeAll (env : RoutingEnv) : List LeafChange → Exit (Route → Route)
  | [] => .ok id
  | l :: ls =>
      if l.Recorded then do
        let f ← l.write env
        let g ← writeAll env ls
        return fun route => g (f route)
      else writeAll env ls

theorem Batches.updateHead_id (b : Batches) (batch : Batch) (addr : NlAddr) :
    b.updateHead batch addr id = b := by
  have hid : ∀ e : RouteListHashElement, { e with routesHead := modifyHead id e.routesHead } =
      e := by
    rintro ⟨pfx, _ | ⟨route, rest⟩⟩ <;> rfl
  rw [Batches.updateHead, adjust_id hid]
  cases batch <;> rfl

theorem Batches.updateHead_updateHead (b : Batches) (batch : Batch) (addr : NlAddr)
    (f g : Route → Route) :
    (b.updateHead batch addr f).updateHead batch addr g =
      b.updateHead batch addr fun route => g (f route) := by
  have hcomp : ∀ routes, modifyHead g (modifyHead f routes) =
      modifyHead (fun route => g (f route)) routes := by
    rintro (_ | ⟨route, rest⟩) <;> rfl
  rw [Batches.updateHead, Batches.updateHead, Batches.get_set_self,
    adjust_adjust (by intro e; rfl)]
  simp only [hcomp]
  cases batch <;> rfl

/-- With `routes_head` set, the leaves of an entry are written to one route. -/
theorem leaves_eq {env : RoutingEnv} {b : Batches} {batch : Batch} {addr : NlAddr}
    (hb : b.routesHead = some (batch, addr)) (ls : List LeafChange) :
    (ls.map LeafChange.toChange).foldlM (staticRoutesStep env) b =
      (writeAll env ls >>= fun f => Exit.ok (b.updateHead batch addr f)) := by
  induction ls generalizing b with
  | nil => simp [writeAll, Batches.updateHead_id]
  | cons l ls ih =>
      rw [List.map_cons, List.foldlM_cons, staticRoutesStep_leaf, hb, writeAll]
      by_cases hr : l.Recorded
      · cases hw : l.write env with
        | ok f =>
            simp only [hr, if_true, Exit.ok_bind]
            rw [ih ((b.routesHead_updateHead ..).trans hb)]
            cases writeAll env ls with
            | ok g => simp [Batches.updateHead_updateHead]
            | error => rfl
            | crash => rfl
        | error => simp [hr]
        | crash => simp [hr]
      · simp only [hr, if_false, Exit.ok_bind]
        exact ih hb

/-! ## entries -/

/-- Every address the loop reads in the entry parses. -/
def EntryChange.AddressesParse (env : RoutingEnv) (e : EntryChange) : Prop :=
  (e.kind ≠ .kept → (env.nlAddrParse e.destinationPrefix).isSome) ∧
    ∀ l ∈ e.leaves, l.Recorded → l.leaf = .nextHopAddress → (env.nlAddrParse l.value).isSome

/-- The entry has a leaf to record. -/
def EntryChange.Recording (e : EntryChange) : Prop := ∃ l ∈ e.leaves, l.Recorded

/-- The loop gets through the entries: their addresses parse, and no leaf is
to be recorded before the first whole entry.  `opened` tells whether there has
been one already. -/
def Accepted (env : RoutingEnv) : Bool → List EntryChange → Prop
  | _, [] => True
  | opened, e :: es =>
      e.AddressesParse env ∧ (e.Recording → e.kind ≠ .kept ∨ opened) ∧
        Accepted env (opened || e.kind ≠ .kept) es

theorem nlAddrParse_eq_ok {env : RoutingEnv} {text : String} {addr : NlAddr} :
    nlAddrParse env (some text) = .ok addr ↔ env.nlAddrParse text = some addr := by
  cases h : env.nlAddrParse text <;> simp [nlAddrParse, h]

theorem exists_write_iff {env : RoutingEnv} {l : LeafChange} :
    (∃ f, l.write env = .ok f) ↔
      (l.leaf = .nextHopAddress → (env.nlAddrParse l.value).isSome) := by
  obtain ⟨leaf, operation, value⟩ := l
  cases leaf with
  | description => simp [LeafChange.write]
  | outgoingInterface => simp [LeafChange.write]
  | nextHopAddress =>
      cases h : env.nlAddrParse value <;> simp [LeafChange.write, nlAddrParse, h]

/-- A leaf gets through when it has nothing to record, or a route to record it
on and a value that parses. -/
theorem exists_step_leaf_iff {env : RoutingEnv} {b : Batches} {l : LeafChange} :
    (∃ b', staticRoutesStep env b l.toChange = .ok b') ↔
      (l.Recorded → b.routesHead.isSome ∧
        (l.leaf = .nextHopAddress → (env.nlAddrParse l.value).isSome)) := by
  rw [staticRoutesStep_leaf, ← exists_write_iff]
  by_cases hr : l.Recorded
  · cases hb : b.routesHead with
    | none => simp [hr]
    | some head => simp [hr, Exit.bind_eq_ok]
  · simp [hr]

theorem routesHead_step_leaf {env : RoutingEnv} {b b' : Batches} {l : LeafChange}
    (h : staticRoutesStep env b l.toChange = .ok b') : b'.routesHead = b.routesHead := by
  rw [staticRoutesStep_leaf] at h
  split at h
  · split at h
    · cases h
    · obtain ⟨f, -, hf⟩ := Exit.bind_eq_ok.mp h
      rw [← Exit.ok.inj hf, Batches.routesHead_updateHead]
  · rw [Exit.ok.inj h]

theorem routesHead_leaves {env : RoutingEnv} {ls : List LeafChange} {b b' : Batches}
    (h : (ls.map LeafChange.toChange).foldlM (staticRoutesStep env) b = .ok b') :
    b'.routesHead = b.routesHead := by
  induction ls generalizing b with
  | nil => rw [Exit.ok.inj h]
  | cons l ls ih =>
      rw [List.map_cons, List.foldlM_cons] at h
      obtain ⟨b₁, h₁, h₂⟩ := Exit.bind_eq_ok.mp h
      exact (ih h₂).trans (routesHead_step_leaf h₁)

theorem exists_leaves_iff {env : RoutingEnv} {ls : List LeafChange} {b : Batches} :
    (∃ b', (ls.map LeafChange.toChange).foldlM (staticRoutesStep env) b = .ok b') ↔
      ((∃ l ∈ ls, l.Recorded) → b.routesHead.isSome) ∧
        ∀ l ∈ ls, l.Recorded → l.leaf = .nextHopAddress → (env.nlAddrParse l.value).isSome := by
  induction ls generalizing b with
  | nil => simp
  | cons l ls ih =>
      have hstep : (∃ b', staticRoutesStep env b l.toChange = .ok b') ↔ _ := exists_step_leaf_iff
      rw [List.map_cons, List.foldlM_cons]
      constructor
      · rintro ⟨b', h⟩
        obtain ⟨b₁, h₁, h₂⟩ := Exit.bind_eq_ok.mp h
        have hl := hstep.mp ⟨b₁, h₁⟩
        have hls := ih.mp ⟨b', h₂⟩
        rw [routesHead_step_leaf h₁] at hls
        grind
      · rintro ⟨hopen, hparse⟩
        obtain ⟨b₁, h₁⟩ := hstep.mpr fun hr =>
          ⟨hopen ⟨l, List.mem_cons_self, hr⟩, hparse l List.mem_cons_self hr⟩
        obtain ⟨b', h₂⟩ := (ih (b := b₁)).mpr
          ⟨fun ⟨l', hl', hr⟩ => routesHead_step_leaf h₁ ▸ hopen ⟨l', List.mem_cons_of_mem _ hl',
            hr⟩,
            fun l' hl' => hparse l' (List.mem_cons_of_mem _ hl')⟩
        exact ⟨b', Exit.bind_eq_ok.mpr ⟨b₁, h₁, h₂⟩⟩

/-- Leaves that are not recorded leave the batches alone. -/
theorem leaves_of_not_recorded {env : RoutingEnv} {ls : List LeafChange} {b b' : Batches}
    (hls : ∀ l ∈ ls, ¬ l.Recorded)
    (hrun : (ls.map LeafChange.toChange).foldlM (staticRoutesStep env) b = .ok b') : b' = b := by
  induction ls generalizing b with
  | nil => exact (Exit.ok.inj hrun).symm
  | cons l ls ih =>
      rw [List.map_cons, List.foldlM_cons, staticRoutesStep_leaf,
        if_neg (hls l List.mem_cons_self)] at hrun
      exact ih (fun l' hl' => hls l' (List.mem_cons_of_mem _ hl')) hrun

/-- The changes of a whole entry: its key, then its leaves below the route the
key opened. -/
theorem collect_whole {env : RoutingEnv} {e : EntryChange} {batch : Batch} {b b' : Batches}
    (hk : e.kind = .whole batch)
    (h : e.toChanges.foldlM (staticRoutesStep env) b = .ok b') :
    ∃ addr, env.nlAddrParse e.destinationPrefix = some addr ∧
      (e.leaves.map LeafChange.toChange).foldlM (staticRoutesStep env) (b.openRoute batch addr) =
        .ok b' := by
  rw [EntryChange.toChanges, hk, List.foldlM_cons, staticRoutesStep_key] at h
  obtain ⟨b₁, h₁, h₂⟩ := Exit.bind_eq_ok.mp h
  obtain ⟨addr, ha, hb⟩ := Exit.bind_eq_ok.mp h₁
  exact ⟨addr, nlAddrParse_eq_ok.mp ha, Exit.ok.inj hb ▸ h₂⟩

theorem isSome_routesHead_entry {env : RoutingEnv} {e : EntryChange} {b b' : Batches}
    (h : e.toChanges.foldlM (staticRoutesStep env) b = .ok b') :
    b'.routesHead.isSome = (b.routesHead.isSome || decide (e.kind ≠ .kept)) := by
  cases hk : e.kind with
  | whole batch =>
      obtain ⟨addr, -, hl⟩ := collect_whole hk h
      simp [routesHead_leaves hl, Batches.openRoute]
  | kept =>
      rw [EntryChange.toChanges, hk] at h
      simp [routesHead_leaves h]

theorem exists_entry_iff {env : RoutingEnv} {e : EntryChange} {b : Batches} :
    (∃ b', e.toChanges.foldlM (staticRoutesStep env) b = .ok b') ↔
      e.AddressesParse env ∧ (e.Recording → e.kind ≠ .kept ∨ b.routesHead.isSome) := by
  cases hk : e.kind with
  | whole batch =>
      simp only [EntryChange.AddressesParse, hk]
      constructor
      · rintro ⟨b', h⟩
        obtain ⟨addr, ha, hl⟩ := collect_whole hk h
        exact ⟨⟨fun _ => by simp [ha], (exists_leaves_iff.mp ⟨b', hl⟩).2⟩, fun _ => .inl nofun⟩
      · rintro ⟨⟨hdest, hparse⟩, -⟩
        obtain ⟨addr, ha⟩ := Option.isSome_iff_exists.mp (hdest nofun)
        obtain ⟨b', hb⟩ : ∃ b', (e.leaves.map LeafChange.toChange).foldlM (staticRoutesStep env)
            (b.openRoute batch addr) = .ok b' := exists_leaves_iff.mpr ⟨fun _ => rfl, hparse⟩
        refine ⟨b', ?_⟩
        rw [EntryChange.toChanges, hk, List.foldlM_cons, staticRoutesStep_key,
          nlAddrParse_eq_ok.mpr ha]
        exact hb
  | kept =>
      rw [EntryChange.toChanges, hk]
      simp [exists_leaves_iff, EntryChange.AddressesParse, EntryChange.Recording, hk, and_comm]

theorem toStream_cons (e : EntryChange) (es : List EntryChange) :
    toStream (e :: es) = e.toChanges ++ toStream es := List.flatMap_cons

theorem toStream_append (es fs : List EntryChange) :
    toStream (es ++ fs) = toStream es ++ toStream fs := List.flatMap_append

/-- The loop ends normally exactly on the accepted streams. -/
theorem exists_collect_iff {env : RoutingEnv} {es : List EntryChange} {b : Batches} :
    (∃ b', (toStream es).foldlM (staticRoutesStep env) b = .ok b') ↔
      Accepted env b.routesHead.isSome es := by
  induction es generalizing b with
  | nil => simp [toStream, Accepted]
  | cons e es ih =>
      rw [toStream_cons, List.foldlM_append, Accepted, ← and_assoc, ← exists_entry_iff]
      constructor
      · rintro ⟨b', h⟩
        obtain ⟨b₁, h₁, h₂⟩ := Exit.bind_eq_ok.mp h
        exact ⟨⟨b₁, h₁⟩, isSome_routesHead_entry h₁ ▸ ih.mp ⟨b', h₂⟩⟩
      · rintro ⟨⟨b₁, h₁⟩, hes⟩
        obtain ⟨b', h₂⟩ := ih.mpr (isSome_routesHead_entry h₁ ▸ hes)
        exact ⟨b', Exit.bind_eq_ok.mpr ⟨b₁, h₁, h₂⟩⟩

end SysrepoInterfaces.Routing
