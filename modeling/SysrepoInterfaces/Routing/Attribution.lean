import SysrepoInterfaces.Routing.Batches

/-!
# SysrepoInterfaces.Routing.Attribution

Which route a recorded leaf ends up on.  The loop records every leaf on the
route of its own list entry exactly when no entry that is kept has a leaf
recorded after some entry was created or deleted whole.
-/

namespace SysrepoInterfaces.Routing

open CProg Keyed

/-! ## properties of a stream -/

/-- Whenever the loop records a leaf, `routes_head` is at the batch of the
operation on its entry, under the prefix of its entry. -/
def RecordsOnOwnRoute (env : RoutingEnv) (es : List EntryChange) : Prop :=
  ∀ pre e post n l, es = pre ++ e :: post → e.leaves[n]? = some l → l.Recorded →
    ∀ b b', collectStaticRoutes env (toStream (pre ++ [e.upTo n])) = .ok b →
      staticRoutesStep env b l.toChange = .ok b' →
        ∃ batch addr, e.kind = .whole batch ∧ env.nlAddrParse e.destinationPrefix = some addr ∧
          b.routesHead = some (batch, addr)

/-- The route carries values of the entry only. -/
def CarriesOnly (env : RoutingEnv) (e : EntryChange) (route : Route) : Prop :=
  (∀ d, route.metadata.description = some d →
    ∃ l ∈ e.leaves, l.leaf = .description ∧ l.value = d) ∧
  ∀ gw, route.nextHop.simple.addr = some gw →
    ∃ l ∈ e.leaves, l.leaf = .nextHopAddress ∧ env.nlAddrParse l.value = some gw

/-- Every route of the batches belongs to an entry with its operation and its
prefix, and carries the description and the gateway of no other entry. -/
def RoutesOwned (env : RoutingEnv) (es : List EntryChange) (b : Batches) : Prop :=
  ∀ batch, ∀ bucket ∈ b.get batch, ∀ route ∈ bucket.routesHead,
    ∃ e ∈ es, e.kind = .whole batch ∧ env.nlAddrParse e.destinationPrefix = some bucket.pfx ∧
      CarriesOnly env e route

/-- However far the loop gets, the routes it has collected are owned. -/
def NeverCarriesForeign (env : RoutingEnv) (es : List EntryChange) : Prop :=
  ∀ pre e post n, es = pre ++ e :: post →
    ∀ b, collectStaticRoutes env (toStream (pre ++ [e.upTo n])) = .ok b → RoutesOwned env es b

/-- A leaf to record of an entry that is kept, reached after a whole entry. -/
def StrayLeaf (env : RoutingEnv) (es : List EntryChange) : Prop :=
  ∃ pre e post n l, es = pre ++ e :: post ∧ e.kind = .kept ∧ e.leaves[n]? = some l ∧
    l.Recorded ∧ Accepted env false (pre ++ [e.upTo (n + 1)])

/-! ## recording on the own route -/

theorem toChanges_upTo_succ {e : EntryChange} {n : Nat} {l : LeafChange}
    (h : e.leaves[n]? = some l) :
    (e.upTo (n + 1)).toChanges = (e.upTo n).toChanges ++ [l.toChange] := by
  cases hk : e.kind <;>
    simp [EntryChange.toChanges, EntryChange.upTo, hk, List.take_add_one, h]

theorem collect_concat {env : RoutingEnv} {pre : List EntryChange} {e : EntryChange} {b : Batches} :
    collectStaticRoutes env (toStream (pre ++ [e])) = .ok b ↔
      ∃ b₀, collectStaticRoutes env (toStream pre) = .ok b₀ ∧
        e.toChanges.foldlM (staticRoutesStep env) b₀ = .ok b := by
  rw [collectStaticRoutes, toStream_append, List.foldlM_append, Exit.bind_eq_ok]
  simp [toStream, collectStaticRoutes]

/-- A leaf is reached and recorded exactly when the stream cut off behind it
is accepted. -/
theorem exists_record_iff {env : RoutingEnv} {pre : List EntryChange} {e : EntryChange} {n : Nat}
    {l : LeafChange} (hl : e.leaves[n]? = some l) :
    (∃ b b', collectStaticRoutes env (toStream (pre ++ [e.upTo n])) = .ok b ∧
      staticRoutesStep env b l.toChange = .ok b') ↔
        Accepted env false (pre ++ [e.upTo (n + 1)]) := by
  have hcut : toStream (pre ++ [e.upTo (n + 1)]) =
      toStream (pre ++ [e.upTo n]) ++ [l.toChange] := by
    simp [toStream, toChanges_upTo_succ hl]
  have hone : ∀ b, [l.toChange].foldlM (staticRoutesStep env) b =
      staticRoutesStep env b l.toChange := by
    intro b
    simp only [List.foldlM_cons, List.foldlM_nil, bind_pure]
  have hiff : (∃ b', (toStream (pre ++ [e.upTo (n + 1)])).foldlM (staticRoutesStep env) {} =
      .ok b') ↔ _ := exists_collect_iff
  rw [hcut, List.foldlM_append] at hiff
  refine Iff.trans ?_ hiff
  constructor
  · rintro ⟨b, b', hb, hstep⟩
    exact ⟨b', Exit.bind_eq_ok.mpr ⟨b, hb, by rwa [hone]⟩⟩
  · rintro ⟨b', h⟩
    obtain ⟨b, hb, hstep⟩ := Exit.bind_eq_ok.mp h
    exact ⟨b, b', hb, hone b ▸ hstep⟩

/-- Inside a whole entry `routes_head` stays where its key put it. -/
theorem routesHead_of_whole {env : RoutingEnv} {pre : List EntryChange} {e : EntryChange}
    {batch : Batch} {n : Nat} {b : Batches} (hk : e.kind = .whole batch)
    (h : collectStaticRoutes env (toStream (pre ++ [e.upTo n])) = .ok b) :
    ∃ addr, env.nlAddrParse e.destinationPrefix = some addr ∧
      b.routesHead = some (batch, addr) := by
  obtain ⟨b₀, -, he⟩ := collect_concat.mp h
  obtain ⟨addr, ha, hl⟩ := collect_whole (e := e.upTo n) hk he
  exact ⟨addr, ha, routesHead_leaves hl⟩

theorem recordsOnOwnRoute_iff (env : RoutingEnv) (es : List EntryChange) :
    RecordsOnOwnRoute env es ↔ ¬ StrayLeaf env es := by
  constructor
  · rintro hown ⟨pre, e, post, n, l, hes, hk, hl, hr, hacc⟩
    obtain ⟨b, b', hb, hstep⟩ := (exists_record_iff hl).mpr hacc
    obtain ⟨batch, addr, hw, -⟩ := hown pre e post n l hes hl hr b b' hb hstep
    rw [hk] at hw
    cases hw
  · intro hstray pre e post n l hes hl hr b b' hb hstep
    cases hk : e.kind with
    | whole batch =>
        obtain ⟨addr, ha, hhead⟩ := routesHead_of_whole hk hb
        exact ⟨batch, addr, rfl, ha, hhead⟩
    | kept =>
        exact absurd ⟨pre, e, post, n, l, hes, hk, hl, hr,
          (exists_record_iff hl).mp ⟨b, b', hb, hstep⟩⟩ hstray

/-! ## routes carry their own values -/

/-- The route under `routes_head` while the leaves of `e` are read. -/
def HeadOwned (env : RoutingEnv) (e : EntryChange) (batch : Batch) (addr : NlAddr) (b : Batches) :
    Prop :=
  ∃ bucket route rest, lookup RouteListHashElement.pfx addr (b.get batch) = some bucket ∧
    bucket.routesHead = route :: rest ∧ CarriesOnly env e route

theorem carriesOnly_zero (env : RoutingEnv) (e : EntryChange) : CarriesOnly env e {} :=
  ⟨nofun, nofun⟩

theorem carriesOnly_write {env : RoutingEnv} {e : EntryChange} {l : LeafChange}
    {f : Route → Route} {route : Route} (hl : l ∈ e.leaves) (hf : l.write env = .ok f)
    (h : CarriesOnly env e route) : CarriesOnly env e (f route) := by
  rw [LeafChange.write] at hf
  cases hleaf : l.leaf with
  | description =>
      rw [hleaf] at hf
      obtain rfl := Exit.ok.inj hf
      exact ⟨fun d hd => ⟨l, hl, hleaf, Option.some.inj hd⟩, h.2⟩
  | outgoingInterface =>
      rw [hleaf] at hf
      obtain rfl := Exit.ok.inj hf
      exact h
  | nextHopAddress =>
      rw [hleaf] at hf
      obtain ⟨gateway, hg, hf⟩ := Exit.bind_eq_ok.mp hf
      obtain rfl := Exit.ok.inj hf
      refine ⟨h.1, fun gw hgw => ⟨l, hl, hleaf, ?_⟩⟩
      rw [nlAddrParse_eq_ok.mp hg]
      exact hgw

/-- Opening a route keeps the routes owned, and the new route is the entry's. -/
theorem routesOwned_openRoute {env : RoutingEnv} {es : List EntryChange} {e : EntryChange}
    {batch : Batch} {addr : NlAddr} {b : Batches} (he : e ∈ es) (hk : e.kind = .whole batch)
    (ha : env.nlAddrParse e.destinationPrefix = some addr) (h : RoutesOwned env es b) :
    RoutesOwned env es (b.openRoute batch addr) ∧
      HeadOwned env e batch addr (b.openRoute batch addr) := by
  have hget : (b.openRoute batch addr).get batch = routeListHashPush (b.get batch) addr {} := by
    cases batch <;> rfl
  constructor
  · intro other bucket hbucket route hroute
    by_cases ho : other = batch
    · subst ho
      rw [hget] at hbucket
      have hnew : ∃ e ∈ es, e.kind = .whole other ∧
          env.nlAddrParse e.destinationPrefix = some addr ∧ CarriesOnly env e {} :=
        ⟨e, he, hk, ha, carriesOnly_zero env e⟩
      rcases mem_routeListHashPush hbucket with hold | ⟨hp, hr | ⟨x, hx, hxp, hr⟩⟩
      · exact h other bucket hold route hroute
      · rw [hr, List.mem_singleton] at hroute
        rw [hp, hroute]
        exact hnew
      · rw [hr, List.mem_cons] at hroute
        rcases hroute with rfl | hroute
        · rw [hp]
          exact hnew
        · rw [hp, ← hxp]
          exact h other x hx route hroute
    · have hother : (b.openRoute batch addr).get other = b.get other := by
        have := b.get_set_ne ho (routeListHashPush (b.get batch) addr {})
        cases other <;> exact this
      rw [hother] at hbucket
      exact h other bucket hbucket route hroute
  · obtain ⟨bucket, hbucket, hroutes⟩ := lookup_routeListHashPush (b.get batch) addr {}
    exact ⟨bucket, {}, _, hget ▸ hbucket, hroutes, carriesOnly_zero env e⟩

/-- So does recording a leaf of the entry on its own route. -/
theorem routesOwned_updateHead {env : RoutingEnv} {es : List EntryChange} {e : EntryChange}
    {l : LeafChange} {f : Route → Route} {batch : Batch} {addr : NlAddr} {b : Batches}
    (he : e ∈ es) (hk : e.kind = .whole batch)
    (ha : env.nlAddrParse e.destinationPrefix = some addr) (hl : l ∈ e.leaves)
    (hf : l.write env = .ok f) (h : RoutesOwned env es b) (hhead : HeadOwned env e batch addr b) :
    RoutesOwned env es (b.updateHead batch addr f) ∧
      HeadOwned env e batch addr (b.updateHead batch addr f) := by
  obtain ⟨bucket, route, rest, hlook, hroutes, hcarries⟩ := hhead
  have hnew := carriesOnly_write hl hf hcarries
  have hpfx : bucket.pfx = addr := key_of_lookup hlook
  constructor
  · intro other x hx r hr
    by_cases ho : other = batch
    · subst ho
      rw [Batches.updateHead, Batches.get_set_self] at hx
      rcases mem_adjust hx with hold | ⟨y, hy, rfl⟩
      · exact h other x hold r hr
      · obtain rfl : bucket = y := Option.some.inj (hlook.symm.trans hy)
        rw [hroutes, modifyHead] at hr
        rcases List.mem_cons.mp hr with rfl | hr
        · exact ⟨e, he, hk, hpfx ▸ ha, hnew⟩
        · exact h other bucket (mem_of_lookup hlook) r (hroutes ▸ List.mem_cons_of_mem _ hr)
    · rw [Batches.updateHead, Batches.get_set_ne b ho] at hx
      exact h other x hx r hr
  · refine ⟨{ bucket with routesHead := modifyHead f bucket.routesHead }, f route, rest, ?_, ?_,
      hnew⟩
    · rw [Batches.updateHead, Batches.get_set_self, lookup_adjust_self (by intro e; rfl), hlook]
      rfl
    · rw [hroutes]
      rfl

theorem routesOwned_leaves {env : RoutingEnv} {es : List EntryChange} {e : EntryChange}
    {batch : Batch} {addr : NlAddr} (he : e ∈ es) (hk : e.kind = .whole batch)
    (ha : env.nlAddrParse e.destinationPrefix = some addr) {ls : List LeafChange}
    (hls : ∀ l ∈ ls, l ∈ e.leaves) {b b' : Batches}
    (hb : b.routesHead = some (batch, addr)) (h : RoutesOwned env es b)
    (hhead : HeadOwned env e batch addr b)
    (hrun : (ls.map LeafChange.toChange).foldlM (staticRoutesStep env) b = .ok b') :
    RoutesOwned env es b' := by
  induction ls generalizing b with
  | nil => exact Exit.ok.inj hrun ▸ h
  | cons l ls ih =>
      rw [List.map_cons, List.foldlM_cons] at hrun
      obtain ⟨b₁, h₁, h₂⟩ := Exit.bind_eq_ok.mp hrun
      have hb₁ : b₁.routesHead = some (batch, addr) := (routesHead_step_leaf h₁).trans hb
      have hls' : ∀ l' ∈ ls, l' ∈ e.leaves := fun l' hl' => hls l' (List.mem_cons_of_mem _ hl')
      rw [staticRoutesStep_leaf, hb] at h₁
      split at h₁
      · obtain ⟨f, hf, hb'⟩ := Exit.bind_eq_ok.mp h₁
        obtain ⟨hown, hhead'⟩ := routesOwned_updateHead he hk ha (hls l List.mem_cons_self) hf h
            hhead
        obtain rfl := Exit.ok.inj hb'
        exact ih hls' hb₁ hown hhead' h₂
      · obtain rfl := Exit.ok.inj h₁
        exact ih hls' hb₁ h hhead h₂

/-- Without a stray leaf, an entry that is kept has nothing to record by the
time the loop is through with it. -/
theorem not_recorded_of_kept {env : RoutingEnv} {es pre post : List EntryChange} {e : EntryChange}
    {n : Nat} {b : Batches} (hes : es = pre ++ e :: post) (hk : e.kind = .kept)
    (hstray : ¬ StrayLeaf env es)
    (h : collectStaticRoutes env (toStream (pre ++ [e.upTo n])) = .ok b) :
    ∀ l ∈ (e.upTo n).leaves, ¬ l.Recorded := by
  intro l hl hr
  obtain ⟨m, hm⟩ := List.mem_iff_getElem?.mp hl
  have hmn : m < n := by
    have := (List.getElem?_eq_some_iff.mp hm).1
    simp only [EntryChange.upTo, List.length_take] at this
    omega
  have hm' : e.leaves[m]? = some l := by
    rw [← hm, EntryChange.upTo, List.getElem?_take, if_pos hmn]
  refine hstray ⟨pre, e, post, m, l, hes, hk, hm', hr, ?_⟩
  -- the loop got past the leaf, so it accepts the stream cut off behind it
  have hrest : (e.upTo n).toChanges =
      (e.upTo (m + 1)).toChanges ++ ((e.leaves.take n).drop (m + 1)).map LeafChange.toChange := by
    have htake : e.leaves.take n = e.leaves.take (m + 1) ++ (e.leaves.take n).drop (m + 1) :=
      calc
        e.leaves.take n
          = (e.leaves.take n).take (m + 1) ++ (e.leaves.take n).drop (m + 1) :=
            (List.take_append_drop ..).symm
        _ = e.leaves.take (m + 1) ++ (e.leaves.take n).drop (m + 1) := by
            rw [List.take_take, Nat.min_eq_left (by omega)]
    simp only [EntryChange.toChanges, EntryChange.upTo, hk]
    rw [← List.map_append, ← htake]
  obtain ⟨b₀, hb₀, he⟩ := collect_concat.mp h
  rw [hrest, List.foldlM_append] at he
  obtain ⟨b₁, hb₁, -⟩ := Exit.bind_eq_ok.mp he
  exact (exists_collect_iff (b := {})).mp ⟨b₁, collect_concat.mpr ⟨b₀, hb₀, hb₁⟩⟩

/-- One entry, read up to some leaf, keeps the routes owned. -/
theorem routesOwned_entry {env : RoutingEnv} {es pre post : List EntryChange} {e : EntryChange}
    {n : Nat} {b₀ b : Batches} (hes : es = pre ++ e :: post) (hstray : ¬ StrayLeaf env es)
    (hpre : collectStaticRoutes env (toStream pre) = .ok b₀) (h₀ : RoutesOwned env es b₀)
    (he : (e.upTo n).toChanges.foldlM (staticRoutesStep env) b₀ = .ok b) :
    RoutesOwned env es b := by
  have hmem : e ∈ es := by rw [hes]; simp
  cases hk : e.kind with
  | whole batch =>
      obtain ⟨addr, ha, hl⟩ := collect_whole (e := e.upTo n) hk he
      obtain ⟨hopen, hhead⟩ := routesOwned_openRoute hmem hk ha h₀
      exact routesOwned_leaves hmem hk ha (fun l hl' => List.mem_of_mem_take hl') rfl hopen hhead hl
  | kept =>
      have hno := not_recorded_of_kept hes hk hstray (collect_concat.mpr ⟨b₀, hpre, he⟩)
      rw [EntryChange.toChanges, show (e.upTo n).kind = .kept from hk] at he
      exact leaves_of_not_recorded hno he ▸ h₀

theorem upTo_length (e : EntryChange) : e.upTo e.leaves.length = e := by
  obtain ⟨dest, kind, leaves, hleaves⟩ := e
  simp [EntryChange.upTo]

theorem routesOwned_collect {env : RoutingEnv} {es : List EntryChange}
    (hstray : ¬ StrayLeaf env es) (pre post : List EntryChange) (hes : es = pre ++ post)
    {b : Batches} (h : collectStaticRoutes env (toStream pre) = .ok b) : RoutesOwned env es b := by
  induction pre using List.reverseRecOn generalizing post b with
  | nil =>
      obtain rfl := Exit.ok.inj h
      intro batch bucket hbucket
      cases batch <;> cases hbucket
  | append_singleton pre e ih =>
      rw [List.append_assoc, List.singleton_append] at hes
      obtain ⟨b₀, hb₀, he⟩ := collect_concat.mp h
      exact routesOwned_entry hes hstray hb₀ (ih (e :: post) hes hb₀)
        ((upTo_length e).symm ▸ he)

theorem neverCarriesForeign_of_not_stray {env : RoutingEnv} {es : List EntryChange}
    (hstray : ¬ StrayLeaf env es) : NeverCarriesForeign env es := by
  intro pre e post n hes b h
  obtain ⟨b₀, hb₀, he⟩ := collect_concat.mp h
  exact routesOwned_entry hes hstray hb₀ (routesOwned_collect hstray pre (e :: post) hes hb₀) he

/-! ## the exact condition -/

/-- Every recorded leaf goes to the route of its own entry, and no route ever
carries the values of another, exactly when no leaf of a kept entry strays. -/
theorem attribution_iff (env : RoutingEnv) (es : List EntryChange) :
    RecordsOnOwnRoute env es ∧ NeverCarriesForeign env es ↔ ¬ StrayLeaf env es :=
  ⟨fun h => (recordsOnOwnRoute_iff env es).mp h.1,
    fun h => ⟨(recordsOnOwnRoute_iff env es).mpr h, neverCarriesForeign_of_not_stray h⟩⟩

/-- A route is created, and an existing one gets a gateway in the same change. -/
def strayStream : List EntryChange := [
  .ofWhole .new "10.0.0.0/8" [⟨.nextHopAddress, .created, "192.0.2.1"⟩]
    (operation_of_created .nextHopAddress "192.0.2.1"),
  .ofKept "172.16.0.0/12" [⟨.nextHopAddress, .created, "192.0.2.9"⟩]]

/-- The new route is installed with the gateway of the other one. -/
theorem strayStream_misattributed :
    ¬ (RecordsOnOwnRoute sampleEnv strayStream ∧ NeverCarriesForeign sampleEnv strayStream) := by
  rintro ⟨-, hnever⟩
  let route : Route :=
    { nextHop := { kind := .simple, simple := { addr := some (addr4 0xc0000209 32) } } }
  have hrun : collectStaticRoutes sampleEnv (toStream strayStream) = .ok
      { newRoutes := [⟨addr4 0x0a000000 8, [route]⟩]
        routesHead := some (.new, addr4 0x0a000000 8) } := by decide
  obtain ⟨e, he, hk, -, -, hgw⟩ := hnever (strayStream.take 1) (strayStream.get ⟨1, by decide⟩) []
    1 rfl _ hrun .new _ List.mem_cons_self route List.mem_cons_self
  obtain ⟨l, hl, -, hparse⟩ := hgw (addr4 0xc0000209 32) rfl
  rcases List.mem_cons.mp he with rfl | he
  · obtain rfl := List.mem_singleton.mp hl
    exact absurd hparse (by decide)
  · obtain rfl := List.mem_singleton.mp he
    cases hk

end SysrepoInterfaces.Routing
