import SysrepoInterfaces.Lib.Delivery
import SysrepoInterfaces.Routing.CollectLeaks

/-!
# SysrepoInterfaces.Routing.RequestLeaks

The memory of a whole request for the kernel's routes.  The RIB list holds
every copy that was made and is released under `out`, so that of a request
there stay the copies of interface names, the sockets of `foreach_nexthop`, and
the link that was being written when the tree could not be filled.
-/

namespace SysrepoInterfaces.Routing.Owned

open CProg Ownership Counted

/-! ## the route loop -/

/-- What an adjusted RIB list owns: what it owned, with the routes of the one
RIB exchanged. -/
theorem ribBlocks_split {ribs : List (Ptr Rib)} {name : RibName} {af : Nat} {rib : Ptr Rib}
    (h : Keyed.lookup ribKey (name, af) ribs = some rib) :
    ∃ other : List (Block Piece),
      (ribs.flatMap ribBlocks).Perm (rib.val.routesHead.flatMap bucketBlocks ++ other) ∧
      ∀ head, ((ribListUpdate ribs name af fun rib => { rib with routesHead := head }).flatMap
        ribBlocks).Perm (head.flatMap bucketBlocks ++ other) := by
  obtain ⟨as, bs, hsplit, hadjust⟩ := Keyed.adjust_split h
  have hmove : ∀ head : List (Ptr RouteListHashElement),
      ((as ++ { rib with val := { rib.val with routesHead := head } } :: bs).flatMap ribBlocks).Perm
        (head.flatMap bucketBlocks ++
          (as.flatMap ribBlocks ++ [(rib.addr, .rib)] ++ bs.flatMap ribBlocks)) := by
    intro head
    refine perm_of_count fun b => ?_
    simp only [List.flatMap_append, List.flatMap_cons, ribBlocks, List.count_append]
    omega
  refine ⟨as.flatMap ribBlocks ++ [(rib.addr, .rib)] ++ bs.flatMap ribBlocks, ?_, fun head => ?_⟩
  · rw [hsplit]
    exact hmove rib.val.routesHead
  · rw [ribListUpdate, hadjust]
    exact hmove head

/-- The loop over the routes of the cache, each of which has its RIB. -/
theorem tracks_collectRoutesLoop (env : RoutingEnv) (linkCache : LinkCache)
    (routesCache : List RtnlRoute) (a : Route) (b : Routing.Route) (ribs : List (Ptr Rib))
    (hribs : ∀ route ∈ routesCache, Routing.ribKey env route ∈ ribs.map ribKey)
    (s : RoutingState) :
    Tracks (collectRoutesLoop env linkCache routesCache a ribs)
      (Routing.collectRoutesLoop env linkCache routesCache b (ribs.map ribValue)) s
      (ribs.flatMap ribBlocks) (fun r r' _ => r.1 = 0 ∧ r' = (0, r.2.map ribValue))
      (fun r => r.2.flatMap ribBlocks) (routesLeak env s.freshRuns routesCache)
      fun _ => False := by
  induction routesCache generalizing a b ribs s with
  | nil => exact tracks_pure ⟨rfl, rfl⟩ (u := []) (by simp) rfl
  | cons route routesCache ih =>
      have hmem : Routing.ribKey env route ∈ ribs.map ribKey := hribs route List.mem_cons_self
      obtain ⟨rib, hrib⟩ : ∃ rib, Keyed.lookup ribKey
          (env.table2str route.table, route.family) ribs = some rib := by
        refine Option.isSome_iff_exists.mp ?_
        by_contra hnone
        exact Keyed.lookup_eq_none_iff.mp (Option.not_isSome_iff_eq_none.mp hnone) hmem
      have hget : Routing.ribListGet (ribs.map ribValue) (env.table2str route.table)
          route.family = some (ribValue rib) := by
        rw [Routing.ribListGet, lookup_ribValue, hrib, Option.map_some]
      unfold collectRoutesLoop Routing.collectRoutesLoop
      simp only [ribListGet, hrib, hget, Option.map_some]
      rw [routesLeak_cons]
      refine (tracks_collectRoute env linkCache a b route s).seq (z := ribs.flatMap ribBlocks)
        (by simp) ?_
      rintro a' b' s' ⟨hsame, hruns⟩
      obtain ⟨w, hw⟩ := hsame.nextHop.copied
      have hcopy : Routing.routeNextHopClone a'.nextHop.value = .ok w :=
        (routeNextHopClone_congr hsame.nextHop.same).trans hw
      have hlast : b'.metadata.lastUpdated = none := by
        have hmeta := congrArg (fun r : Routing.Route => r.metadata.lastUpdated) hsame.fields
        exact hmeta.symm.trans (by simp [Route.value, RouteMetadata.value, hsame.lastUpdated])
      have hnew : ({ a'.value with nextHop := w } : Routing.Route) = { b' with nextHop := w } := by
        rw [hsame.fields]
      have hadd : Prog.lift (Routing.routeListHashAdd (ribValue rib).routesHead route.dst b') =
          (pure (routeListHashPush (rib.val.routesHead.map bucketValue) route.dst
            { b' with nextHop := w }) : RoutingM (List Routing.RouteListHashElement)) := by
        rw [routeListHashAdd_eq, routeClone_eq hlast, hw]
        rfl
      rw [hadd, pure_bind]
      obtain ⟨other, hheld, hupdate⟩ := ribBlocks_split hrib
      refine (does_routeListHashAdd rib.val.routesHead route.dst hsame.lastUpdated hcopy).tracks
        (z := other) ?_ ?_
      · refine (List.perm_append_comm.trans (hheld.append_right _)).trans ?_
        refine perm_of_count fun b => ?_
        simp only [List.count_append]
        omega
      intro head hhead
      rw [hnew] at hhead
      refine (does_routeFree a').tracks (z := head.flatMap bucketBlocks ++ other) ?_ ?_
      · refine perm_of_count fun b => ?_
        simp only [List.count_append]
        omega
      intro a'' _
      have hkeys : (ribListUpdate ribs (env.table2str route.table) route.family fun rib =>
          { rib with routesHead := head }).map ribKey = ribs.map ribKey := by
        refine key_ribListUpdate ?_ ribs _ _
        exact fun _ => rfl
      have hvalues : (ribListUpdate ribs (env.table2str route.table) route.family fun rib =>
          { rib with routesHead := head }).map ribValue =
          Routing.ribListUpdate (ribs.map ribValue) (env.table2str route.table) route.family
            fun rib => { rib with routesHead := head.map bucketValue } :=
        value_ribListUpdate (fun _ => rfl) ribs _ _
      have hrest := ih a'' (Routing.routeFree b') (ribListUpdate ribs (env.table2str route.table)
        route.family fun rib => { rib with routesHead := head }) (fun r hr => by
          rw [hkeys]
          exact hribs r (List.mem_cons_of_mem _ hr)) s'
      rw [hruns, hvalues, hhead] at hrest
      exact hrest.perm (by simpa using (hupdate head).symm)

/-! ## choosing the active routes -/

theorem map_markActive {α : Type} {g : Ptr Route → α}
    (hg : ∀ route : Ptr Route, g { route with val := routeSetActive route.val true } = g route)
    (routes : List (Ptr Route)) : (markActive routes).map g = routes.map g := by
  refine List.ext_getElem? fun i => ?_
  rw [List.getElem?_map, List.getElem?_map, markActive, List.getElem?_modify]
  cases routes[i]? with
  | none => rfl
  | some route =>
      split
      · exact congrArg some (hg route)
      · rfl

theorem value_markActive (routes : List (Ptr Route)) :
    (markActive routes).map routeValue = Routing.markActive (routes.map routeValue) := by
  refine List.ext_getElem? fun i => ?_
  rw [Routing.markActive, markActive, List.getElem?_modify, List.getElem?_map, List.getElem?_modify,
    List.getElem?_map]
  cases routes[i]? with
  | none => rfl
  | some route =>
      split
      · simp [routeValue, Route.value, routeSetActive, Routing.routeSetActive,
          RouteMetadata.value]
      · simp

/-- Choosing the active routes moves no block. -/
theorem ribBlocks_markActiveRib (rib : Ptr Rib) :
    ribBlocks (markActiveRib rib) = ribBlocks rib := by
  have hbucket : ∀ e : Ptr RouteListHashElement, bucketBlocks (markActiveBucket e) =
      bucketBlocks e := by
    intro e
    have hmap : (markActive e.val.routesHead).map routeBlocks = e.val.routesHead.map routeBlocks :=
      map_markActive (fun _ => rfl) e.val.routesHead
    rw [bucketBlocks, bucketBlocks, List.flatMap_def, List.flatMap_def, markActiveBucket, hmap]
  rw [ribBlocks, ribBlocks, markActiveRib, List.flatMap_map]
  simp only [hbucket]

theorem ribValue_markActiveRib (rib : Ptr Rib) :
    ribValue (markActiveRib rib) = Routing.markActiveRib (ribValue rib) := by
  have hbucket : ∀ e : Ptr RouteListHashElement, bucketValue (markActiveBucket e) =
      { bucketValue e with routesHead := Routing.markActive (bucketValue e).routesHead } := by
    intro e
    simp only [bucketValue, markActiveBucket, value_markActive]
  simp [ribValue, markActiveRib, Routing.markActiveRib, hbucket]

/-! ## collecting -/

/-- `routing_collect_routes` on an empty list. -/
theorem tracks_routingCollectRoutes (env : RoutingEnv) (routesCache : List RtnlRoute)
    (linkCache : LinkCache) (s : RoutingState) :
    Tracks (routingCollectRoutes env routesCache linkCache [])
      (Routing.routingCollectRoutes env routesCache linkCache []) s []
      (fun r r' _ => r.1 = 0 ∧ r' = (0, r.2.map ribValue)) (fun r => r.2.flatMap ribBlocks)
      (routesLeak env s.freshRuns routesCache) fun _ => False := by
  obtain ⟨ribs, hcollect, hkeys, _⟩ := routingCollectRibs_nil env routesCache
  unfold Routing.routingCollectRoutes
  simp only [hcollect]
  refine (does_routingCollectRibs env routesCache []).tracks (z := []) (by simp) ?_
  intro out hout
  obtain ⟨error, head⟩ := out
  rw [List.map_nil, hcollect] at hout
  obtain ⟨rfl, rfl⟩ := Prod.mk.inj hout
  have hribs : ∀ route ∈ routesCache, Routing.ribKey env route ∈ head.map ribKey := by
    intro route hroute
    have hmem : Routing.ribKey env route ∈ (routesCache.map (Routing.ribKey env)).eraseDups :=
      Keyed.mem_eraseDups.mpr (List.mem_map_of_mem hroute)
    rw [← hkeys, List.map_map] at hmem
    exact hmem
  rw [← List.append_nil (routesLeak env s.freshRuns routesCache)]
  refine (tracks_collectRoutesLoop env linkCache routesCache {} {} head hribs s).seq (z := [])
    (by simp) ?_
  rintro r r' s' ⟨hzero, hr'⟩
  obtain ⟨error, ribs⟩ := r
  obtain rfl : error = 0 := hzero
  subst hr'
  refine tracks_pure ⟨rfl, ?_⟩ (u := []) ?_ rfl
  · simp [markActiveRoutes, ribValue_markActiveRib]
  · simp [List.flatMap_map, ribBlocks_markActiveRib]

/-! ## filling the tree -/

/-- Nothing; some library call has failed. -/
def Interrupted (env : RoutingEnv) (ks : List Piece) : Prop :=
  ks = [] ∧ ∃ n, env.lib n = false

/-- At most the reference to one link, and that only when a call has failed. -/
def OneLink (env : RoutingEnv) (ks : List Piece) : Prop :=
  ks = [] ∨ (∃ ifindex, ks = [.link ifindex]) ∧ ∃ n, env.lib n = false

theorem oneLink_nil (env : RoutingEnv) : OneLink env [] := .inl rfl

theorem mirrors_checked (env : RoutingEnv) (c : Call) :
    Mirrors (embed (checked env c)) (checked env c) (Interrupted env) := by
  refine mirrors_embed _ fun s s' h => ⟨rfl, s.calls, ?_⟩
  rw [run_checked] at h
  cases hlib : env.lib s.calls with
  | false => rfl
  | true => rw [hlib] at h; cases h

theorem mirrors_lydNewPath (env : RoutingEnv) (parent : LydNode) (path : String)
    (value : Option String) :
    Mirrors (embed (lydNewPath env parent path value)) (lydNewPath env parent path value)
      (Interrupted env) := by
  unfold lydNewPath
  rw [embed_bind]
  exact (mirrors_checked env (.lydNewPath parent path value)).bind fun _ => mirrors_pure _

theorem mirrors_operNextHopAddress (env : RoutingEnv) (modules : UnicastModules) (af : Nat)
    (node : LydNode) (addr : Option NlAddr) :
    Mirrors (embed (operNextHopAddress env modules af node addr))
      (operNextHopAddress env modules af node addr) (Interrupted env) := by
  unfold operNextHopAddress
  split
  · exact mirrors_checked env _
  · exact mirrors_pure ()
  · exact mirrors_pure ()

/-- A link is given back unless what stands between fails. -/
theorem mirrors_link {α : Type} (cache : LinkCache) (ifindex : Nat)
    {p : String → OwnedM Unit} {q : String → RoutingM Unit}
    {env : RoutingEnv}
    (hp : ∀ name, Mirrors (p name) (q name) (Interrupted env)) (a : α) :
    Mirrors (do
        let (iface, name) ← rtnlLinkGetName cache ifindex
        p name
        release (iface, .link ifindex)
        return a)
      (do
        let name ← Routing.rtnlLinkGetName cache ifindex
        q name
        return a) (OneLink env) := by
  intro s
  refine (tracks_rtnlLinkGetName cache ifindex s).bind (z := []) (List.Perm.refl _) ?_
    (fun _ h => h.elim) fun _ h => h
  rintro ⟨iface, name⟩ name' s' ⟨hname, _⟩
  obtain rfl : name = name' := hname
  refine (hp name s').bind (z := [(iface, .link ifindex)]) (by simp) ?_ ?_ fun _ h => h
  · intro _ _ s'' _
    refine (does_release (iface, Piece.link ifindex)).tracks (z := []) (by simp) fun _ _ => ?_
    exact tracks_pure rfl (u := []) (by simp) rfl
  · intro ks hks
    obtain ⟨rfl, hfailed⟩ := hks
    exact .inr ⟨⟨ifindex, rfl⟩, hfailed⟩

theorem mirrors_operListNextHop (env : RoutingEnv) (modules : UnicastModules) (af : Nat)
    (nhNode : LydNode) (simple : Routing.RouteNextHopSimple) :
    Mirrors (operListNextHop env modules af nhNode simple)
      (Routing.operListNextHop env modules af nhNode simple) (OneLink env) := by
  have hlength : ¬ ((("next-hop/next-hop-list/next-hop[index=" ++ toString simple.ifindex ++
      "]").length : Int) < 0) := by omega
  unfold operListNextHop Routing.operListNextHop
  simp only [if_neg hlength]
  have hbody := mirrors_link env.links simple.ifindex
    (p := fun ifName => do
      let nhListNode ← embed (lydNewPath env nhNode ("next-hop/next-hop-list/next-hop[index=" ++
        toString simple.ifindex ++ "]") none)
      let _ ← embed (lydNewPath env nhListNode "outgoing-interface" (some ifName))
      embed (operNextHopAddress env modules af nhListNode simple.addr))
    (fun ifName => (mirrors_lydNewPath _ _ _ _).bind fun _ =>
      (mirrors_lydNewPath _ _ _ _).bind fun _ => mirrors_operNextHopAddress _ _ _ _ _)
    (("next-hop/next-hop-list/next-hop[index=" ++ toString simple.ifindex ++ "]").length : Int)
  simp only [bind_assoc] at hbody
  exact hbody

theorem mirrors_operNextHop (env : RoutingEnv) (modules : UnicastModules) (af : Nat)
    (nhNode : LydNode) (nextHop : Routing.RouteNextHop) (error : Int) :
    Mirrors (operNextHop env modules af nhNode nextHop error)
      (Routing.operNextHop env modules af nhNode nextHop error) (OneLink env) := by
  unfold operNextHop Routing.operNextHop
  cases nextHop.kind with
  | none => exact mirrors_pure error
  | special => exact mirrors_pure error
  | list =>
      exact mirrors_foldlM (fun _ simple => mirrors_operListNextHop env modules af nhNode simple)
        nextHop.listHead error
  | simple =>
      have hbody := mirrors_link env.links nextHop.simple.ifindex
        (p := fun ifName => do
          let _ ← embed (lydNewPath env nhNode "outgoing-interface" (some ifName))
          embed (operNextHopAddress env modules af nhNode nextHop.simple.addr))
        (fun ifName => (mirrors_lydNewPath _ _ _ _).bind fun _ =>
          mirrors_operNextHopAddress _ _ _ _ _) error
      simp only [bind_assoc] at hbody
      exact hbody

theorem mirrors_operRoute (env : RoutingEnv) (modules : UnicastModules) (af : Nat)
    (routesNode : LydNode) (acc : Int × String) (route : Routing.Route) :
    Mirrors (operRoute env modules af routesNode acc route)
      (Routing.operRoute env modules af routesNode acc route) (OneLink env) := by
  refine (mirrors_embed _ fun _ _ _ => oneLink_nil env).bind fun node => ?_
  refine (mirrors_embed _ fun _ _ _ => oneLink_nil env).bind fun _ => ?_
  refine (mirrors_embed _ fun _ _ _ => oneLink_nil env).bind fun nhNode => ?_
  refine (mirrors_operNextHop env modules af nhNode route.nextHop acc.1).bind fun error => ?_
  refine (mirrors_embed _ fun _ _ _ => oneLink_nil env).bind fun prefixBuffer => ?_
  refine (mirrors_embed _ fun _ _ _ => oneLink_nil env).bind fun _ => ?_
  exact (mirrors_embed _ fun _ _ _ => oneLink_nil env).bind fun _ =>
    mirrors_pure (error, prefixBuffer)

theorem mirrors_operRib (env : RoutingEnv) (modules : UnicastModules) (parent : LydNode)
    (error : Int) (rib : Routing.Rib) :
    Mirrors (operRib env modules parent error rib) (Routing.operRib env modules parent error rib)
      (OneLink env) := by
  refine (mirrors_embed _ fun _ _ _ => oneLink_nil env).bind fun routesNode =>
    mirrors_foldlM ?_ rib.routesHead error
  intro error e
  refine (mirrors_foldlM ?_ e.routesHead (error, prefixText env e.pfx)).bind fun acc =>
    mirrors_pure acc.1
  exact mirrors_operRoute env modules rib.addressFamily routesNode

/-! ## the request -/

/-- What an early end leaves: nothing when one of the `k` calls from the n-th on
has failed, else what was lost while collecting and at most one link. -/
structure RequestLost (env : RoutingEnv) (leak : List Piece) (n k : Nat) (ks : List Piece) :
    Prop where
  opened : AllGood env.lib n k → ∃ refs, OneLink env refs ∧ ks = leak ++ refs
  unopened : ¬ AllGood env.lib n k → ks = []

theorem allGood_succ {lib : Nat → Bool} {n k : Nat} :
    AllGood lib n (k + 1) ↔ lib n = true ∧ AllGood lib (n + 1) k := by
  rw [Nat.add_comm, allGood_add, allGood_one]

/-- One of the calls that open a request, and what comes after it. -/
theorem tracks_checked {α β : Type} (env : RoutingEnv) (c : Call) (s : RoutingState) {k : Nat}
    {p : OwnedM α} {q : RoutingM β} {Q : α → β → Prop} {foot : α → List (Block Piece)}
    {leak leak' : List Piece}
    (h : ∀ s', s'.calls = s.calls + 1 → s'.freshRuns = s.freshRuns →
      Tracks p q s' [] (fun a b _ => Q a b ∧ AllGood env.lib (s.calls + 1) k) foot leak'
        (RequestLost env leak (s.calls + 1) k)) :
    Tracks (embed (checked env c) >>= fun _ => p) (checked env c >>= fun _ => q) s []
      (fun a b _ => Q a b ∧ AllGood env.lib s.calls (k + 1)) foot leak'
      (RequestLost env leak s.calls (k + 1)) := by
  have hrun := run_checked env c s
  have hgood : Tracks (κ := Piece) (embed (checked env c)) (checked env c) s []
      (fun _ _ s' => env.lib s.calls = true ∧ s'.calls = s.calls + 1 ∧
        s'.freshRuns = s.freshRuns) (fun _ => []) []
      fun ks => ks = [] ∧ env.lib s.calls = false := by
    have hfails : ∀ s', (checked env c).run s = (.error, s') →
        ([] : List Piece) = [] ∧ env.lib s.calls = false := by
      intro s' hs'
      rw [hrun] at hs'
      cases hlib : env.lib s.calls with
      | false => exact ⟨rfl, rfl⟩
      | true => rw [hlib] at hs'; cases hs'
    refine (tracks_embed (checked env c) s hfails).weaken ?_ fun _ h => h
    · rintro _ _ s' ⟨_, hs'⟩
      rw [hrun] at hs'
      cases hlib : env.lib s.calls with
      | false => rw [hlib] at hs'; cases hs'
      | true => rw [hlib] at hs'; cases hs'; exact ⟨⟨rfl, rfl, rfl⟩, List.Perm.refl _⟩
  have hnext : ∀ s', env.lib s.calls = true → s'.calls = s.calls + 1 →
      s'.freshRuns = s.freshRuns → Tracks p q s' [] (fun a b _ => Q a b ∧
        AllGood env.lib s.calls (k + 1)) foot leak' (RequestLost env leak s.calls (k + 1)) := by
    intro s' hlib hcalls hfresh
    refine (h s' hcalls hfresh).weaken ?_ ?_
    · rintro _ _ _ ⟨hQ, hall⟩
      exact ⟨⟨hQ, allGood_succ.mpr ⟨hlib, hall⟩⟩, List.Perm.refl _⟩
    · intro ks hks
      exact ⟨fun hall => hks.opened (allGood_succ.mp hall).2,
        fun hnot => hks.unopened fun hall => hnot (allGood_succ.mpr ⟨hlib, hall⟩)⟩
  refine hgood.bind (z := []) (List.Perm.refl _) ?_ ?_ fun _ h => h
  · rintro _ _ s' ⟨hlib, hcalls, hfresh⟩
    exact hnext s' hlib hcalls hfresh
  · rintro ks ⟨hks, hlib⟩
    refine ⟨fun hall => ?_, fun _ => by rw [hks]; rfl⟩
    rw [(allGood_succ.mp hall).1] at hlib
    cases hlib

/-- What comes after the opening: the RIB list is filled, written and
released. -/
theorem tracks_operRibs (env : RoutingEnv) (modules : UnicastModules) (parent : LydNode)
    (s : RoutingState) (n : Nat) :
    Tracks (do
        let (error, ribsHead) ← routingCollectRoutes env env.routes env.links []
        after (ribListFree ribsHead) do
          if error ≠ 0 then Prog.fail
          else (ribsHead.map ribValue).foldlM (operRib env modules parent) error)
      (do
        let (error, ribsHead) ← Routing.routingCollectRoutes env env.routes env.links []
        if error ≠ 0 then Prog.fail
        else ribsHead.foldlM (Routing.operRib env modules parent) error) s []
      (fun a b _ => a = b ∧ AllGood env.lib n 0) (fun _ => [])
      (routesLeak env s.freshRuns env.routes)
      (RequestLost env (routesLeak env s.freshRuns env.routes) n 0) := by
  rw [← List.append_nil (routesLeak env s.freshRuns env.routes)]
  have hlost : ∀ ks, OneLink env ks →
      RequestLost env (routesLeak env s.freshRuns env.routes ++ []) n 0
        (routesLeak env s.freshRuns env.routes ++ ks) := by
    intro ks hks
    refine ⟨fun _ => ⟨ks, hks, by rw [List.append_nil]⟩, fun hnot => ?_⟩
    exact absurd (allGood_zero env.lib n) hnot
  refine (tracks_routingCollectRoutes env env.routes env.links s).bind (z := [])
    (List.Perm.refl _) ?_ (fun _ h => h.elim) hlost
  rintro ⟨error, ribs⟩ r' s' ⟨hzero, hr'⟩
  obtain rfl : error = 0 := hzero
  subst hr'
  refine Tracks.after ?_ (does_ribListFree ribs) (perm_append_nil _)
  have hribs := mirrors_foldlM (mirrors_operRib env modules parent) (ribs.map ribValue) 0 s'
  refine hribs.weaken ?_ fun _ h => h
  exact fun _ _ _ hab => ⟨⟨hab, allGood_zero env.lib n⟩, List.Perm.refl _⟩

theorem tracks_operTree (env : RoutingEnv) (modules : UnicastModules) (parent : LydNode)
    (s : RoutingState) :
    Tracks (operTree env modules parent) (Routing.operTree env modules parent) s []
      (fun a b _ => a = b ∧ AllGood env.lib s.calls 6) (fun _ => [])
      (routesLeak env s.freshRuns env.routes)
      (RequestLost env (routesLeak env s.freshRuns env.routes) s.calls 6) := by
  unfold Routing.operTree operOpen
  simp only [bind_assoc]
  refine tracks_checked env .nlSocketAlloc s fun s₁ hcalls₁ hfresh₁ => ?_
  rw [← hcalls₁]
  refine (does_alloc Piece.socket).tracks (z := []) (List.Perm.refl _) fun socket _ => ?_
  refine Tracks.after ?_ (does_release (socket, Piece.socket)) (perm_append_nil _)
  refine tracks_checked env .nlConnect s₁ fun s₂ hcalls₂ hfresh₂ => ?_
  rw [← hcalls₂]
  refine tracks_checked env .rtnlRouteAllocCache s₂ fun s₃ hcalls₃ hfresh₃ => ?_
  rw [← hcalls₃]
  refine (does_alloc Piece.cache).tracks (z := []) (List.Perm.refl _) fun cache _ => ?_
  refine Tracks.after ?_ (does_release (cache, Piece.cache)) (perm_append_nil _)
  refine tracks_checked env .rtnlLinkAllocCache s₃ fun s₄ hcalls₄ hfresh₄ => ?_
  rw [← hcalls₄]
  refine (does_alloc Piece.cache).tracks (z := []) (List.Perm.refl _) fun linkCache _ => ?_
  refine Tracks.after ?_ (does_release (linkCache, Piece.cache)) (perm_append_nil _)
  refine tracks_checked env .rtnlRouteReadTableNames s₄ fun s₅ hcalls₅ hfresh₅ => ?_
  rw [← hcalls₅]
  refine tracks_checked env .rtnlRouteReadProtocolNames s₅ fun s₆ hcalls₆ hfresh₆ => ?_
  have hfresh : s₆.freshRuns = s.freshRuns := by omega
  rw [← hfresh]
  exact tracks_operRibs env modules parent s₆ (s₅.calls + 1)

/-- What a request leaves for good: nothing before the calls that open it have
succeeded. -/
def requestLeak (env : RoutingEnv) (s : RoutingState) : List Piece :=
  if AllGood env.lib s.calls 6 then routesLeak env s.freshRuns env.routes else []

/-- What is left of a request that returned `code`: what was lost while
collecting, and at most one link when it failed. -/
def RequestLeaves (env : RoutingEnv) (s : RoutingState) (code : Int) (ks : List Piece) : Prop :=
  ∃ refs, OneLink env refs ∧ (code = SR_ERR_OK → refs = []) ∧ ks = requestLeak env s ++ refs

/-- `routing_oper_get_rib_routes_cb` returns what the request without a heap
returns, and neither reads nor releases what is not allocated. -/
theorem run_routingOperGetRibRoutesCb (env : RoutingEnv) (parent : LydNode) (s : RoutingState)
    (h : Heap Piece) :
    match (Routing.routingOperGetRibRoutesCb env parent).run s with
    | (.ok code, s') => ∃ us h', (routingOperGetRibRoutesCb env parent).run ⟨s, h⟩ =
        (.ok code, ⟨s', h'⟩) ∧ RequestLeaves env s code (us.map Prod.snd) ∧
        h'.live.Perm (us ++ h.live)
    | (.error, _) => False
    | (.crash, s') => ∃ h', (routingOperGetRibRoutesCb env parent).run ⟨s, h⟩ =
        (.crash, ⟨s', h'⟩) := by
  let leak := routesLeak env s.freshRuns env.routes
  have hbody : Tracks (do
        let _ ← embed (call .srAcquireContext env.acquired)
        let ipv4 ← embed (call (.lyCtxGetModule ipv4UnicastRouting) (env.module ipv4UnicastRouting))
        let ipv6 ← embed (call (.lyCtxGetModule ipv6UnicastRouting) (env.module ipv6UnicastRouting))
        let error ← operTree env ⟨ipv4, ipv6⟩ parent
        if error ≠ 0 then Prog.fail else return error)
      (do
        let _ ← call .srAcquireContext env.acquired
        let ipv4 ← call (.lyCtxGetModule ipv4UnicastRouting) (env.module ipv4UnicastRouting)
        let ipv6 ← call (.lyCtxGetModule ipv6UnicastRouting) (env.module ipv6UnicastRouting)
        let error ← Routing.operTree env ⟨ipv4, ipv6⟩ parent
        if error ≠ 0 then Prog.fail else return error) s []
      (fun a b _ => a = b ∧ AllGood env.lib s.calls 6) (fun _ => []) (leak ++ [])
      (RequestLost env leak s.calls 6) := by
    refine (tracks_call .srAcquireContext _ s).bind (z := []) (List.Perm.refl _) ?_
      (fun _ h => h.elim) fun _ h => h
    rintro _ _ s₁ ⟨_, _, hfresh₁, hcalls₁⟩
    refine (tracks_call _ _ s₁).bind (z := []) (List.Perm.refl _) ?_
      (fun _ h => h.elim) fun _ h => h
    rintro ipv4 ipv4' s₂ ⟨hipv4, hipv4', hfresh₂, hcalls₂⟩
    subst hipv4 hipv4'
    refine (tracks_call _ _ s₂).bind (z := []) (List.Perm.refl _) ?_
      (fun _ h => h.elim) fun _ h => h
    rintro ipv6 ipv6' s₃ ⟨hipv6, hipv6', hfresh₃, hcalls₃⟩
    subst hipv6 hipv6'
    have htree := tracks_operTree env ⟨env.module ipv4UnicastRouting,
      env.module ipv6UnicastRouting⟩ parent s₃
    have hfresh : s₃.freshRuns = s.freshRuns := hfresh₃.trans (hfresh₂.trans hfresh₁)
    have hcalls : s₃.calls = s.calls := hcalls₃.trans (hcalls₂.trans hcalls₁)
    rw [hfresh, hcalls] at htree
    have hlost : ∀ ks, ks = [] ∧ AllGood env.lib s.calls 6 →
        RequestLost env leak s.calls 6 (leak ++ ks) := by
      rintro ks ⟨hks, hall⟩
      exact ⟨fun _ => ⟨ks, .inl hks, rfl⟩, fun hnot => absurd hall hnot⟩
    refine htree.bind (z := []) (List.Perm.refl _) ?_ ?_ hlost
    · rintro error error' s₄ ⟨heq, hall⟩
      subst heq
      by_cases hzero : error = 0
      · simp only [hzero, ne_eq, not_true_eq_false, if_false]
        exact tracks_pure ⟨rfl, hall⟩ (u := []) (List.Perm.refl _) rfl
      · simp only [ne_eq, hzero, not_false_eq_true, if_true]
        exact tracks_fail ⟨rfl, hall⟩
    · intro ks hks
      rwa [List.map_nil, List.append_nil]
  rw [List.append_nil] at hbody
  have hstatus := hbody.status SR_ERR_CALLBACK_FAILED (List.Perm.refl h.live)
  unfold routingOperGetRibRoutesCb Routing.routingOperGetRibRoutesCb
  generalize Prog.run (σ := RoutingState) (Prog.status SR_ERR_CALLBACK_FAILED _) s = r
    at hstatus ⊢
  obtain ⟨x, s'⟩ := r
  cases x with
  | ok code =>
      obtain ⟨a, us, h', hrun, ⟨⟨hab, hall⟩, hus, hleft⟩ | ⟨ha, hb, hlost, hleft⟩⟩ := hstatus
      · subst hab
        refine ⟨us, h', hrun, ⟨[], oneLink_nil env, fun _ => rfl, ?_⟩, hleft⟩
        rw [hus, requestLeak, if_pos hall, List.append_nil]
      · subst ha hb
        refine ⟨us, h', hrun, ?_, hleft⟩
        by_cases hall : AllGood env.lib s.calls 6
        · obtain ⟨refs, hrefs, hks⟩ := hlost.opened hall
          refine ⟨refs, hrefs, fun hok => absurd hok (by decide), ?_⟩
          rw [hks, requestLeak, if_pos hall]
        · refine ⟨[], oneLink_nil env, fun _ => rfl, ?_⟩
          rw [hlost.unopened hall, requestLeak, if_neg hall]
          rfl
  | error => exact hstatus
  | crash => exact hstatus

/-! ## runs of requests -/

/-- Requests one after another, each with the kernel as it finds it. -/
def operRequests (requests : List (RoutingEnv × LydNode)) : OwnedM (List Int) :=
  requests.mapM fun r => routingOperGetRibRoutesCb r.1 r.2

/-- The same without a heap. -/
def operAnswers (requests : List (RoutingEnv × LydNode)) : RoutingM (List Int) :=
  requests.mapM fun r => Routing.routingOperGetRibRoutesCb r.1 r.2

/-- What the requests leave, each from the state the one before ended in. -/
def requestsLeak : List (RoutingEnv × LydNode) → RoutingState → List Piece
  | [], _ => []
  | r :: requests, s => requestLeak r.1 s ++
      requestsLeak requests ((Routing.routingOperGetRibRoutesCb r.1 r.2).run s).2

/-- What is left of a run of requests: what each leaves for good, and at most
one link for each that failed. -/
structure RequestsLeave (requests : List (RoutingEnv × LydNode)) (s : RoutingState)
    (codes : List Int) (ks refs : List Piece) : Prop where
  perm : ks.Perm (requestsLeak requests s ++ refs)
  links : ∀ k ∈ refs, ∃ ifindex, k = .link ifindex
  failed : refs.length ≤ codes.countP (· ≠ SR_ERR_OK)
  healthy : (∀ r ∈ requests, ∀ n, r.1.lib n = true) → refs = []

theorem RequestsLeave.cons {r : RoutingEnv × LydNode} {requests : List (RoutingEnv × LydNode)}
    {s : RoutingState} {code : Int} {codes : List Int} {ks ks' refs : List Piece}
    (h : RequestLeaves r.1 s code ks)
    (hrest : RequestsLeave requests ((Routing.routingOperGetRibRoutesCb r.1 r.2).run s).2 codes ks'
      refs) :
    ∃ refs', RequestsLeave (r :: requests) s (code :: codes) (ks' ++ ks) refs' := by
  obtain ⟨refs₁, hone, hok, rfl⟩ := h
  have hlength : refs₁.length ≤ if code ≠ SR_ERR_OK then 1 else 0 := by
    by_cases hcode : code = SR_ERR_OK
    · simp [hok hcode]
    · rcases hone with rfl | ⟨⟨ifindex, rfl⟩, _⟩
      · simp
      · simp [hcode]
  refine ⟨refs ++ refs₁, ?_, ?_, ?_, ?_⟩
  · refine (hrest.perm.append_right _).trans ?_
    rw [requestsLeak]
    refine List.perm_iff_count.mpr fun k => ?_
    simp only [List.count_append]
    omega
  · intro k hk
    rcases List.mem_append.mp hk with hk | hk
    · exact hrest.links k hk
    · rcases hone with rfl | ⟨⟨ifindex, rfl⟩, _⟩
      · cases hk
      · exact ⟨ifindex, List.mem_singleton.mp hk⟩
  · have hfailed := hrest.failed
    rw [List.length_append, List.countP_cons]
    simp only [decide_eq_true_eq]
    omega
  · intro hlib
    rw [hrest.healthy fun r hr => hlib r (List.mem_cons_of_mem _ hr)]
    rcases hone with rfl | ⟨_, n, hn⟩
    · rfl
    · rw [hlib r List.mem_cons_self n] at hn
      cases hn

/-- Any run of requests, from any state and any heap. -/
theorem run_operRequests (requests : List (RoutingEnv × LydNode)) (s : RoutingState)
    (h : Heap Piece) :
    match (operAnswers requests).run s with
    | (.ok codes, s') => ∃ us refs h', (operRequests requests).run ⟨s, h⟩ =
        (.ok codes, ⟨s', h'⟩) ∧ h'.live.Perm (us ++ h.live) ∧
        RequestsLeave requests s codes (us.map Prod.snd) refs
    | (.error, _) => False
    | (.crash, s') => ∃ h', (operRequests requests).run ⟨s, h⟩ = (.crash, ⟨s', h'⟩) := by
  induction requests generalizing s h with
  | nil =>
      refine ⟨[], [], h, rfl, List.Perm.refl _, List.Perm.refl _, ?_, Nat.zero_le _, fun _ => rfl⟩
      exact fun _ hk => absurd hk List.not_mem_nil
  | cons r requests ih =>
      have hone := run_routingOperGetRibRoutesCb r.1 r.2 s h
      unfold operAnswers operRequests
      rw [List.mapM_cons, List.mapM_cons]
      cases hrun : (Routing.routingOperGetRibRoutesCb r.1 r.2).run s with
      | mk x s₁ =>
          rw [hrun] at hone
          cases x with
          | error => exact hone.elim
          | crash =>
              obtain ⟨h₁, hcrash⟩ := hone
              rw [Prog.run_bind_crash hrun]
              exact ⟨h₁, Prog.run_bind_crash hcrash⟩
          | ok code =>
              obtain ⟨us, h₁, hserved, hleaves, hleft⟩ := hone
              have hrest := ih s₁ h₁
              rw [Prog.run_bind_ok hrun, Prog.run_bind_ok hserved]
              unfold operAnswers operRequests at hrest
              cases hruns : (requests.mapM fun r => Routing.routingOperGetRibRoutesCb r.1 r.2).run
                  s₁ with
              | mk x s₂ =>
                  rw [hruns] at hrest
                  cases x with
                  | error => exact hrest.elim
                  | crash =>
                      obtain ⟨h₂, hcrash⟩ := hrest
                      rw [Prog.run_bind_crash hruns]
                      exact ⟨h₂, Prog.run_bind_crash hcrash⟩
                  | ok codes =>
                      obtain ⟨vs, refs, h₂, hserved₂, hleft₂, hleave₂⟩ := hrest
                      have hs₁ : s₁ = ((Routing.routingOperGetRibRoutesCb r.1 r.2).run s).2 := by
                        rw [hrun]
                      rw [hs₁] at hleave₂
                      obtain ⟨refs', hleave⟩ := RequestsLeave.cons hleaves hleave₂
                      rw [Prog.run_bind_ok hruns]
                      refine ⟨vs ++ us, refs', h₂, Prog.run_bind_ok hserved₂, ?_, ?_⟩
                      · rw [List.append_assoc]
                        exact hleft₂.trans (hleft.append_left vs)
                      · rw [List.map_append]
                        exact hleave

/-! ## requests in which no call fails -/

/-- One name for each next hop of a multipath route. -/
def copiedNames (env : RoutingEnv) : List Piece :=
  env.routes.flatMap fun route => match unicastHops route with
    | [_] => []
    | nhs => nhs.map fun nh => .text ((env.links (rtnlRouteNhGetIfindex nh)).getD "")

theorem hopsLeak_fresh {env : RoutingEnv} (hfresh : ∀ n c, env.fresh n c = true) (n : Nat)
    (nhs : List RtnlNexthop) : hopsLeak env n nhs =
      nhs.map fun nh => .text ((env.links (rtnlRouteNhGetIfindex nh)).getD "") := by
  induction nhs generalizing n with
  | nil => rfl
  | cons nh nhs ih =>
      have hok : freshOk env n = true := by simp [freshOk, hfresh]
      rw [hopsLeak_cons, ih, hopLeak, if_pos hok]
      rfl

theorem routesLeak_fresh {env : RoutingEnv} (hfresh : ∀ n c, env.fresh n c = true) (n : Nat) :
    routesLeak env n env.routes = copiedNames env := by
  have hroutes : ∀ (routes : List RtnlRoute) (n : Nat), routesLeak env n routes =
      routes.flatMap fun route => match unicastHops route with
        | [_] => []
        | nhs => nhs.map fun nh => .text ((env.links (rtnlRouteNhGetIfindex nh)).getD "") := by
    intro routes
    induction routes with
    | nil => exact fun _ => rfl
    | cons route routes ih =>
        intro n
        rw [routesLeak_cons, ih, List.flatMap_cons]
        refine congrArg (· ++ _) ?_
        match unicastHops route with
        | [] => rfl
        | [_] => rfl
        | nh :: nh' :: nhs => exact hopsLeak_fresh hfresh n (nh :: nh' :: nhs)
  exact hroutes env.routes n

theorem length_copiedNames (env : RoutingEnv) : (copiedNames env).length =
    (env.routes.map fun route => nexthopRuns (unicastHops route)).sum := by
  rw [copiedNames, List.length_flatMap]
  refine congrArg List.sum (List.map_congr_left fun route _ => ?_)
  match unicastHops route with
  | [] => rfl
  | [_] => rfl
  | nh :: nh' :: nhs => exact List.length_map _

theorem requestsLeak_replicate {env : RoutingEnv} (hlib : ∀ n, env.lib n = true)
    (hfresh : ∀ n c, env.fresh n c = true) (parent : LydNode) (k : Nat) (s : RoutingState) :
    requestsLeak (List.replicate k (env, parent)) s =
      (List.replicate k (copiedNames env)).flatten := by
  induction k generalizing s with
  | zero => rfl
  | succ k ih =>
      have hall : AllGood env.lib s.calls 6 := fun i _ => hlib _
      rw [List.replicate_succ, requestsLeak, ih, requestLeak, if_pos hall, routesLeak_fresh hfresh,
        List.replicate_succ, List.flatten_cons]

/-- Every request for the kernel's routes copies the name of the interface of
each next hop of a multipath route once more and keeps the copy, also when no
call fails. -/
theorem live_operRequests {env : RoutingEnv} (hlib : ∀ n, env.lib n = true)
    (hfresh : ∀ n c, env.fresh n c = true) {parent : LydNode} {k : Nat} {s s' : RoutingState}
    {codes : List Int}
    (hrun : (operAnswers (List.replicate k (env, parent))).run s = (.ok codes, s'))
    (h : Heap Piece) :
    ∃ us h', (operRequests (List.replicate k (env, parent))).run ⟨s, h⟩ = (.ok codes, ⟨s', h'⟩) ∧
      h'.live.Perm (us ++ h.live) ∧
      (us.map Prod.snd).Perm (List.replicate k (copiedNames env)).flatten ∧
      h'.live.length = h.live.length +
        k * (env.routes.map fun route => nexthopRuns (unicastHops route)).sum := by
  have hserved := run_operRequests (List.replicate k (env, parent)) s h
  rw [hrun] at hserved
  obtain ⟨us, refs, h', hserved, hleft, hleave⟩ := hserved
  have hhealthy : ∀ r ∈ List.replicate k (env, parent), ∀ n, r.1.lib n = true := by
    intro r hr n
    rw [List.eq_of_mem_replicate hr]
    exact hlib n
  have hperm := hleave.perm
  rw [hleave.healthy hhealthy, List.append_nil, requestsLeak_replicate hlib hfresh] at hperm
  refine ⟨us, h', hserved, hleft, hperm, ?_⟩
  have hlength := hperm.length_eq
  rw [List.length_map, List.length_flatten, List.map_replicate, List.sum_replicate_nat,
    length_copiedNames] at hlength
  rw [hleft.length_eq, List.length_append, hlength, Nat.add_comm]

theorem live_operRequests_sample :
    ∃ codes s' h', (operRequests (List.replicate 3 ({ sampleEnv with routes := sampleRoutes },
        ""))).run ⟨{}, Heap.empty⟩ = (.ok codes, ⟨s', h'⟩) ∧ h'.live.length = 6 := by
  have hrun : ∃ codes s', (operAnswers (List.replicate 3
      ({ sampleEnv with routes := sampleRoutes }, ""))).run {} = (.ok codes, s') :=
    ⟨_, _, rfl⟩
  obtain ⟨codes, s', hrun⟩ := hrun
  obtain ⟨us, h', hserved, _, _, hlength⟩ := live_operRequests (fun _ => rfl) (fun _ _ => rfl) hrun
      Heap.empty
  exact ⟨codes, s', h', hserved, hlength⟩

end SysrepoInterfaces.Routing.Owned
