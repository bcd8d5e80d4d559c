import Mathlib.Algebra.GroupWithZero.Nat
import SysrepoInterfaces.Routing.Nexthops

/-!
# SysrepoInterfaces.Routing.Collect

Collecting the kernel's routes loses and duplicates nothing: one RIB for each
table and family, in it one bucket for each destination, and in the buckets
one clone of each route of the cache.
-/

namespace SysrepoInterfaces.Routing

open CProg Keyed

/-! ## what a kernel route becomes -/

/-- The RIB of a kernel route. -/
def ribKey (env : RoutingEnv) (route : RtnlRoute) : RibName × Nat :=
  (env.table2str route.table, route.family)

/-- The types of a kernel route that lead to no gateway, with the name of the
special next hop for each. -/
def specialTypes : List (Nat × String) :=
  [(RTN_BLACKHOLE, "blackhole"), (RTN_UNREACHABLE, "unreachable"), (RTN_PROHIBIT, "prohibit"),
    (RTN_LOCAL, "local")]

/-- The next hop of a kernel route. -/
def cacheNextHop (env : RoutingEnv) (linkCache : LinkCache) (route : RtnlRoute) : RouteNextHop :=
  match specialTypes.lookup route.type, route.nexthops with
  | some value, _ => { kind := .special, special := some value }
  | none, [] => {}
  | none, [nh] => { kind := .simple, simple := cacheSimple linkCache nh }
  | none, nh :: nh' :: nhs =>
      { kind := .list, listHead := (nh :: nh' :: nhs).map (cacheSimple env.links) }

/-- The source protocol: static for the static routes alone. -/
def cacheProtocol (route : RtnlRoute) : String :=
  if route.protocol = RTPROT_STATIC then "ietf-routing:static" else "ietf-routing:direct"

/-- The route a kernel route is collected as. -/
def cacheRoute (env : RoutingEnv) (linkCache : LinkCache) (route : RtnlRoute) : Route where
  preference := route.priority
  metadata := { sourceProtocol := some (cacheProtocol route) }
  nextHop := cacheNextHop env linkCache route

/-- Every next hop of the cache has a link to look its name up by. -/
def LinksKnown (env : RoutingEnv) (linkCache : LinkCache) (routesCache : List RtnlRoute) : Prop :=
  ∀ route ∈ routesCache, ∀ nh ∈ route.nexthops,
    (linkCache (rtnlRouteNhGetIfindex nh)).isSome ∧ (env.links (rtnlRouteNhGetIfindex nh)).isSome

/-! ## collecting the RIBs -/

@[simp] theorem key_ribBuildDescription (env : RoutingEnv) (rib : Rib) :
    (ribBuildDescription env rib).key = rib.key := by
  rw [ribBuildDescription]
  split <;> rfl

@[simp] theorem routesHead_ribBuildDescription (env : RoutingEnv) (rib : Rib) :
    (ribBuildDescription env rib).routesHead = rib.routesHead := by
  rw [ribBuildDescription]
  split <;> rfl

/-- The RIBs after one route: its RIB is there, and nothing has routes. -/
theorem key_collectRib (env : RoutingEnv) (ribsHead : List Rib) (route : RtnlRoute) :
    (collectRib env ribsHead route).map Rib.key =
      if ribKey env route ∈ ribsHead.map Rib.key then ribsHead.map Rib.key
      else ribsHead.map Rib.key ++ [ribKey env route] := by
  have hadd : (ribListAdd ribsHead (env.table2str route.table) route.family).map Rib.key =
      if ribKey env route ∈ ribsHead.map Rib.key then ribsHead.map Rib.key
      else ribsHead.map Rib.key ++ [ribKey env route] :=
    map_key_ensure (rfl : Rib.key { name := _, addressFamily := _ } = ribKey env route)
  rw [← hadd, collectRib]
  split
  · rw [ribListSetDefault]
    split
    · exact map_adjust fun _ => rfl
    · rfl
  · rfl

/-- What holds of a new RIB, and does not look at the default flag, holds of
every RIB. -/
theorem forall_mem_collectRib {env : RoutingEnv} {P : Rib → Prop}
    (hnew : ∀ name af, P { name := name, addressFamily := af })
    (hdefault : ∀ rib, P rib → P { rib with defaultRib := true }) {ribsHead : List Rib}
    {route : RtnlRoute} (h : ∀ rib ∈ ribsHead, P rib) :
    ∀ rib ∈ collectRib env ribsHead route, P rib := by
  have hadd : ∀ rib ∈ ribListAdd ribsHead (env.table2str route.table) route.family, P rib := by
    intro rib hrib
    rcases mem_ensure hrib with hrib | rfl
    · exact h rib hrib
    · exact hnew _ _
  rw [collectRib]
  split
  · rw [ribListSetDefault]
    split
    · intro rib hrib
      rcases mem_adjust hrib with hrib | ⟨x, hx, rfl⟩
      · exact hadd rib hrib
      · exact hdefault x (hadd x (mem_of_lookup hx))
    · exact hadd
  · exact hadd

/-- The same after all routes. -/
theorem forall_mem_foldl_collectRib {env : RoutingEnv} {P : Rib → Prop}
    (hnew : ∀ name af, P { name := name, addressFamily := af })
    (hdefault : ∀ rib, P rib → P { rib with defaultRib := true }) (routesCache : List RtnlRoute) :
    ∀ rib ∈ routesCache.foldl (collectRib env) [], P rib := by
  induction routesCache using List.reverseRecOn with
  | nil => simp
  | append_singleton routesCache route ih =>
      rw [List.foldl_append, List.foldl_cons, List.foldl_nil]
      exact forall_mem_collectRib hnew hdefault ih

/-- One RIB for each table and family, in order of first appearance. -/
theorem map_key_foldl_collectRib (env : RoutingEnv) (routesCache : List RtnlRoute) :
    (routesCache.foldl (collectRib env) []).map Rib.key =
      (routesCache.map (ribKey env)).eraseDups := by
  induction routesCache using List.reverseRecOn with
  | nil => rfl
  | append_singleton routesCache route ih =>
      rw [List.foldl_append, List.foldl_cons, List.foldl_nil, List.map_append, List.map_singleton,
        eraseDups_concat, key_collectRib, ih]
      simp only [mem_eraseDups]

/-- `routing_collect_ribs` on an empty list: one RIB for each table and
family, in order of first appearance, without routes. -/
theorem routingCollectRibs_nil (env : RoutingEnv) (routesCache : List RtnlRoute) :
    ∃ ribs, routingCollectRibs env routesCache [] = (0, ribs) ∧
      ribs.map Rib.key = (routesCache.map (ribKey env)).eraseDups ∧
      ∀ rib ∈ ribs, rib.routesHead = [] := by
  have hempty : ∀ rib ∈ routesCache.foldl (collectRib env) [], rib.routesHead = [] :=
    forall_mem_foldl_collectRib (fun _ _ => rfl) (fun _ h => h) routesCache
  refine ⟨_, rfl, ?_, ?_⟩
  · rw [List.map_map, ← map_key_foldl_collectRib]
    exact List.map_congr_left fun rib _ => key_ribBuildDescription env rib
  · intro rib hrib
    obtain ⟨rib, hmem, rfl⟩ := List.mem_map.mp hrib
    rw [routesHead_ribBuildDescription, hempty rib hmem]

/-! ## collecting one route -/

/-- The next hops that are looked up: those of a unicast route. -/
def unicastHops (route : RtnlRoute) : List RtnlNexthop :=
  if (specialNextHop route.type).isSome then [] else route.nexthops

/-- The route a kernel route is collected as when its first run of
`foreach_nexthop` is the n-th. -/
def collectedRoute (env : RoutingEnv) (linkCache : LinkCache) (n : Nat) (route : RtnlRoute) :
    Route where
  preference := route.priority
  metadata := { sourceProtocol := some (cacheProtocol route) }
  nextHop := match specialNextHop route.type with
    | some value => { kind := .special, special := some value }
    | none => collectedNexthops env linkCache n {} route.nexthops

theorem collects_collectNextHop {env : RoutingEnv} {linkCache : LinkCache} {nextHop : RouteNextHop}
    (hkind : nextHop.kind = .none) (route : RtnlRoute) (s : RoutingState) :
    Collects (collectNextHop env linkCache nextHop route) s
      (NexthopsKnown env linkCache s.freshRuns (unicastHops route))
      (nexthopRuns (unicastHops route)) (NexthopsFail env s.freshRuns (unicastHops route))
      fun nextHop' => routeNextHopClone nextHop' =
        .ok (collectedRoute env linkCache s.freshRuns route).nextHop := by
  rw [collectNextHop, unicastHops, collectedRoute]
  cases htype : specialNextHop route.type with
  | some value =>
      have hset : Collects (pure (routeNextHopSetSpecial nextHop (some value))) s True 0 False
          fun nextHop' => routeNextHopClone nextHop' =
            .ok { kind := .special, special := some value } :=
        collects_pure (by simp [routeNextHopClone, routeNextHopSetSpecial])
      refine hset.imp ?_ rfl ?_ fun _ _ h => h
      · simp [NexthopsKnown, ListKnown, freshHops, numbered]
      · simp [NexthopsFail, ListFails, numbered]
  | none =>
      refine (collects_collectNexthops hkind route.nexthops s).imp Iff.rfl rfl Iff.rfl ?_
      intro hknown a ha
      rw [ha]
      exact routeNextHopClone_collectedNexthops hkind hknown

/-- The route loop fills `tmp_route` with what clones to the collected route,
whatever was left in it. -/
theorem collects_collectRoute (env : RoutingEnv) (linkCache : LinkCache) (tmpRoute : Route)
    (route : RtnlRoute) (s : RoutingState) :
    Collects (collectRoute env linkCache tmpRoute route) s
      (NexthopsKnown env linkCache s.freshRuns (unicastHops route))
      (nexthopRuns (unicastHops route)) (NexthopsFail env s.freshRuns (unicastHops route))
      fun tmpRoute' => routeClone tmpRoute' =
        .ok (collectedRoute env linkCache s.freshRuns route) := by
  have hnext : Collects (collectNextHop env linkCache (routeInit tmpRoute).nextHop route)
      s _ _ _ _ :=
    collects_collectNextHop rfl route s
  have hclone : ∀ nextHop, routeNextHopClone nextHop =
      .ok (collectedRoute env linkCache s.freshRuns route).nextHop →
      routeClone { preference := route.priority
                   metadata := { sourceProtocol := some (cacheProtocol route) }
                   nextHop := nextHop } = .ok (collectedRoute env linkCache s.freshRuns route) := by
    intro nextHop h
    simp only [routeClone, h, Exit.ok_bind, Exit.pure_eq]
    rfl
  have hfill : ∀ nextHop s', routeNextHopClone nextHop =
      .ok (collectedRoute env linkCache s.freshRuns route).nextHop →
      s'.freshRuns = s.freshRuns + nexthopRuns (unicastHops route) →
      Collects (if route.protocol = RTPROT_STATIC then
          pure (routeSetSourceProtocol { routeSetPreference (routeInit tmpRoute) route.priority with
            nextHop := nextHop } (some "ietf-routing:static"))
        else
          pure (routeSetSourceProtocol { routeSetPreference (routeInit tmpRoute) route.priority with
            nextHop := nextHop } (some "ietf-routing:direct"))) s' True 0 False
        fun tmpRoute' => routeClone tmpRoute' =
          .ok (collectedRoute env linkCache s.freshRuns route) := by
    intro nextHop s' h _
    have := hclone nextHop h
    rw [cacheProtocol] at this
    split
    · next hstatic => rw [if_pos hstatic] at this; exact collects_pure this
    · next hstatic => rw [if_neg hstatic] at this; exact collects_pure this
  exact (hnext.bind hfill).imp (by simp) rfl (by simp) fun _ _ h => h

/-! ## collecting all routes -/

/-- File a route under the RIB and the destination of the kernel route. -/
def addRoute (env : RoutingEnv) (ribsHead : List Rib) (x : RtnlRoute × Route) : List Rib :=
  ribListUpdate ribsHead (env.table2str x.1.table) x.1.family fun rib =>
    { rib with routesHead := routeListHashPush rib.routesHead x.1.dst x.2 }

/-- The routes of the cache, with what they are collected as. -/
def collectedRoutes (env : RoutingEnv) (linkCache : LinkCache) (n : Nat)
    (routesCache : List RtnlRoute) : List (RtnlRoute × Route) :=
  (numberedRoutes unicastHops n routesCache).map fun p =>
    (p.2, collectedRoute env linkCache p.1 p.2)

theorem map_fst_collectedRoutes (env : RoutingEnv) (linkCache : LinkCache) (n : Nat)
    (routesCache : List RtnlRoute) :
    (collectedRoutes env linkCache n routesCache).map Prod.fst = routesCache := by
  rw [collectedRoutes, List.map_map]
  exact map_snd_numbered _ n routesCache

theorem key_addRoute (env : RoutingEnv) (ribsHead : List Rib) (x : RtnlRoute × Route) :
    (addRoute env ribsHead x).map Rib.key = ribsHead.map Rib.key :=
  map_adjust fun _ => rfl

theorem key_foldl_addRoute (env : RoutingEnv) (xs : List (RtnlRoute × Route))
    (ribsHead : List Rib) :
    (xs.foldl (addRoute env) ribsHead).map Rib.key = ribsHead.map Rib.key := by
  induction xs generalizing ribsHead with
  | nil => rfl
  | cons x xs ih => rw [List.foldl_cons, ih, key_addRoute]

/-- Writing through the pointer `rib_list_get` returned files the route. -/
theorem ribListUpdate_eq_addRoute {env : RoutingEnv} {ribsHead : List Rib} {route : RtnlRoute}
    {tmpRib : Rib}
    (hget : ribListGet ribsHead (env.table2str route.table) route.family = some tmpRib)
    (new : Route) :
    ribListUpdate ribsHead (env.table2str route.table) route.family (fun rib =>
      { rib with routesHead := routeListHashPush tmpRib.routesHead route.dst new }) =
      addRoute env ribsHead (route, new) := by
  refine adjust_congr fun rib hrib => ?_
  rw [Option.some.inj (hget.symm.trans hrib)]

/-- With the RIB of every route in the list, the loop runs through the cache;
the branch for a missing RIB is not taken. -/
theorem collects_collectRoutesLoop (env : RoutingEnv) (linkCache : LinkCache)
    (routesCache : List RtnlRoute) (tmpRoute : Route) (ribsHead : List Rib) (s : RoutingState)
    (hribs : ∀ route ∈ routesCache, ribKey env route ∈ ribsHead.map Rib.key) :
    Collects (collectRoutesLoop env linkCache routesCache tmpRoute ribsHead) s
      (RoutesKnown env linkCache unicastHops s.freshRuns routesCache)
      (routesCache.map fun route => nexthopRuns (unicastHops route)).sum
      (RoutesFail env unicastHops s.freshRuns routesCache) fun r => r =
        (0, (collectedRoutes env linkCache s.freshRuns routesCache).foldl (addRoute env)
          ribsHead) := by
  induction routesCache generalizing tmpRoute ribsHead s with
  | nil =>
      have hend : Collects (pure ((0 : Int), ribsHead)) s True 0 False fun r => r = (0, ribsHead) :=
        collects_pure rfl
      refine hend.imp ?_ rfl ?_ fun _ _ h => h
      · simp [RoutesKnown, numberedRoutes, numbered]
      · simp [RoutesFail, numberedRoutes, numbered]
  | cons route routesCache ih =>
      rw [collectRoutesLoop]
      cases hget : ribListGet ribsHead (env.table2str route.table) route.family with
      | none => exact absurd (hribs route List.mem_cons_self) (lookup_eq_none_iff.mp hget)
      | some tmpRib =>
          have hroute := collects_collectRoute env linkCache tmpRoute route s
          have hrest : ∀ tmpRoute' s₁, routeClone tmpRoute' =
              .ok (collectedRoute env linkCache s.freshRuns route) →
              s₁.freshRuns = s.freshRuns + nexthopRuns (unicastHops route) →
              Collects (do
                let routesHead ← Prog.lift (routeListHashAdd tmpRib.routesHead route.dst tmpRoute')
                collectRoutesLoop env linkCache routesCache (routeFree tmpRoute')
                  (ribListUpdate ribsHead (env.table2str route.table) route.family
                    fun rib => { rib with routesHead := routesHead })) s₁
                (RoutesKnown env linkCache unicastHops
                  (s.freshRuns + nexthopRuns (unicastHops route)) routesCache)
                (routesCache.map fun route => nexthopRuns (unicastHops route)).sum
                (RoutesFail env unicastHops (s.freshRuns + nexthopRuns (unicastHops route))
                  routesCache) fun r => r =
                (0, (collectedRoutes env linkCache s.freshRuns (route :: routesCache)).foldl
                  (addRoute env) ribsHead) := by
            intro tmpRoute' s₁ hclone hfresh
            have hribs' : ∀ r ∈ routesCache, ribKey env r ∈ (addRoute env ribsHead
                (route, collectedRoute env linkCache s.freshRuns route)).map Rib.key := by
              intro r hr
              rw [key_addRoute]
              exact hribs r (List.mem_cons_of_mem _ hr)
            have hloop := ih (routeFree tmpRoute') _ s₁ hribs'
            rw [hfresh] at hloop
            rw [routeListHashAdd_eq, hclone, Exit.ok_bind]
            show Collects (collectRoutesLoop env linkCache routesCache (routeFree tmpRoute') _)
              s₁ _ _ _ _
            rw [ribListUpdate_eq_addRoute hget]
            exact hloop
          refine (hroute.bind hrest).imp ?_ ?_ ?_ fun _ _ h => h
          · exact routesKnown_cons ..
          · simp
          · exact routesFail_cons ..

/-- The routes of a RIB, as its hash stands for them: those of the cache that
belong to it. -/
theorem toMultimap_foldl_addRoute (env : RoutingEnv) {ribsHead : List Rib}
    (hnd : (ribsHead.map Rib.key).Nodup) (hempty : ∀ rib ∈ ribsHead, rib.routesHead = [])
    (xs : List (RtnlRoute × Route)) :
    ∀ rib ∈ xs.foldl (addRoute env) ribsHead,
      toMultimap rib.routesHead = Multimap.ofList
        ((xs.filter fun x => ribKey env x.1 = rib.key).map fun x => (x.1.dst, x.2)) := by
  induction xs using List.reverseRecOn with
  | nil =>
      intro rib hrib
      rw [hempty rib hrib]
      rfl
  | append_singleton xs x ih =>
      intro rib hrib
      rw [List.foldl_append, List.foldl_cons, List.foldl_nil, addRoute, ribListUpdate] at hrib
      rw [List.filter_append, List.map_append]
      have hnd' : ((xs.foldl (addRoute env) ribsHead).map Rib.key).Nodup := by
        rwa [key_foldl_addRoute]
      rcases mem_adjust_of_nodup (by intro e; rfl) hnd' hrib with
        ⟨hold, hne⟩ | ⟨old, hold, rfl⟩
      · have hkey : ¬ ribKey env x.1 = rib.key := fun h => hne h.symm
        simp [hkey, ih rib hold]
      · have hkey : ribKey env x.1 = old.key := (key_of_lookup hold).symm
        have hmap := ih old (mem_of_lookup hold)
        show toMultimap (routeListHashPush old.routesHead _ _) = _
        rw [toMultimap_push, hmap]
        show _ = Multimap.ofList (_ ++ ([x].filter fun x => ribKey env x.1 = old.key).map _)
        simp only [hkey, List.filter_cons, decide_true, if_true, List.filter_nil, List.map_cons,
          List.map_nil, Multimap.ofList_concat]
        rfl

/-- `routing_collect_routes` on an empty list, for every outcome of the calls
on the way. -/
theorem collects_routingCollectRoutes (env : RoutingEnv) (linkCache : LinkCache)
    (routesCache : List RtnlRoute) (s : RoutingState) :
    ∃ ribs : List Rib, ribs.map Rib.key = (routesCache.map (ribKey env)).eraseDups ∧
      (∀ rib ∈ ribs, toMultimap rib.routesHead = Multimap.ofList
        (((collectedRoutes env linkCache s.freshRuns routesCache).filter fun x =>
          ribKey env x.1 = rib.key).map fun x => (x.1.dst, x.2))) ∧
      Collects (routingCollectRoutes env routesCache linkCache []) s
        (RoutesKnown env linkCache unicastHops s.freshRuns routesCache)
        (routesCache.map fun route => nexthopRuns (unicastHops route)).sum
        (RoutesFail env unicastHops s.freshRuns routesCache) fun r =>
          r = (0, markActiveRoutes ribs) := by
  obtain ⟨ribs₀, hcollect, hkeys, hempty⟩ := routingCollectRibs_nil env routesCache
  have hmem : ∀ route ∈ routesCache, ribKey env route ∈ ribs₀.map Rib.key := by
    intro route hroute
    rw [hkeys, mem_eraseDups]
    exact List.mem_map_of_mem hroute
  have hnd : (ribs₀.map Rib.key).Nodup := by
    rw [hkeys]
    exact nodup_eraseDups _
  have hloop := collects_collectRoutesLoop env linkCache routesCache {} ribs₀ s hmem
  have hkeys' := key_foldl_addRoute env (collectedRoutes env linkCache s.freshRuns routesCache)
      ribs₀
  have hmaps := toMultimap_foldl_addRoute env hnd hempty
    (collectedRoutes env linkCache s.freshRuns routesCache)
  generalize (collectedRoutes env linkCache s.freshRuns routesCache).foldl (addRoute env) ribs₀ =
    ribs
    at hloop hkeys' hmaps
  refine ⟨ribs, hkeys'.trans hkeys, hmaps, ?_⟩
  rw [routingCollectRoutes, hcollect]
  have hmark : ∀ (r : Int × List Rib) s', r = (0, ribs) →
      s'.freshRuns = s.freshRuns +
        (routesCache.map fun route => nexthopRuns (unicastHops route)).sum →
      Collects (if r.1 ≠ 0 then pure (r.1, r.2) else pure (0, markActiveRoutes r.2)) s' True 0 False
        fun r => r = (0, markActiveRoutes ribs) := by
    intro r s' hr _
    rw [hr]
    exact collects_pure rfl
  exact (hloop.bind hmark).imp (by simp) rfl (by simp) fun _ _ h => h

/-! ## nothing lost, nothing duplicated -/

/-- A route with the place it is filed under. -/
structure RouteEntry where
  rib : RibName × Nat
  destination : NlAddr
  preference : Nat
  nextHop : RouteNextHop
  sourceProtocol : Option String
deriving DecidableEq

def Route.entry (route : Route) (rib : RibName × Nat) (destination : NlAddr) : RouteEntry where
  rib := rib
  destination := destination
  preference := route.preference
  nextHop := route.nextHop
  sourceProtocol := route.metadata.sourceProtocol

/-- All routes of a RIB. -/
def ribEntries (rib : Rib) : List RouteEntry :=
  rib.routesHead.flatMap fun e => e.routesHead.map fun route => route.entry rib.key e.pfx

/-- The entry of a route of the cache. -/
def cacheEntry (env : RoutingEnv) (linkCache : LinkCache) (route : RtnlRoute) : RouteEntry where
  rib := ribKey env route
  destination := route.dst
  preference := route.priority
  nextHop := cacheNextHop env linkCache route
  sourceProtocol := some (cacheProtocol route)

/-- The entries of a RIB are those its hash stands for. -/
theorem ribEntries_eq (rib : Rib) : ribEntries rib =
    (Multimap.pairs (toMultimap rib.routesHead)).map fun x => x.2.entry rib.key x.1 := by
  simp [ribEntries, Multimap.pairs, toMultimap, List.flatMap_map, List.map_flatMap,
    Function.comp_def]

theorem map_markActive {α : Type} {g : Route → α}
    (hg : ∀ route, g (routeSetActive route true) = g route)
    (routes : List Route) : (markActive routes).map g = routes.map g := by
  refine List.ext_getElem? fun i => ?_
  rw [List.getElem?_map, List.getElem?_map, markActive, List.getElem?_modify]
  cases routes[i]? with
  | none => rfl
  | some route =>
      split
      · exact congrArg some (hg route)
      · rfl

/-- Choosing the active routes moves nothing. -/
theorem ribEntries_markActiveRib (rib : Rib) : ribEntries (markActiveRib rib) = ribEntries rib := by
  rw [ribEntries, ribEntries, markActiveRib, List.flatMap_map]
  exact List.flatMap_congr fun e _ => map_markActive (fun _ => rfl) e.routesHead

theorem ribEntries_markActiveRoutes (ribsHead : List Rib) :
    (markActiveRoutes ribsHead).flatMap ribEntries = ribsHead.flatMap ribEntries := by
  rw [markActiveRoutes, List.flatMap_map]
  exact List.flatMap_congr fun rib _ => ribEntries_markActiveRib rib

/-- The entry of a route filed under a kernel route. -/
def filedEntry (env : RoutingEnv) (x : RtnlRoute × Route) : RouteEntry :=
  x.2.entry (ribKey env x.1) x.1.dst

/-- The entries of a RIB are the routes filed under it. -/
theorem ribEntries_perm {env : RoutingEnv} {xs : List (RtnlRoute × Route)} {rib : Rib}
    (h : toMultimap rib.routesHead = Multimap.ofList
      ((xs.filter fun x => ribKey env x.1 = rib.key).map fun x => (x.1.dst, x.2))) :
    (ribEntries rib).Perm
      ((xs.filter fun x => ribKey env x.1 = rib.key).map (filedEntry env)) := by
  rw [ribEntries_eq, h]
  refine ((Multimap.pairs_ofList _).map _).trans ?_
  rw [List.map_map]
  refine List.Perm.of_eq (List.map_congr_left fun x hx => ?_)
  have hkey : ribKey env x.1 = rib.key := of_decide_eq_true (List.mem_filter.mp hx).2
  simp [filedEntry, hkey]

/-- The RIBs hold the routes filed, each once. -/
theorem flatMap_ribEntries_perm {env : RoutingEnv} {xs : List (RtnlRoute × Route)}
    {ribs : List Rib} (hkeys : ribs.map Rib.key = (xs.map fun x => ribKey env x.1).eraseDups)
    (hmaps : ∀ rib ∈ ribs, toMultimap rib.routesHead = Multimap.ofList
      ((xs.filter fun x => ribKey env x.1 = rib.key).map fun x => (x.1.dst, x.2))) :
    (ribs.flatMap ribEntries).Perm (xs.map (filedEntry env)) := by
  -- the keys of the RIBs are distinct and cover the cache, so they sort it
  have hnd : (ribs.map Rib.key).Nodup := by
    rw [hkeys]
    exact nodup_eraseDups _
  have hcover : ∀ x ∈ xs, ribKey env x.1 ∈ ribs.map Rib.key := by
    intro x hx
    rw [hkeys, mem_eraseDups]
    exact List.mem_map_of_mem hx
  have hsort := perm_flatMap_filter hnd hcover
  rw [List.flatMap_map] at hsort
  refine (List.Perm.flatMap_left ribs fun rib hrib => ribEntries_perm (hmaps rib hrib)).trans ?_
  rw [← List.map_flatMap]
  exact hsort.map _

/-- The buckets of a RIB are the destinations filed under it. -/
theorem map_pfx_eq {env : RoutingEnv} {xs : List (RtnlRoute × Route)} {rib : Rib}
    (h : toMultimap rib.routesHead = Multimap.ofList
      ((xs.filter fun x => ribKey env x.1 = rib.key).map fun x => (x.1.dst, x.2))) :
    rib.routesHead.map RouteListHashElement.pfx =
      ((xs.filter fun x => ribKey env x.1 = rib.key).map fun x => x.1.dst).eraseDups := by
  have hpfx := congrArg (List.map Prod.fst) h
  rw [keys_toMultimap, Multimap.keys_ofList, List.map_map] at hpfx
  exact hpfx

/-! ## with a link cache for every next hop -/

theorem freshHops_eq {env : RoutingEnv} (hfresh : ∀ n c, env.fresh n c = true) (n : Nat)
    (nhs : List RtnlNexthop) : freshHops env n nhs = nhs := by
  have hall : ∀ p ∈ numbered (fun _ => 1) n nhs, freshOk env p.1 = true := by
    intro p _
    simp [freshOk, hfresh]
  rw [freshHops, List.filter_eq_self.mpr hall]
  exact map_snd_numbered _ n nhs

/-- The chain of comparisons looks the type up. -/
theorem specialNextHop_eq_lookup (type : Nat) : specialNextHop type = specialTypes.lookup type := by
  rw [specialNextHop, specialTypes]
  simp only [List.lookup_cons, List.lookup_nil]
  grind

theorem collectedRoute_eq {env : RoutingEnv} (hfresh : ∀ n c, env.fresh n c = true)
    (linkCache : LinkCache) (n : Nat) (route : RtnlRoute) :
    collectedRoute env linkCache n route = cacheRoute env linkCache route := by
  rw [collectedRoute, cacheRoute, cacheNextHop, specialNextHop_eq_lookup]
  cases specialTypes.lookup route.type with
  | some value => rfl
  | none =>
      match route.nexthops with
      | [] => rfl
      | [nh] => rfl
      | nh :: nh' :: nhs => simp [collectedNexthops, freshHops_eq hfresh, listNextHop]

theorem routesKnown_of_linksKnown {env : RoutingEnv} (hfresh : ∀ n c, env.fresh n c = true)
    {linkCache : LinkCache} {routesCache : List RtnlRoute}
    (hlinks : LinksKnown env linkCache routesCache) (n : Nat) :
    RoutesKnown env linkCache unicastHops n routesCache := by
  intro p hp
  have hroute : p.2 ∈ routesCache := by
    rw [← map_snd_numbered (fun route => nexthopRuns (unicastHops route)) n routesCache]
    exact List.mem_map_of_mem hp
  have hhops : ∀ nh ∈ unicastHops p.2, nh ∈ p.2.nexthops := by
    intro nh hnh
    rw [unicastHops] at hnh
    split at hnh
    · cases hnh
    · exact hnh
  have hlook : ∀ nh ∈ unicastHops p.2, (linkCache (rtnlRouteNhGetIfindex nh)).isSome ∧
      (env.links (rtnlRouteNhGetIfindex nh)).isSome :=
        fun nh hnh => hlinks p.2 hroute nh (hhops nh hnh)
  revert hlook
  match unicastHops p.2 with
  | [] => exact fun _ => by simp [NexthopsKnown, ListKnown, freshHops_eq hfresh]
  | [nh] => exact fun hlook => (hlook nh List.mem_cons_self).1
  | nh :: nh' :: nhs =>
      intro hlook x hx
      rw [freshHops_eq hfresh] at hx
      exact (hlook x hx).2

/-- `routing_collect_routes` on an empty list returns 0; it makes one RIB for
each table and family of the cache, in order of first appearance, with one
bucket for each destination, and files every route of the cache once. -/
theorem routingCollectRoutes_nil (env : RoutingEnv) (linkCache : LinkCache)
    (routesCache : List RtnlRoute) (hfresh : ∀ n c, env.fresh n c = true)
    (hlinks : LinksKnown env linkCache routesCache) (s : RoutingState) :
    ∃ ribs s', (routingCollectRoutes env routesCache linkCache []).run s = (.ok (0, ribs), s') ∧
      ribs.map Rib.key = (routesCache.map (ribKey env)).eraseDups ∧
      (∀ rib ∈ ribs, rib.routesHead.map RouteListHashElement.pfx =
        ((routesCache.filter fun route => ribKey env route = rib.key).map
          RtnlRoute.dst).eraseDups) ∧
      (ribs.flatMap ribEntries).Perm (routesCache.map (cacheEntry env linkCache)) := by
  obtain ⟨ribs, hkeys, hmaps, hcollects⟩ :=
    collects_routingCollectRoutes env linkCache routesCache s
  have hknown := routesKnown_of_linksKnown hfresh hlinks s.freshRuns
  obtain ⟨r, s', hrun, rfl, -⟩ := hcollects.done hknown
  have hroutes : collectedRoutes env linkCache s.freshRuns routesCache =
      routesCache.map fun route => (route, cacheRoute env linkCache route) :=
    map_numbered (fun n route => by rw [collectedRoute_eq hfresh]) s.freshRuns routesCache
  rw [hroutes] at hmaps
  refine ⟨markActiveRoutes ribs, s', hrun, ?_, ?_, ?_⟩
  · rw [← hkeys, markActiveRoutes, List.map_map]
    rfl
  · intro rib hrib
    obtain ⟨rib, hold, rfl⟩ := List.mem_map.mp hrib
    have hpfx := map_pfx_eq (hmaps rib hold)
    rw [List.filter_map, List.map_map] at hpfx
    rw [markActiveRib, List.map_map]
    exact hpfx
  · have hperm := flatMap_ribEntries_perm (by rw [hkeys, List.map_map]; rfl) hmaps
    rw [List.map_map] at hperm
    rw [ribEntries_markActiveRoutes]
    exact hperm

/-- Two routes to one destination, and one to another in the same table. -/
def sampleRoutes : List RtnlRoute :=
  let toEth0 : RtnlNexthop := { ifindex := some 2, gateway := some (addr4 0xc0000201 32) }
  let route : RtnlRoute := { rtnlRouteAlloc (addr4 0x0a000000 8) with nexthops := [toEth0] }
  [route, { route with nexthops := [toEth0, toEth0] },
    { rtnlRouteAlloc (addr4 0xac100000 12) with type := RTN_BLACKHOLE }]

theorem routingCollectRoutes_sampleRoutes :
    ∃ ribs s', (routingCollectRoutes sampleEnv sampleRoutes sampleEnv.links []).run {} =
        (.ok (0, ribs), s') ∧
      ribs.map Rib.key = [(⟨"main", by decide⟩, AF_INET)] ∧
      (ribs.flatMap ribEntries).Perm (sampleRoutes.map (cacheEntry sampleEnv sampleEnv.links)) := by
  obtain ⟨ribs, s', hrun, hkeys, -, hperm⟩ := routingCollectRoutes_nil sampleEnv sampleEnv.links
    sampleRoutes (fun _ _ => rfl) (by unfold LinksKnown; decide) {}
  exact ⟨ribs, s', hrun, hkeys.trans (by decide), hperm⟩

end SysrepoInterfaces.Routing
