import SysrepoInterfaces.Routing.Refinement
import SysrepoInterfaces.Routing.StartupStatus

/-!
# SysrepoInterfaces.Routing.Deletable

Whether the change path can delete what startup has exported.  Startup collects
the static routes of all tables and kinds, and of those to one prefix the last
one of the cache is exported; a deletion asks the kernel for a unicast route of
the main table, without TOS and from any source.
-/

namespace SysrepoInterfaces.Routing

open CProg Keyed

/-! ## what startup exports -/

/-- The static routes of a family to a prefix, in the order of the cache. -/
def staticRoutesTo (routes : List RtnlRoute) (af : Nat) (dst : NlAddr) : List RtnlRoute :=
  (cacheStatic routes).filter fun route => route.family = af ∧ route.dst = dst

/-- The hash of a family. -/
def StaticHashes.of (hashes : StaticHashes) (af : Nat) : List RouteListHashElement :=
  if af = AF_INET then hashes.ipv4 else if af = AF_INET6 then hashes.ipv6 else []

/-- The route the export shows under the prefix of an entry: the kernel route
that the first one of its bucket was collected from. -/
def Shows (env : RoutingEnv) (af : Nat) (e : RouteListHashElement) (route : RtnlRoute) : Prop :=
  (staticRoutesTo env.routes af e.pfx).getLast? = some route ∧
    ∃ n, e.routesHead.head? = some (staticRoute env n route)

/-- A run that collects the static routes: the links of their next hops are
there. -/
theorem known_of_run {env : RoutingEnv} {s s' : RoutingState} {hashes : StaticHashes}
    (hrun : (routingStartupCollectStaticRoutes env).run s = (.ok hashes, s')) :
    ∃ n, RoutesKnown env env.links RtnlRoute.nexthops n (cacheStatic env.routes) ∧
      hashes = (collectedStatic env n env.routes).foldl StaticHashes.push {} := by
  unfold routingStartupCollectStaticRoutes at hrun
  obtain ⟨_, s₁, -, h₁⟩ := Prog.bind_eq_ok hrun
  obtain ⟨_, s₂, -, h₂⟩ := Prog.bind_eq_ok h₁
  obtain ⟨_, s₃, -, h₃⟩ := Prog.bind_eq_ok h₂
  obtain ⟨_, s₄, -, h₄⟩ := Prog.bind_eq_ok h₃
  obtain ⟨acc, s₅, hloop, hret⟩ := Prog.bind_eq_ok h₄
  have hcollects := collects_startupCollectRoutes env env.routes ({}, {}) s₄
  by_cases hknown : RoutesKnown env env.links RtnlRoute.nexthops s₄.freshRuns
      (cacheStatic env.routes)
  · obtain ⟨acc', _, hloop', hacc, -⟩ := hcollects.done hknown
    obtain rfl : acc = acc' := Exit.ok.inj (Prod.mk.inj (hloop.symm.trans hloop')).1
    cases hret
    exact ⟨_, hknown, hacc⟩
  · obtain ⟨_, hcrash, -⟩ := hcollects.crash hknown
    cases (Prod.mk.inj (hloop.symm.trans hcrash)).1

/-- The routes collected for a family. -/
def collectedOf (env : RoutingEnv) (n af : Nat) : List (NlAddr × Route) :=
  ((collectedStatic env n env.routes).filter fun x => x.1.family = af).map fun x => (x.1.dst, x.2)

theorem toMultimap_of {env : RoutingEnv} {hashes : StaticHashes} {n af : Nat}
    (h : hashes = (collectedStatic env n env.routes).foldl StaticHashes.push {})
    (haf : af = AF_INET ∨ af = AF_INET6) :
    toMultimap (hashes.of af) = Multimap.ofList (collectedOf env n af) := by
  obtain ⟨hipv4, hipv6⟩ := toMultimap_foldl_push (collectedStatic env n env.routes)
  have hne : AF_INET6 ≠ AF_INET := by decide
  rw [h, StaticHashes.of]
  rcases haf with rfl | rfl
  · rw [if_pos rfl, hipv4]
    rfl
  · rw [if_neg hne, if_pos rfl, hipv6]
    rfl

/-- The routes collected under a prefix are those of the static routes to it. -/
theorem filter_collectedOf (env : RoutingEnv) (n af : Nat) (dst : NlAddr) :
    ∃ ps : List (Nat × RtnlRoute), ps.map Prod.snd = staticRoutesTo env.routes af dst ∧
      ((collectedOf env n af).filter fun x => x.1 = dst).map Prod.snd =
        ps.map fun p => staticRoute env p.1 p.2 := by
  refine ⟨(numberedRoutes RtnlRoute.nexthops n (cacheStatic env.routes)).filter fun p =>
    p.2.family = af ∧ p.2.dst = dst, ?_, ?_⟩
  · have hsnd : (numberedRoutes RtnlRoute.nexthops n (cacheStatic env.routes)).map Prod.snd =
        cacheStatic env.routes := map_snd_numbered _ n _
    rw [staticRoutesTo]
    conv_rhs => rw [← hsnd, List.filter_map]
    rfl
  · simp only [collectedOf, collectedStatic, List.filter_map, List.map_map, List.filter_filter]
    congr 1
    refine List.filter_congr fun p _ => ?_
    simp [Bool.and_comm]

theorem exists_shows {env : RoutingEnv} {s s' : RoutingState} {hashes : StaticHashes} {af : Nat}
    {e : RouteListHashElement}
    (hrun : (routingStartupCollectStaticRoutes env).run s = (.ok hashes, s'))
    (haf : af = AF_INET ∨ af = AF_INET6) (he : e ∈ hashes.of af) :
    ∃ route, Shows env af e route := by
  obtain ⟨n, -, hhashes⟩ := known_of_run hrun
  obtain ⟨hbucket, hne⟩ := bucket_of_toMultimap (toMultimap_of hhashes haf) he
  obtain ⟨ps, hroutes, hcollected⟩ := filter_collectedOf env n af e.pfx
  rw [hcollected] at hbucket
  have hlast : ps.getLast? ≠ none := by
    intro hnone
    rw [List.getLast?_eq_none_iff.mp hnone] at hbucket
    exact hne hbucket
  obtain ⟨⟨m, route⟩, hp⟩ := Option.ne_none_iff_exists'.mp hlast
  refine ⟨route, ?_, m, ?_⟩
  · rw [← hroutes, List.getLast?_map, hp]
    rfl
  · rw [hbucket, List.head?_reverse, List.getLast?_map, hp]
    rfl

/-! ## what a deletion asks for -/

/-- An exported entry is deleted, with its leaves. -/
def deletion (env : RoutingEnv) (dst : NlAddr) (leaves : List LeafChange)
    (h : ∀ l ∈ leaves, l.operation = Batch.delete.operation) : EntryChange :=
  EntryChange.ofWhole .delete (prefixText env dst) leaves h

/-- The exported text of a prefix is one that is read back. -/
def ReadsBack (env : RoutingEnv) (dst : NlAddr) : Prop :=
  env.nlAddrParse (prefixText env dst) = some dst

/-- Deleting the entry of a prefix sends one request, for a static route of the
main table with any priority. -/
theorem plan_deletion {env : RoutingEnv} {dst : NlAddr} (hreads : ReadsBack env dst)
    {leaves : List LeafChange} (h : ∀ l ∈ leaves, l.operation = Batch.delete.operation)
    (hparse : ∀ l ∈ leaves, l.leaf = .nextHopAddress → (env.nlAddrParse l.value).isSome) :
    staticRoutesPlan env (toStream [deletion env dst leaves h]) =
      [.routeDelete (rtnlRouteAlloc dst)] := by
  have haddresses : (deletion env dst leaves h).AddressesParse env := by
    refine ⟨fun _ => ?_, fun l hl _ => hparse l hl⟩
    rw [show (deletion env dst leaves h).destinationPrefix = prefixText env dst from rfl, hreads]
    rfl
  obtain ⟨b, hb⟩ : ∃ b, (deletion env dst leaves h).toChanges.foldlM (staticRoutesStep env) {} =
      .ok b := exists_entry_iff.mpr ⟨haddresses, fun _ => .inl nofun⟩
  have hkind : (deletion env dst leaves h).kind = .whole .delete := rfl
  obtain ⟨addr, haddr, hleaves⟩ := collect_whole hkind hb
  obtain rfl : dst = addr := Option.some.inj (hreads.symm.trans haddr)
  rw [leaves_eq (b := Batches.openRoute {} .delete dst) rfl] at hleaves
  obtain ⟨f, hf, hb'⟩ := Exit.bind_eq_ok.mp hleaves
  obtain ⟨g, hg, -⟩ := hasGateway_writeAll hf (⟨rfl, rfl⟩ : HasGateway none {})
  have hcollect : collectStaticRoutes env (toStream [deletion env dst leaves h]) = .ok b := by
    simpa [collectStaticRoutes, toStream] using hb
  have hdelete : b.deleteRoutes = [{ pfx := dst, routesHead := [f {}] }] := by
    rw [← Exit.ok.inj hb']
    simp [Batches.updateHead, Batches.openRoute, Batches.get, Batches.set, routeListHashPush,
      routeListHashGet, adjust, modifyHead]
  have hnew : b.newRoutes = [] := by
    rw [← Exit.ok.inj hb']
    rfl
  have hold : oldRoute dst (f {}) = rtnlRouteAlloc dst := by
    rw [oldRoute, hg.preference]
    rfl
  rw [staticRoutesPlan, hcollect]
  simp [batchPlan, hnew, hdelete, hold]

/-- What a family keeps apart beside the destination: IPv4 routes of another type
or TOS, IPv6 routes from another source. -/
structure RtnlRoute.SameKind (route pattern : RtnlRoute) : Prop where
  type : route.family = AF_INET → route.type = pattern.type
  tos : route.family = AF_INET → route.tos = pattern.tos
  src : route.family = AF_INET6 → route.src = pattern.src

/-- How the kernel selects the route that a request deletes: by table, protocol,
destination and kind, whatever the metric when the request has none. -/
structure Selects (matched : RtnlRoute → RtnlRoute → Prop) : Prop where
  table : ∀ route pattern, matched route pattern → route.table = pattern.table
  kind : ∀ route pattern, matched route pattern → route.SameKind pattern
  selected : ∀ route pattern, pattern.priority = 0 → route.table = pattern.table →
    route.protocol = pattern.protocol → route.dst = pattern.dst → route.SameKind pattern →
    matched route pattern

/-- A route in the reach of the change path: in the main table, for IPv4 a unicast
route without TOS, and for IPv6 one from any source. -/
structure RtnlRoute.Reachable (route : RtnlRoute) : Prop where
  table : route.table = RT_TABLE_MAIN
  type : route.family = AF_INET → route.type = RTN_UNICAST
  tos : route.family = AF_INET → route.tos = 0
  src : route.family = AF_INET6 → route.src = none

/-- The request selects a static route to the prefix when that is in reach. -/
theorem Selects.rtnlRouteAlloc_iff {matched : RtnlRoute → RtnlRoute → Prop}
    (hselects : Selects matched) {route : RtnlRoute} {dst : NlAddr}
    (hstatic : route.protocol = RTPROT_STATIC) (hdst : route.dst = dst) :
    matched route (rtnlRouteAlloc dst) ↔ route.Reachable :=
  ⟨fun h => ⟨hselects.table _ _ h, (hselects.kind _ _ h).type, (hselects.kind _ _ h).tos,
      (hselects.kind _ _ h).src⟩,
    fun h => hselects.selected _ _ rfl h.table hstatic hdst ⟨h.type, h.tos, h.src⟩⟩

/-! ## exports and deletions -/

/-- An exported entry comes from a static route in the table of the change
path, and whatever its leaves, deleting it asks for the route it shows. -/
structure Managed (matched : RtnlRoute → RtnlRoute → Prop) (env : RoutingEnv) (af : Nat)
    (e : RouteListHashElement) : Prop where
  comesFrom : ∃ route ∈ staticRoutesTo env.routes af e.pfx, route.table = RT_TABLE_MAIN
  deletion : ∃ route pattern, Shows env af e route ∧ matched route pattern ∧
    ∀ leaves (h : ∀ l ∈ leaves, l.operation = Batch.delete.operation),
      (∀ l ∈ leaves, l.leaf = .nextHopAddress → (env.nlAddrParse l.value).isSome) →
        staticRoutesPlan env (toStream [deletion env e.pfx leaves h]) = [.routeDelete pattern]

/-- The last static route to a prefix is in reach. -/
def LastReachable (env : RoutingEnv) (af : Nat) (dst : NlAddr) : Prop :=
  ∀ route, (staticRoutesTo env.routes af dst).getLast? = some route → route.Reachable

section Exports

variable {matched : RtnlRoute → RtnlRoute → Prop} {env : RoutingEnv} {s s' : RoutingState}
    {hashes : StaticHashes} {af : Nat}
  {e : RouteListHashElement}

theorem mem_staticRoutesTo {routes : List RtnlRoute} {dst : NlAddr} {route : RtnlRoute}
    (h : route ∈ staticRoutesTo routes af dst) :
    route.protocol = RTPROT_STATIC ∧ route.dst = dst := by
  simp only [staticRoutesTo, cacheStatic, List.mem_filter, decide_eq_true_eq] at h
  exact ⟨h.1.2, h.2.2⟩

/-- Every prefix with a static route has an entry. -/
theorem exists_entry_of_mem {dst : NlAddr} {route : RtnlRoute}
    (hrun : (routingStartupCollectStaticRoutes env).run s = (.ok hashes, s'))
    (haf : af = AF_INET ∨ af = AF_INET6) (h : route ∈ staticRoutesTo env.routes af dst) :
    ∃ e ∈ hashes.of af, e.pfx = dst := by
  obtain ⟨n, -, hhashes⟩ := known_of_run hrun
  obtain ⟨ps, hroutes, hcollected⟩ := filter_collectedOf env n af dst
  have hkeys : (hashes.of af).map RouteListHashElement.pfx =
      ((collectedOf env n af).map Prod.fst).eraseDups := by
    rw [← keys_toMultimap, toMultimap_of hhashes haf, Multimap.keys_ofList]
  have hmem : dst ∈ (hashes.of af).map RouteListHashElement.pfx := by
    rw [hkeys, mem_eraseDups]
    rw [← hroutes] at h
    obtain ⟨p, hp, -⟩ := List.mem_map.mp h
    have hroute := List.mem_map_of_mem (f := fun p => staticRoute env p.1 p.2) hp
    rw [← hcollected] at hroute
    obtain ⟨x, hx, -⟩ := List.mem_map.mp hroute
    obtain ⟨hcollectedx, hdst⟩ := List.mem_filter.mp hx
    exact List.mem_map.mpr ⟨x, hcollectedx, of_decide_eq_true hdst⟩
  exact List.mem_map.mp hmem

theorem managed_iff (hselects : Selects matched)
    (hrun : (routingStartupCollectStaticRoutes env).run s = (.ok hashes, s'))
    (haf : af = AF_INET ∨ af = AF_INET6) (he : e ∈ hashes.of af) (hreads : ReadsBack env e.pfx) :
    Managed matched env af e ↔ LastReachable env af e.pfx := by
  obtain ⟨route, hshows⟩ := exists_shows hrun haf he
  have hmem : route ∈ staticRoutesTo env.routes af e.pfx := List.mem_of_getLast? hshows.1
  obtain ⟨hstatic, hdst⟩ := mem_staticRoutesTo hmem
  have hmatched := hselects.rtnlRouteAlloc_iff hstatic hdst
  constructor
  · intro hmanaged route' hlast
    obtain ⟨shown, pattern, hshown, hpattern, hall⟩ := hmanaged.deletion
    have hnone := hall [] (by simp) (by simp)
    rw [plan_deletion hreads (by simp) (by simp)] at hnone
    have hrequest : rtnlRouteAlloc e.pfx = pattern := by simpa using hnone
    obtain rfl : route = route' := Option.some.inj (hshows.1.symm.trans hlast)
    obtain rfl : route = shown := Option.some.inj (hshows.1.symm.trans hshown.1)
    rw [← hrequest] at hpattern
    exact hmatched.mp hpattern
  · intro hlast
    have hreach := hlast route hshows.1
    exact ⟨⟨route, hmem, hreach.table⟩, route, _, hshows, hmatched.mpr hreach,
      fun _ h hparse => plan_deletion hreads h hparse⟩

/-- Startup exports what the change path can delete exactly when, to each prefix
that is exported, the last static route of the cache is in the main table and of
the kind the request has. -/
theorem exports_managed_iff (hselects : Selects matched)
    (hrun : (routingStartupCollectStaticRoutes env).run s = (.ok hashes, s')) :
    (∀ af, af = AF_INET ∨ af = AF_INET6 → ∀ e ∈ hashes.of af, ReadsBack env e.pfx →
      Managed matched env af e) ↔
      ∀ af, af = AF_INET ∨ af = AF_INET6 → ∀ dst, ReadsBack env dst →
        LastReachable env af dst := by
  constructor
  · intro h af haf dst hreads route hlast
    have hmem : route ∈ staticRoutesTo env.routes af dst := List.mem_of_getLast? hlast
    obtain ⟨e, he, rfl⟩ := exists_entry_of_mem hrun haf hmem
    exact (managed_iff hselects hrun haf he hreads).mp (h af haf e he hreads) route hlast
  · intro h af haf e he hreads
    exact (managed_iff hselects hrun haf he hreads).mpr (h af haf e.pfx hreads)

end Exports

/-! ## a route of another table -/

/-- A static route to 10.0.0.0/8. -/
def tableRoute (table : Nat) : RtnlRoute where
  table := table
  family := AF_INET
  protocol := RTPROT_STATIC
  type := RTN_UNICAST
  scope := 0
  dst := addr4 0x0a000000 8
  priority := 0
  nexthops := [{ ifindex := some 2, gateway := some (addr4 0xc0000201 32) }]

def tableEnv (table : Nat) : RoutingEnv := { sampleEnv with routes := [tableRoute table] }

theorem run_tableEnv (table : Nat) :
    ∃ hashes s, (routingStartupCollectStaticRoutes (tableEnv table)).run {} = (.ok hashes, s) ∧
      (hashes.of AF_INET).map RouteListHashElement.pfx = [addr4 0x0a000000 8] :=
  ⟨_, _, rfl, rfl⟩

/-- A selection as close as `Selects` allows. -/
def selectsSame (route pattern : RtnlRoute) : Prop :=
  route.table = pattern.table ∧ route.protocol = pattern.protocol ∧ route.dst = pattern.dst ∧
    route.SameKind pattern

theorem selects_selectsSame : Selects selectsSame where
  table _ _ h := h.1
  kind _ _ h := h.2.2.2
  selected _ _ _ htable hprotocol hdst hkind := ⟨htable, hprotocol, hdst, hkind⟩

/-- Two static routes to 10.0.0.0/8, the last one in the main table. -/
def twoTablesEnv : RoutingEnv :=
  { sampleEnv with routes := [tableRoute 100, tableRoute RT_TABLE_MAIN] }

theorem exports_managed_twoTablesEnv :
    ∃ hashes s, (routingStartupCollectStaticRoutes twoTablesEnv).run {} = (.ok hashes, s) ∧
      (hashes.of AF_INET).map RouteListHashElement.pfx = [addr4 0x0a000000 8] ∧
      ((∀ af, af = AF_INET ∨ af = AF_INET6 → ∀ e ∈ hashes.of af, ReadsBack twoTablesEnv e.pfx →
          Managed selectsSame twoTablesEnv af e) ↔
        ∀ af, af = AF_INET ∨ af = AF_INET6 → ∀ dst, ReadsBack twoTablesEnv dst →
          LastReachable twoTablesEnv af dst) := by
  obtain ⟨hashes, s, hrun, hpfx⟩ :
      ∃ hashes s, (routingStartupCollectStaticRoutes twoTablesEnv).run {} = (.ok hashes, s) ∧
        (hashes.of AF_INET).map RouteListHashElement.pfx = [addr4 0x0a000000 8] :=
    ⟨_, _, rfl, rfl⟩
  exact ⟨hashes, s, hrun, hpfx, exports_managed_iff selects_selectsSame hrun⟩

/-- A static route of table 100 is exported, and deleting it asks for a route of
the main table. -/
theorem table100_not_managed :
    ∃ hashes s e, (routingStartupCollectStaticRoutes (tableEnv 100)).run {} = (.ok hashes, s) ∧
      e ∈ hashes.of AF_INET ∧ ReadsBack (tableEnv 100) e.pfx ∧
        ¬ Managed selectsSame (tableEnv 100) AF_INET e := by
  obtain ⟨hashes, s, hrun, hpfx⟩ := run_tableEnv 100
  have hmem : addr4 0x0a000000 8 ∈ (hashes.of AF_INET).map RouteListHashElement.pfx := by
    rw [hpfx]
    exact List.mem_singleton_self _
  obtain ⟨e, he, hdst⟩ := List.mem_map.mp hmem
  have hreads : ReadsBack (tableEnv 100) e.pfx := by
    rw [hdst]
    unfold ReadsBack
    decide
  refine ⟨hashes, s, e, hrun, he, hreads, ?_⟩
  rw [managed_iff selects_selectsSame hrun (.inl rfl) he hreads, hdst]
  intro hreach
  exact absurd (hreach (tableRoute 100) rfl).table (by decide)

end SysrepoInterfaces.Routing
