import SysrepoInterfaces.Routing.OperStatus

/-!
# SysrepoInterfaces.Routing.StartupStatus

What `routing_startup_load_data` returns, for every cache and every outcome of
its calls.  Of the static routes to one destination the last one of the cache
is exported, since a new route goes to the head of its bucket.
-/

namespace SysrepoInterfaces.Routing

open CProg Counted Keyed

variable {env : RoutingEnv}

/-! ## the RIBs -/

/-- The description of a RIB with this name and family. -/
def ribDescription (env : RoutingEnv) (key : RibName × Nat) : String :=
  (ribBuildDescription env { name := key.1, addressFamily := key.2 }).description

/-- The calls for one RIB: its node, its family and its description. -/
def startupRibCalls (description : String) : Nat := 2 + if description ≠ "" then 1 else 0

theorem exact_startupRib (ribsNode : LydNode) (rib : Rib) :
    exportLedger.Exact env.lib (startupRib env ribsNode rib) (startupRibCalls rib.description)
      fun _ => True := by
  have hdescription : ∀ ribNode, exportLedger.Exact env.lib
      (startupRibDescription env ribNode rib.description)
      (if rib.description ≠ "" then 1 else 0) fun _ => True := by
    intro ribNode
    rw [startupRibDescription]
    split
    · exact (exact_lydNewPath _ _ _).bind fun _ _ => Ledger.exact_pure trivial
    · exact Ledger.exact_pure trivial
  show exportLedger.Exact env.lib (startupRib env ribsNode rib)
    (1 + 1 + if rib.description ≠ "" then 1 else 0) fun _ => True
  rw [Nat.add_assoc]
  refine (exact_lydNewPath _ _ _).bind fun ribNode _ => ?_
  exact (exact_lydNewPath _ _ _).bind fun _ _ => hdescription ribNode

theorem description_ribBuildDescription {rib rib' : Rib} (hname : rib.name = rib'.name)
    (hfamily : rib.addressFamily = rib'.addressFamily)
    (hdescription : rib.description = rib'.description) :
    (ribBuildDescription env rib).description = (ribBuildDescription env rib').description := by
  simp only [ribBuildDescription, hname, hfamily]
  generalize defaultDescriptions.find? _ = found
  cases found with
  | none => exact hdescription
  | some pair => rfl

theorem description_routingCollectRibs (env : RoutingEnv) (routesCache : List RtnlRoute) :
    ∀ rib ∈ (routingCollectRibs env routesCache []).2,
      rib.description = ribDescription env rib.key := by
  have hfold : ∀ rib ∈ routesCache.foldl (collectRib env) [], rib.description = "" :=
    forall_mem_foldl_collectRib (fun _ _ => rfl) (fun _ h => h) routesCache
  intro rib hrib
  obtain ⟨rib, hmem, rfl⟩ := List.mem_map.mp hrib
  have hdescription := hfold rib hmem
  rw [key_ribBuildDescription]
  exact description_ribBuildDescription rfl rfl hdescription

/-- The calls of `routing_startup_load_ribs`. -/
def startupRibsCalls (env : RoutingEnv) : Nat :=
  7 + ((cacheRibs env).map fun key => startupRibCalls (ribDescription env key)).sum

/-- The body of `routing_startup_load_ribs`. -/
theorem exact_startupRibs (node : LydNode) :
    exportLedger.Exact env.lib (do
      checked env .srAcquireContext
      checked env .nlSocketAlloc
      checked env .nlConnect
      checked env .rtnlRouteAllocCache
      checked env .rtnlRouteReadTableNames
      checked env .rtnlRouteReadProtocolNames
      let (error, ribsHead) := routingCollectRibs env env.routes []
      if error ≠ 0 then Prog.fail
      else do
        let ribsNode ← lydNewPath env node ribsContainerYangPath none
        forM ribsHead (startupRib env ribsNode)) (startupRibsCalls env) fun _ => True := by
  obtain ⟨ribs, hcollect, hkeys, -⟩ := routingCollectRibs_nil env env.routes
  have hdescription := description_routingCollectRibs env env.routes
  rw [hcollect] at hdescription
  have hribs : (ribs.map fun rib => startupRibCalls rib.description) =
      (cacheRibs env).map fun key => startupRibCalls (ribDescription env key) := by
    rw [cacheRibs, ← hkeys, List.map_map]
    refine List.map_congr_left fun rib hrib => ?_
    rw [hdescription rib hrib]
    rfl
  have hcount : startupRibsCalls env = 1 + (1 + (1 + (1 + (1 + (1 + (1 +
      (ribs.map fun rib => startupRibCalls rib.description).sum)))))) := by
    rw [startupRibsCalls, hribs]
    omega
  rw [hcount, hcollect]
  refine (exact_checked _).bind fun _ _ => (exact_checked _).bind fun _ _ => ?_
  refine (exact_checked _).bind fun _ _ => (exact_checked _).bind fun _ _ => ?_
  refine (exact_checked _).bind fun _ _ => (exact_checked _).bind fun _ _ => ?_
  refine (exact_lydNewPath _ _ _).bind fun ribsNode _ => ?_
  exact Ledger.exact_forM fun rib _ => exact_startupRib ribsNode rib

/-! ## the static routes -/

/-- The static routes of the kernel. -/
def cacheStatic (routes : List RtnlRoute) : List RtnlRoute :=
  routes.filter fun route => route.protocol = RTPROT_STATIC

/-- The route a static kernel route is collected as when its first run of
`foreach_nexthop` is the n-th. -/
def staticRoute (env : RoutingEnv) (n : Nat) (route : RtnlRoute) : Route where
  preference := route.priority
  metadata := { sourceProtocol := some "ietf-routing:static" }
  nextHop := collectedNexthops env env.links n {} route.nexthops

/-- File a route under its family. -/
def StaticHashes.push (hashes : StaticHashes) (x : RtnlRoute × Route) : StaticHashes :=
  if x.1.family = AF_INET then { hashes with ipv4 := routeListHashPush hashes.ipv4 x.1.dst x.2 }
  else if x.1.family = AF_INET6 then
    { hashes with ipv6 := routeListHashPush hashes.ipv6 x.1.dst x.2 }
  else hashes

/-- The static routes, each with what it is collected as. -/
def collectedStatic (env : RoutingEnv) (n : Nat) (routes : List RtnlRoute) :
    List (RtnlRoute × Route) :=
  (numberedRoutes RtnlRoute.nexthops n (cacheStatic routes)).map fun p =>
    (p.2, staticRoute env p.1 p.2)

theorem add_eq_push {hashes : StaticHashes} {route : RtnlRoute} {tmpRoute new : Route}
    (hclone : routeClone tmpRoute = .ok new) :
    hashes.add route.family route.dst tmpRoute = .ok (hashes.push (route, new)) := by
  rw [StaticHashes.add, StaticHashes.push]
  split
  · simp [routeListHashAdd_eq, hclone]
  · split
    · simp [routeListHashAdd_eq, hclone]
    · rfl

/-- One round of the collecting loop on a static route. -/
theorem collects_startupCollectRoute (env : RoutingEnv) {route : RtnlRoute}
    (hstatic : route.protocol = RTPROT_STATIC) (acc : StaticHashes × Route) (s : RoutingState) :
    Collects (startupCollectRoute env env.links acc route) s
      (NexthopsKnown env env.links s.freshRuns route.nexthops) (nexthopRuns route.nexthops)
      (NexthopsFail env s.freshRuns route.nexthops)
      fun acc' => acc'.1 = acc.1.push (route, staticRoute env s.freshRuns route) := by
  rw [startupCollectRoute, if_pos hstatic]
  have hkind : (routeSetPreference (routeInit acc.2) route.priority).nextHop.kind = .none := rfl
  have hnext : Collects (collectNexthops env env.links
      (routeSetPreference (routeInit acc.2) route.priority).nextHop route.nexthops) s
      (NexthopsKnown env env.links s.freshRuns route.nexthops) (nexthopRuns route.nexthops)
      (NexthopsFail env s.freshRuns route.nexthops) fun nextHop =>
        routeNextHopClone nextHop = .ok (staticRoute env s.freshRuns route).nextHop :=
    (collects_collectNexthops hkind route.nexthops s).imp Iff.rfl rfl Iff.rfl
      fun hknown nextHop h => h ▸ routeNextHopClone_collectedNexthops hkind hknown
  have hfile : ∀ nextHop s₁, routeNextHopClone nextHop =
      .ok (staticRoute env s.freshRuns route).nextHop →
      s₁.freshRuns = s.freshRuns + nexthopRuns route.nexthops →
      Collects (do
        let tmpRoute := routeSetSourceProtocol
          { routeSetPreference (routeInit acc.2) route.priority with nextHop := nextHop }
          (some "ietf-routing:static")
        let hashes ← Prog.lift (acc.1.add route.family route.dst tmpRoute)
        return (hashes, routeFree tmpRoute)) s₁ True 0 False
        fun acc' => acc'.1 = acc.1.push (route, staticRoute env s.freshRuns route) := by
    intro nextHop s₁ hnextHop _
    have hclone : routeClone (routeSetSourceProtocol
        { routeSetPreference (routeInit acc.2) route.priority with nextHop := nextHop }
        (some "ietf-routing:static")) = .ok (staticRoute env s.freshRuns route) := by
      simp only [routeClone, routeSetSourceProtocol, hnextHop, Exit.ok_bind, Exit.pure_eq]
      rfl
    simp only [add_eq_push hclone]
    exact collects_pure rfl
  exact (hnext.bind hfile).imp (by simp) rfl (by simp) fun _ _ h => h

/-- The collecting loop. -/
theorem collects_startupCollectRoutes (env : RoutingEnv) (routes : List RtnlRoute)
    (acc : StaticHashes × Route) (s : RoutingState) :
    Collects (routes.foldlM (startupCollectRoute env env.links) acc) s
      (RoutesKnown env env.links RtnlRoute.nexthops s.freshRuns (cacheStatic routes))
      ((cacheStatic routes).map fun route => nexthopRuns route.nexthops).sum
      (RoutesFail env RtnlRoute.nexthops s.freshRuns (cacheStatic routes))
      fun acc' => acc'.1 = (collectedStatic env s.freshRuns routes).foldl StaticHashes.push
        acc.1 := by
  induction routes generalizing acc s with
  | nil =>
      have hend : Collects (pure acc) s True 0 False fun acc' => acc'.1 = acc.1 := collects_pure rfl
      refine hend.imp ?_ rfl ?_ fun _ _ h => h
      · simp [RoutesKnown, cacheStatic, numberedRoutes, numbered]
      · simp [RoutesFail, cacheStatic, numberedRoutes, numbered]
  | cons route routes ih =>
      rw [List.foldlM_cons]
      by_cases hstatic : route.protocol = RTPROT_STATIC
      · have hcons : cacheStatic (route :: routes) = route :: cacheStatic routes := by
          simp [cacheStatic, hstatic]
        have hrest : ∀ (acc' : StaticHashes × Route) s₁,
            acc'.1 = acc.1.push (route, staticRoute env s.freshRuns route) →
            s₁.freshRuns = s.freshRuns + nexthopRuns route.nexthops →
            Collects (routes.foldlM (startupCollectRoute env env.links) acc') s₁
              (RoutesKnown env env.links RtnlRoute.nexthops
                (s.freshRuns + nexthopRuns route.nexthops) (cacheStatic routes))
              ((cacheStatic routes).map fun route => nexthopRuns route.nexthops).sum
              (RoutesFail env RtnlRoute.nexthops (s.freshRuns + nexthopRuns route.nexthops)
                (cacheStatic routes))
              fun acc'' => acc''.1 = (collectedStatic env s.freshRuns (route :: routes)).foldl
                StaticHashes.push acc.1 := by
          intro acc' s₁ hacc hfresh
          have hloop := ih acc' s₁
          rw [hfresh, hacc] at hloop
          rw [collectedStatic, hcons]
          exact hloop
        rw [hcons]
        refine ((collects_startupCollectRoute env hstatic acc s).bind hrest).imp ?_ ?_ ?_
          fun _ _ h => h
        · exact routesKnown_cons ..
        · simp
        · exact routesFail_cons ..
      · have hcons : cacheStatic (route :: routes) = cacheStatic routes := by
          simp [cacheStatic, hstatic]
        have hskip : startupCollectRoute env env.links acc route = pure acc := by
          rw [startupCollectRoute, if_neg hstatic]
        rw [collectedStatic, hcons, hskip, pure_bind]
        exact ih acc s

/-- The static routes of a family, numbered, in the order of the cache. -/
def numberedStatic (env : RoutingEnv) (af : Nat) : List (Nat × RtnlRoute) :=
  (numberedRoutes RtnlRoute.nexthops 0 (cacheStatic env.routes)).filter fun p => p.2.family = af

/-- The static routes of a family that are exported: to each destination the
last one of the cache. -/
def exportedStatic (env : RoutingEnv) (af : Nat) : List (Nat × RtnlRoute) :=
  ((numberedStatic env af).map fun p => p.2.dst).eraseDups.filterMap fun dst =>
    ((numberedStatic env af).filter fun p => p.2.dst = dst).getLast?

/-- The hash of a family after the loop. -/
theorem toMultimap_foldl_push (xs : List (RtnlRoute × Route)) :
    toMultimap (xs.foldl StaticHashes.push {}).ipv4 = Multimap.ofList
        ((xs.filter fun x => x.1.family = AF_INET).map fun x => (x.1.dst, x.2)) ∧
      toMultimap (xs.foldl StaticHashes.push {}).ipv6 = Multimap.ofList
        ((xs.filter fun x => x.1.family = AF_INET6).map fun x => (x.1.dst, x.2)) := by
  induction xs using List.reverseRecOn with
  | nil => exact ⟨rfl, rfl⟩
  | append_singleton xs x ih =>
      have hne : AF_INET ≠ AF_INET6 := by decide
      rw [List.foldl_append, List.foldl_cons, List.foldl_nil, StaticHashes.push, List.filter_append,
        List.filter_append, List.map_append, List.map_append]
      by_cases h4 : x.1.family = AF_INET
      · simp [h4, hne, toMultimap_push, ih, Multimap.ofList_concat]
      · by_cases h6 : x.1.family = AF_INET6
        · simp [h6, hne.symm, toMultimap_push, ih, Multimap.ofList_concat]
        · simp [h4, h6, ih]

/-- The routes at the heads of the buckets: the newest to each destination. -/
theorem filterMap_head_of_toMultimap {xs : List (NlAddr × Route)} {hash : List RouteListHashElement}
    (h : toMultimap hash = Multimap.ofList xs) :
    hash.filterMap (fun e => e.routesHead.head?) =
      (xs.map Prod.fst).eraseDups.filterMap fun dst =>
        ((xs.filter fun x => x.1 = dst).map Prod.snd).getLast? := by
  have hhead : ∀ e ∈ hash, e.routesHead.head? =
      ((xs.filter fun x => x.1 = e.pfx).map Prod.snd).getLast? := by
    intro e he
    rw [(bucket_of_toMultimap h he).1, List.head?_reverse]
  have hkeys : hash.map RouteListHashElement.pfx = (xs.map Prod.fst).eraseDups := by
    rw [← Multimap.keys_ofList, ← h, keys_toMultimap]
  rw [← hkeys, List.filterMap_map]
  exact List.filterMap_congr hhead

theorem filterMap_head_collectedStatic {af : Nat} {hash : List RouteListHashElement}
    (h : toMultimap hash = Multimap.ofList
      (((collectedStatic env 0 env.routes).filter fun x => x.1.family = af).map fun x =>
        (x.1.dst, x.2))) :
    hash.filterMap (fun e => e.routesHead.head?) =
      (exportedStatic env af).map fun p => staticRoute env p.1 p.2 := by
  have hxs : ((collectedStatic env 0 env.routes).filter fun x => x.1.family = af).map
      (fun x => (x.1.dst, x.2)) =
      (numberedStatic env af).map fun p => (p.2.dst, staticRoute env p.1 p.2) := by
    rw [collectedStatic, numberedStatic, List.filter_map, List.map_map]
    rfl
  rw [filterMap_head_of_toMultimap h, hxs, exportedStatic, List.map_filterMap, List.map_map]
  refine List.filterMap_congr fun dst _ => ?_
  rw [List.filter_map, List.map_map, List.getLast?_map]
  rfl

/-! ## exporting the static routes -/

theorem exact_startupLeaf (node : LydNode) (module name : String) (value : Option String) :
    exportLedger.Exact env.lib (startupLeaf env node module name value)
      (if value.isSome then 1 else 0) fun _ => True := by
  unfold startupLeaf
  cases value with
  | none => exact Ledger.exact_pure trivial
  | some value => exact exact_checked _

/-- The two leaves of a next hop with a name. -/
theorem exact_startupLeaves (node : LydNode) (module : String) {simple : RouteNextHopSimple}
    (hname : simple.ifName.isSome) {error : Int} {Q : Int → Prop} (hQ : Q error) :
    exportLedger.Exact env.lib (do
      startupLeaf env node module "next-hop-address" (simple.addr.map env.nlAddr2str)
      startupLeaf env node module "outgoing-interface" simple.ifName
      return error) (1 + gatewayCalls 1 simple.addr) Q := by
  have hcount : 1 + gatewayCalls 1 simple.addr =
      (if (simple.addr.map env.nlAddr2str).isSome then 1 else 0) +
        ((if simple.ifName.isSome then 1 else 0) + 0) := by
    rw [gatewayCalls, if_pos hname, Option.isSome_map]
    omega
  rw [hcount]
  refine (exact_startupLeaf _ _ _ _).bind fun _ _ => ?_
  exact (exact_startupLeaf _ _ _ _).bind fun _ _ => Ledger.exact_pure hQ

theorem exact_startupListNextHop (family : StartupFamily) (nhNode : LydNode)
    {simple : RouteNextHopSimple} (hname : simple.ifName.isSome) :
    exportLedger.Exact env.lib (startupListNextHop env family nhNode simple)
      (2 + gatewayCalls 1 simple.addr) fun error => error ≠ 0 := by
  have hlength := length_path_ne_zero family.nextHopPath simple.ifindex
  have hcount : 2 + gatewayCalls 1 simple.addr = 1 + (1 + gatewayCalls 1 simple.addr) := by omega
  rw [startupListNextHop, if_neg (by omega), hcount]
  refine (exact_lydNewAny _ _ _).bind fun nhListNode _ => ?_
  exact exact_startupLeaves nhListNode family.module hname hlength

/-- The switch over the kind of next hop: a list leaves `error` positive. -/
theorem exact_startupNextHop (family : StartupFamily) (nhNode : LydNode) {nextHop : RouteNextHop}
    (h : Exportable env nextHop) (error : Int) :
    exportLedger.Exact env.lib (startupNextHop env family nhNode nextHop error)
      (exportedCalls 1 nextHop) fun error' => error' ≠ 0 ↔ error ≠ 0 ∨ nextHop.kind = .list := by
  rw [startupNextHop, exportedCalls]
  cases hkind : nextHop.kind with
  | none => exact Ledger.exact_pure (by simp)
  | special => exact Ledger.exact_pure (by simp)
  | simple =>
      exact exact_startupLeaves nhNode family.module (h.simple hkind).2 (by simp)
  | list =>
      have hround : ∀ simple ∈ nextHop.listHead,
          exportLedger.Exact env.lib (startupListNextHop env family nhNode simple)
            (2 + gatewayCalls 1 simple.addr) fun error' => error' ≠ 0 :=
        fun simple hsimple =>
          exact_startupListNextHop family nhNode (h.list hkind simple hsimple).2
      have hloop := Ledger.exact_foldlM_last hround (h.listNonempty hkind) error
      exact hloop.imp rfl fun _ hne => by simp [hne]

/-- What the loop over a hash relies on: no empty bucket, and in the route that
heads one a next hop to export and no description. -/
def HeadsExportable (env : RoutingEnv) (hash : List RouteListHashElement) : Prop :=
  ∀ e ∈ hash, ∃ route, e.routesHead.head? = some route ∧ Exportable env route.nextHop ∧
    route.metadata.description = none

/-- The calls for a bucket. -/
def startupBucketCalls (e : RouteListHashElement) : Nat :=
  (e.routesHead.head?).elim 0 fun route => 2 + exportedCalls 1 route.nextHop

/-- The route at the head of a bucket has a list of next hops. -/
def HeadIsList (e : RouteListHashElement) : Prop :=
  ∃ route, e.routesHead.head? = some route ∧ route.nextHop.kind = .list

theorem exact_startupBucket (family : StartupFamily) (container : LydNode)
    {e : RouteListHashElement} {route : Route} (hhead : e.routesHead.head? = some route)
    (h : Exportable env route.nextHop) (hdescription : route.metadata.description = none)
    (error : Int) :
    exportLedger.Exact env.lib (startupBucket env family container error e)
      (startupBucketCalls e) fun error' => error' ≠ 0 ↔ error ≠ 0 ∨ HeadIsList e := by
  have hlist : HeadIsList e ↔ route.nextHop.kind = .list := by simp [HeadIsList, hhead]
  have hcount : startupBucketCalls e = 1 + (0 + (1 + exportedCalls 1 route.nextHop)) := by
    rw [startupBucketCalls, hhead, Option.elim_some]
    omega
  obtain ⟨routes, hroutes⟩ := List.head?_eq_some_iff.mp hhead
  rw [hcount, hlist, startupBucket, hroutes]
  refine (exact_lydNewPath _ _ _).bind fun routeNode _ => ?_
  have hleaf := @exact_startupLeaf env routeNode family.module "description"
    route.metadata.description
  rw [hdescription] at hleaf ⊢
  refine hleaf.bind fun _ _ => ?_
  refine (exact_lydNewInner _ _ _).bind fun nhNode _ => ?_
  exact exact_startupNextHop family nhNode h error

/-- The loop over a family's hash. -/
theorem exact_startupBuckets (family : StartupFamily) (container : LydNode)
    {hash : List RouteListHashElement} (h : HeadsExportable env hash) (error : Int) :
    exportLedger.Exact env.lib (hash.foldlM (startupBucket env family container) error)
      (hash.map startupBucketCalls).sum
      fun error' => error' ≠ 0 ↔ error ≠ 0 ∨ ∃ e ∈ hash, HeadIsList e := by
  have hround : ∀ (done : List RouteListHashElement) (error' : Int), ∀ e ∈ hash,
      SetBy HeadIsList error done error' →
      exportLedger.Exact env.lib (startupBucket env family container error' e)
        (startupBucketCalls e) fun error'' => SetBy HeadIsList error (done ++ [e]) error'' := by
    intro done error' e he herror
    obtain ⟨route, hhead, hexportable, hdescription⟩ := h e he
    exact (exact_startupBucket family container hhead hexportable hdescription error').imp rfl
      fun _ => herror.concat
  exact Ledger.exact_foldlM hround (setBy_nil _ _)

/-! ## the protocols -/

/-- What the export of the static routes comes to. -/
structure StaticExport (env : RoutingEnv) (hashes : StaticHashes) : Prop where
  ipv4 : HeadsExportable env hashes.ipv4
  ipv6 : HeadsExportable env hashes.ipv6

/-- The calls below a static protocol. -/
def staticHashesCalls (hashes : StaticHashes) : Nat :=
  3 + (hashes.ipv4.map startupBucketCalls).sum + (hashes.ipv6.map startupBucketCalls).sum

/-- Some bucket is headed by a route with a list of next hops. -/
def StaticHashes.HasList (hashes : StaticHashes) : Prop :=
  (∃ e ∈ hashes.ipv4, HeadIsList e) ∨ ∃ e ∈ hashes.ipv6, HeadIsList e

theorem exact_startupStaticRoutes {hashes : StaticHashes} (h : StaticExport env hashes)
    (node : LydNode) (error : Int) :
    exportLedger.Exact env.lib (startupStaticRoutes env hashes node error)
      (staticHashesCalls hashes) fun error' => error' ≠ 0 ↔ error ≠ 0 ∨ hashes.HasList := by
  have hcount : staticHashesCalls hashes = 1 + (1 + (1 + ((hashes.ipv4.map startupBucketCalls).sum +
      (hashes.ipv6.map startupBucketCalls).sum))) := by
    rw [staticHashesCalls]
    omega
  rw [hcount]
  refine (exact_lydNewPath _ _ _).bind fun staticRoutesNode _ => ?_
  refine (exact_lydNewInner _ _ _).bind fun ipv4Node _ => ?_
  refine (exact_lydNewInner _ _ _).bind fun ipv6Node _ => ?_
  refine (exact_startupBuckets startupIpv4 ipv4Node h.ipv4 error).bind fun error₄ herror₄ => ?_
  refine (exact_startupBuckets startupIpv6 ipv6Node h.ipv6 error₄).imp rfl fun error₆ herror₆ => ?_
  rw [herror₆, herror₄, StaticHashes.HasList, or_assoc]

/-- Whether the static routes go below a protocol. -/
def isStaticProtocol (proto : ControlPlaneProtocol) : Bool := strPrefix "static" proto.name

theorem exact_startupProtocol {hashes : StaticHashes} (h : StaticExport env hashes)
    (container : LydNode) (error : Int) (proto : ControlPlaneProtocol) :
    exportLedger.Exact env.lib (startupProtocol env hashes container error proto)
      (2 + if isStaticProtocol proto then staticHashesCalls hashes else 0)
      fun error' => error' ≠ 0 ↔
        error ≠ 0 ∨ isStaticProtocol proto = true ∧ hashes.HasList := by
  rw [Nat.add_assoc 1 1]
  refine (exact_lydNewPath _ _ _).bind fun cppListNode _ => ?_
  refine (exact_lydNewPath _ _ _).bind fun _ _ => ?_
  rw [isStaticProtocol]
  split
  · next hstatic =>
      exact (exact_startupStaticRoutes h cppListNode error).imp rfl fun _ herror => by
        simpa [hstatic] using herror
  · next hstatic => exact Ledger.exact_pure (by simp [hstatic])

/-! ## counted over the cache -/

/-- The protocols that get a node. -/
def startupProtocols (env : RoutingEnv) : List ControlPlaneProtocol := (routingBuildProtosMap env).2

/-- The calls for the static routes of a family. -/
def startupFamilyCalls (env : RoutingEnv) (af : Nat) : Nat :=
  ((exportedStatic env af).map fun p => 2 + nexthopCalls env 1 p.1 p.2.nexthops).sum

/-- The calls of `routing_startup_load_control_plane_protocols`. -/
def startupProtocolsCalls (env : RoutingEnv) : Nat :=
  8 + ((startupProtocols env).map fun proto =>
    2 + if isStaticProtocol proto then
      3 + startupFamilyCalls env AF_INET + startupFamilyCalls env AF_INET6 else 0).sum

/-- Some static route is exported with a list of next hops, below a static
protocol. -/
def StartupList (env : RoutingEnv) : Prop :=
  (∃ proto ∈ startupProtocols env, isStaticProtocol proto = true) ∧
    ∃ af, (af = AF_INET ∨ af = AF_INET6) ∧
      ∃ p ∈ exportedStatic env af, HasList env p.1 p.2.nexthops

theorem sum_map_elim {α β : Type} (g : α → Option β) (f : β → Nat) (xs : List α) :
    (xs.map fun x => (g x).elim 0 f).sum = ((xs.filterMap g).map f).sum := by
  induction xs with
  | nil => rfl
  | cons x xs ih => cases h : g x <;> simp [h, ih]

theorem mem_numberedRoutes_of_exportedStatic {af : Nat} {p : Nat × RtnlRoute}
    (h : p ∈ exportedStatic env af) :
    p ∈ numberedRoutes RtnlRoute.nexthops 0 (cacheStatic env.routes) := by
  obtain ⟨dst, -, hlast⟩ := List.mem_filterMap.mp h
  have hmem := List.mem_of_getLast? hlast
  exact (List.mem_filter.mp (List.mem_filter.mp hmem).1).1

section Family

variable {af : Nat} {hash : List RouteListHashElement}
  (h : toMultimap hash = Multimap.ofList
    (((collectedStatic env 0 env.routes).filter fun x => x.1.family = af).map fun x =>
      (x.1.dst, x.2)))
include h

theorem headsExportable_of_toMultimap
    (hknown : RoutesKnown env env.links RtnlRoute.nexthops 0 (cacheStatic env.routes)) :
    HeadsExportable env hash := by
  intro e he
  have hne := (bucket_of_toMultimap h he).2
  cases hhead : e.routesHead.head? with
  | none => exact absurd (List.head?_eq_none_iff.mp hhead) hne
  | some route =>
      have hmem : route ∈ hash.filterMap fun e => e.routesHead.head? :=
        List.mem_filterMap.mpr ⟨e, he, hhead⟩
      rw [filterMap_head_collectedStatic h] at hmem
      obtain ⟨p, hp, rfl⟩ := List.mem_map.mp hmem
      have hlinks := hknown p (mem_numberedRoutes_of_exportedStatic hp)
      exact ⟨_, rfl, exportable_collectedNexthops hlinks, rfl⟩

theorem startupFamilyCalls_of_toMultimap :
    (hash.map startupBucketCalls).sum = startupFamilyCalls env af := by
  unfold startupBucketCalls
  rw [sum_map_elim, filterMap_head_collectedStatic h, List.map_map, startupFamilyCalls]
  refine congrArg List.sum (List.map_congr_left fun p _ => ?_)
  exact congrArg (2 + ·) (exportedCalls_collectedNexthops 1 p.1 p.2.nexthops)

theorem headIsList_of_toMultimap : (∃ e ∈ hash, HeadIsList e) ↔
    ∃ p ∈ exportedStatic env af, HasList env p.1 p.2.nexthops := by
  have hheads : (∃ e ∈ hash, HeadIsList e) ↔
      ∃ route ∈ hash.filterMap fun e => e.routesHead.head?, route.nextHop.kind = .list := by
    simp only [HeadIsList, List.mem_filterMap]
    constructor
    · intro ⟨e, he, route, hhead, hkind⟩
      exact ⟨route, ⟨e, he, hhead⟩, hkind⟩
    · intro ⟨route, ⟨e, he, hhead⟩, hkind⟩
      exact ⟨e, he, route, hhead, hkind⟩
  rw [hheads, filterMap_head_collectedStatic h]
  simp only [List.mem_map, exists_exists_and_eq_and]
  refine exists_congr fun p => and_congr_right fun _ => ?_
  exact kind_collectedNexthops p.1 p.2.nexthops

end Family

/-! ## everything -/

/-- The protocols and the static routes below them. -/
theorem exact_startupProtocols {hashes : StaticHashes}
    (h : hashes = (collectedStatic env 0 env.routes).foldl StaticHashes.push {})
    (hknown : RoutesKnown env env.links RtnlRoute.nexthops 0 (cacheStatic env.routes))
    (container : LydNode) :
    exportLedger.Exact env.lib
      ((startupProtocols env).foldlM (startupProtocol env hashes container) 0)
      ((startupProtocols env).map fun proto => 2 + if isStaticProtocol proto then
        3 + startupFamilyCalls env AF_INET + startupFamilyCalls env AF_INET6 else 0).sum
      fun error => error ≠ 0 ↔ StartupList env := by
  obtain ⟨h4, h6⟩ := toMultimap_foldl_push (collectedStatic env 0 env.routes)
  rw [← h] at h4 h6
  have hexport : StaticExport env hashes :=
    ⟨headsExportable_of_toMultimap h4 hknown, headsExportable_of_toMultimap h6 hknown⟩
  have hcalls : staticHashesCalls hashes =
      3 + startupFamilyCalls env AF_INET + startupFamilyCalls env AF_INET6 := by
    rw [staticHashesCalls, startupFamilyCalls_of_toMultimap h4, startupFamilyCalls_of_toMultimap h6]
  have hlist : hashes.HasList ↔ ∃ af, (af = AF_INET ∨ af = AF_INET6) ∧
      ∃ p ∈ exportedStatic env af, HasList env p.1 p.2.nexthops := by
    rw [StaticHashes.HasList, headIsList_of_toMultimap h4, headIsList_of_toMultimap h6]
    simp only [or_and_right, exists_or, exists_eq_left]
  have hround : ∀ (done : List ControlPlaneProtocol) (error : Int), ∀ proto ∈ startupProtocols env,
      SetBy (fun proto => isStaticProtocol proto = true ∧ hashes.HasList) 0 done error →
      exportLedger.Exact env.lib (startupProtocol env hashes container error proto)
        (2 + if isStaticProtocol proto then staticHashesCalls hashes else 0) fun error' =>
          SetBy (fun proto => isStaticProtocol proto = true ∧ hashes.HasList) 0 (done ++ [proto])
            error' := by
    intro done error proto _ herror
    exact (exact_startupProtocol hexport container error proto).imp rfl fun _ => herror.concat
  have hloop := Ledger.exact_foldlM hround (setBy_nil _ _)
  rw [hcalls] at hloop
  refine hloop.imp rfl fun error herror => ?_
  rw [StartupList, ← hlist]
  rw [SetBy] at herror
  rw [herror]
  simp [← exists_and_right, and_assoc]

/-- A call `routing_startup_load_control_plane_protocols` makes without looking
at its result fails. -/
def StartupUnchecked (env : RoutingEnv) : Prop :=
  env.module ipv4UnicastRouting = false ∨ env.module ipv6UnicastRouting = false ∨
    RoutesFail env RtnlRoute.nexthops 0 (cacheStatic env.routes)

/-- The static routes, and what is done with them. -/
theorem exports_collectStatic {β : Type} {f : StaticHashes → RoutingM β} {calls : Nat}
    {Q : β → Prop} {s : RoutingState} (hruns : s.freshRuns = 0)
    (hf : RoutesKnown env env.links RtnlRoute.nexthops 0 (cacheStatic env.routes) →
      exportLedger.Exact env.lib
        (f ((collectedStatic env 0 env.routes).foldl StaticHashes.push {})) calls Q) :
    Exports env (routingStartupCollectStaticRoutes env >>= f) s (4 + calls)
      (RoutesKnown env env.links RtnlRoute.nexthops 0 (cacheStatic env.routes))
      (RoutesFail env RtnlRoute.nexthops 0 (cacheStatic env.routes)) Q := by
  have hcount : 4 + calls = 1 + (1 + (1 + (1 + calls))) := by omega
  simp only [routingStartupCollectStaticRoutes, bind_assoc, pure_bind]
  rw [hcount]
  refine exports_exact_bind (exact_checked _) fun _ s₁ _ _ hruns₁ => ?_
  refine exports_exact_bind (exact_checked _) fun _ s₂ _ _ hruns₂ => ?_
  refine exports_exact_bind (exact_checked _) fun _ s₃ _ _ hruns₃ => ?_
  refine exports_exact_bind (exact_checked _) fun _ s₄ _ _ hruns₄ => ?_
  have hcollect := collects_startupCollectRoutes env env.routes ({}, {}) s₄
  rw [hruns₄, hruns₃, hruns₂, hruns₁, hruns] at hcollect
  refine exports_collects_bind hcollect fun acc hknown hacc => ?_
  rw [hacc]
  exact hf hknown

/-- The body of `routing_startup_load_control_plane_protocols`. -/
theorem exports_startupProtocols (node : LydNode) {s : RoutingState} (hruns : s.freshRuns = 0) :
    Exports env (do
      checked env .srAcquireContext
      let _ ← call (.lyCtxGetModule ipv4UnicastRouting) (env.module ipv4UnicastRouting)
      let _ ← call (.lyCtxGetModule ipv6UnicastRouting) (env.module ipv6UnicastRouting)
      checked env .rtnlRouteReadTableNames
      checked env .rtnlRouteReadProtocolNames
      let (error, cppMap) := routingBuildProtosMap env
      if error ≠ 0 then Prog.fail
      else do
        let hashes ← routingStartupCollectStaticRoutes env
        let container ← lydNewPath env node controlPlaneProtocolsContainerYangPath none
        cppMap.foldlM (startupProtocol env hashes container) error) s (startupProtocolsCalls env)
      (RoutesKnown env env.links RtnlRoute.nexthops 0 (cacheStatic env.routes))
      (StartupUnchecked env) fun error => error ≠ 0 ↔ StartupList env := by
  have hcount : startupProtocolsCalls env = 1 + (1 + (1 + (4 + (1 +
      ((startupProtocols env).map fun proto => 2 + if isStaticProtocol proto then
        3 + startupFamilyCalls env AF_INET + startupFamilyCalls env AF_INET6 else 0).sum)))) := by
    rw [startupProtocolsCalls]
    omega
  rw [hcount]
  refine exports_exact_bind (exact_checked _) fun _ s₁ _ _ hruns₁ => ?_
  refine exports_call_bind fun s₂ _ hruns₂ => exports_call_bind fun s₃ _ hruns₃ => ?_
  refine exports_exact_bind (exact_checked _) fun _ s₄ _ _ hruns₄ => ?_
  refine exports_exact_bind (exact_checked _) fun _ s₅ _ _ hruns₅ => ?_
  have hfresh : s₅.freshRuns = 0 := by rw [hruns₅, hruns₄, hruns₃, hruns₂, hruns₁, hruns]
  refine exports_collectStatic hfresh fun hknown => ?_
  exact (exact_lydNewPath _ _ _).bind fun container _ => exact_startupProtocols rfl hknown container

/-- The checked calls up to the tree's end. -/
def startupCalls (env : RoutingEnv) : Nat :=
  2 + startupRibsCalls env + startupProtocolsCalls env

/-- The last two calls of `routing_startup_load_data`. -/
theorem statusExact_commit (s : RoutingState) :
    StatusExact ((do
      if !(← attempt env .srEditBatch) then return env.srError
      if !(← attempt env .srApplyChanges) then return env.srError
      return 0 : RoutingM Int).run s) ↔
      s.failed = false ∨ ∃ i < 2, env.lib (s.calls + i) = false := by
  have hne : (env.srError : Int) ≠ 0 := env.srError.2
  have hcalls : (∃ i < 2, env.lib (s.calls + i) = false) ↔
      env.lib s.calls = false ∨ env.lib (s.calls + 1) = false := by
    constructor
    · intro ⟨i, hi, hlib⟩
      match i, hi, hlib with
      | 0, _, hlib => exact .inl hlib
      | 1, _, hlib => exact .inr hlib
    · intro h
      rcases h with h | h
      · exact ⟨0, by omega, h⟩
      · exact ⟨1, by omega, h⟩
  rw [hcalls, Prog.run_bind_ok (run_attempt ..)]
  cases hedit : env.lib s.calls with
  | false => simp [StatusExact, hne]
  | true =>
      rw [Bool.not_true, if_neg Bool.false_ne_true, Prog.run_bind_ok (run_attempt ..)]
      cases happly : env.lib (s.calls + 1) with
      | false => simp [StatusExact, hne]
      | true => simp [StatusExact]

/-- From the protocols on. -/
theorem statusExact_protocols (node : LydNode) {s : RoutingState} (hfailed : s.failed = false)
    (hruns : s.freshRuns = 0) :
    StatusExact ((do
      let error ← routingStartupLoadControlPlaneProtocols env node
      if error ≠ 0 then return error
      if !(← attempt env .srEditBatch) then return env.srError
      if !(← attempt env .srApplyChanges) then return env.srError
      return 0 : RoutingM Int).run s) ↔
      ¬ (AllGood env.lib s.calls (startupProtocolsCalls env) ∧
          RoutesKnown env env.links RtnlRoute.nexthops 0 (cacheStatic env.routes)) ∨
        (StartupList env ↔ StartupUnchecked env) ∨
        ¬ StartupList env ∧
          ∃ i < 2, env.lib (s.calls + startupProtocolsCalls env + i) = false := by
  have hexports := @exports_startupProtocols env node s hruns
  by_cases hgood : AllGood env.lib s.calls (startupProtocolsCalls env) ∧
      RoutesKnown env env.links RtnlRoute.nexthops 0 (cacheStatic env.routes)
  · obtain ⟨error, s₁, hrun, herror, hcalls, hfails⟩ := hexports.done hgood.1 hgood.2
    have hunchecked : StartupUnchecked env ↔ s₁.failed = true := by simp [hfails, hfailed]
    have hstatus : (routingStartupLoadControlPlaneProtocols env node).run s = (.ok error, s₁) := by
      rw [routingStartupLoadControlPlaneProtocols, Prog.run_status, hrun]
    rw [Prog.run_bind_ok hstatus, ← herror, hunchecked, ← hcalls]
    by_cases hzero : error = 0
    · rw [if_neg (not_not_intro hzero)]
      refine (statusExact_commit s₁).trans ?_
      simp [hgood, hzero]
    · rw [if_pos hzero]
      simp [StatusExact, hgood, hzero]
  · obtain ⟨x, s₁, hrun, hx, hfails⟩ := hexports.stop hgood
    rw [Prog.run_bind, routingStartupLoadControlPlaneProtocols, Prog.run_status, hrun]
    cases x with
    | ok a => exact absurd rfl (hx a)
    | error => simp [StatusExact, hgood, hfails]
    | crash => simp [StatusExact, hgood, hfails]

/-- From the RIBs on. -/
theorem statusExact_ribs (node : LydNode) {s : RoutingState} (hfailed : s.failed = false)
    (hruns : s.freshRuns = 0) :
    StatusExact ((do
      let error ← routingStartupLoadRibs env node
      if error ≠ 0 then return error
      let error ← routingStartupLoadControlPlaneProtocols env node
      if error ≠ 0 then return error
      if !(← attempt env .srEditBatch) then return env.srError
      if !(← attempt env .srApplyChanges) then return env.srError
      return 0 : RoutingM Int).run s) ↔
      ¬ (AllGood env.lib s.calls (startupRibsCalls env + startupProtocolsCalls env) ∧
          RoutesKnown env env.links RtnlRoute.nexthops 0 (cacheStatic env.routes)) ∨
        (StartupList env ↔ StartupUnchecked env) ∨
        ¬ StartupList env ∧
          ∃ i < 2, env.lib (s.calls + (startupRibsCalls env + startupProtocolsCalls env) + i) =
            false := by
  obtain ⟨hdone, hstop⟩ := @exact_startupRibs env node s
  by_cases hgood : AllGood env.lib s.calls (startupRibsCalls env)
  · obtain ⟨_, s₁, hrun, -, hcalls, hfailed₁, hruns₁⟩ := hdone hgood
    have hcalls : s₁.calls = s.calls + startupRibsCalls env := hcalls
    have hstatus : (routingStartupLoadRibs env node).run s = (.ok 0, s₁) := by
      rw [routingStartupLoadRibs, Prog.run_exitCode, hrun]
    rw [Prog.run_bind_ok hstatus, if_neg (not_not_intro rfl),
      statusExact_protocols node (hfailed₁.trans hfailed) (hruns₁.trans hruns), hcalls, allGood_add,
      Nat.add_assoc s.calls]
    simp only [hgood, true_and]
  · obtain ⟨s₁, hrun, hfailed₁⟩ := hstop hgood
    have hfailed₁ : s₁.failed = true := hfailed₁
    have hstatus : (routingStartupLoadRibs env node).run s = (.ok (-1), s₁) := by
      rw [routingStartupLoadRibs, Prog.run_exitCode, hrun]
    rw [Prog.run_bind_ok hstatus, if_pos (by decide), allGood_add]
    simp [StatusExact, hgood, hfailed₁]

/-- `routing_startup_load_data` returns 0 exactly on the runs without a failed
call when its first two calls succeed and, in what follows, a checked call
fails, a link is missing, or a list of next hops is exported just when an
unchecked call failed. -/
theorem statusExact_routingStartupLoadData (env : RoutingEnv) :
    StatusExact ((routingStartupLoadData env).run {}) ↔
      env.lib 0 = true ∧ env.lib 1 = true ∧
        ((∃ i < startupCalls env, env.lib i = false) ∨
          ¬ RoutesKnown env env.links RtnlRoute.nexthops 0 (cacheStatic env.routes) ∨
          (StartupList env ↔ StartupUnchecked env) ∨
          ¬ StartupList env ∧ ∃ i < 2, env.lib (startupCalls env + i) = false) := by
  rw [routingStartupLoadData, Prog.run_bind_ok (run_attempt ..)]
  cases hcontext : env.lib 0 with
  | false => simp [StatusExact]
  | true =>
      rw [Bool.not_true, if_neg Bool.false_ne_true, Prog.run_bind_ok (run_attempt ..)]
      cases hcontainer : env.lib 1 with
      | false => simp [StatusExact]
      | true =>
          have hgood : AllGood env.lib 0 (startupCalls env) ↔
              AllGood env.lib 2 (startupRibsCalls env + startupProtocolsCalls env) := by
            rw [startupCalls, Nat.add_assoc, allGood_add (k := 2)]
            have htwo : AllGood env.lib 0 2 := by
              rw [allGood_add (k := 1) (m := 1), allGood_one, allGood_one]
              exact ⟨hcontext, hcontainer⟩
            simp [htwo]
          have hbad : (∃ i < startupCalls env, env.lib i = false) ↔
              ¬ AllGood env.lib 2 (startupRibsCalls env + startupProtocolsCalls env) := by
            rw [← hgood, not_allGood]
            simp
          rw [Bool.not_true, if_neg Bool.false_ne_true, hbad]
          refine (statusExact_ribs routingContainerYangPath (by simp) rfl).trans ?_
          show ¬ (AllGood env.lib 2 _ ∧ _) ∨ _ ∨ _ ∧ (∃ i < 2, env.lib (2 + _ + i) = false) ↔ _
          simp only [true_and, not_and_or, or_assoc, startupCalls, Nat.add_assoc]

/-! ## both exporters -/

/-- When the two exporters return success exactly on the runs without a failed
call. -/
theorem exporters_statusExact_iff (env : RoutingEnv) (parent : LydNode) :
    (StatusExact ((routingOperGetRibRoutesCb env parent).run {}) ↔
      (∃ i < operCalls env, env.lib i = false) ∨
        ¬ RoutesKnown env env.links unicastHops 0 env.routes ∨
        (OperList env ↔ OperUnchecked env)) ∧
    (StatusExact ((routingStartupLoadData env).run {}) ↔
      env.lib 0 = true ∧ env.lib 1 = true ∧
        ((∃ i < startupCalls env, env.lib i = false) ∨
          ¬ RoutesKnown env env.links RtnlRoute.nexthops 0 (cacheStatic env.routes) ∨
          (StartupList env ↔ StartupUnchecked env) ∨
          ¬ StartupList env ∧ ∃ i < 2, env.lib (startupCalls env + i) = false)) :=
  ⟨statusExact_routingOperGetRibRoutesCb env parent, statusExact_routingStartupLoadData env⟩

/-- A world in which every call succeeds, with one static route over two next
hops. -/
def twoHopEnv : RoutingEnv :=
  let toEth0 : RtnlNexthop := { ifindex := some 2, gateway := some (addr4 0xc0000201 32) }
  { sampleEnv with
    routes := [{ rtnlRouteAlloc (addr4 0x0a000000 8) with nexthops := [toEth0, toEth0] }] }

/-- Without a failed call both exporters report a failure for a list of next
hops; and the initial load reports success when it gets no context. -/
theorem twoHopEnv_not_statusExact :
    (¬ StatusExact ((routingOperGetRibRoutesCb twoHopEnv "").run {}) ∧
      ((routingOperGetRibRoutesCb twoHopEnv "").run {}).1 = .ok SR_ERR_CALLBACK_FAILED) ∧
    (¬ StatusExact ((routingStartupLoadData twoHopEnv).run {}) ∧
      ((routingStartupLoadData twoHopEnv).run {}).1 = .ok 41) ∧
    ¬ StatusExact ((routingStartupLoadData { sampleEnv with lib := fun _ => false }).run {}) ∧
      ((routingStartupLoadData { sampleEnv with lib := fun _ => false }).run {}).1 = .ok 0 := by
  decide +kernel

end SysrepoInterfaces.Routing
