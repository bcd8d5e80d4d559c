import SysrepoInterfaces.Routing.Stored

/-!
# SysrepoInterfaces.Routing.Reboot

The static routes over a restart: startup exports those of the kernel to the
datastore, and `routing_persist_static_routes` adds what the datastore has to a
kernel that knows none.
-/

namespace SysrepoInterfaces.Routing

open CProg Requests Keyed

/-! ## what survives -/

/-- The static routes of a family, in the order of the cache. -/
def familyStatic (env : RoutingEnv) (af : Nat) : List RtnlRoute :=
  (cacheStatic env.routes).filter fun route => route.family = af

/-- The static routes startup has a container for. -/
def ipStatic (env : RoutingEnv) : List RtnlRoute :=
  familyStatic env AF_INET ++ familyStatic env AF_INET6

/-- The static routes of a family that startup shows: to each destination the
last one of the cache. -/
def shownStatic (env : RoutingEnv) (af : Nat) : List RtnlRoute :=
  ((familyStatic env af).map RtnlRoute.dst).eraseDups.filterMap fun dst =>
    (staticRoutesTo env.routes af dst).getLast?

/-- The datastore gives the routes back that a log of calls has stored. -/
structure GivesBack (env : PersistEnv) (log : List Call) : Prop where
  ipv4 : ∃ entries, env.srGetSubtree ipv4AugmentPath = some entries ∧
    entries.Perm (storedEntries (familyNode "ipv4") log)
  ipv6 : ∃ entries, env.srGetSubtree ipv6AugmentPath = some entries ∧
    entries.Perm (storedEntries (familyNode "ipv6") log)

/-- The addresses of the static routes are read back from their texts, and
their interfaces are there again under their names. -/
structure ReadsTexts (env : RoutingEnv) (env' : PersistEnv) : Prop where
  dst : ∀ route ∈ ipStatic env, env'.nlAddrParse (prefixText env route.dst) = some route.dst
  gateway : ∀ route ∈ ipStatic env, ∀ nh ∈ route.nexthops, ∀ gateway, nh.gateway = some gateway →
    env'.nlAddrParse (env.nlAddr2str gateway) = some gateway
  interface : ∀ route ∈ ipStatic env, ∀ nh ∈ route.nexthops, ∀ name,
    env.links (rtnlRouteNhGetIfindex nh) = some name → env'.ifNametoindex name ≠ 0

/-- The same next hop; the interface has the same name. -/
structure SameHop (env : RoutingEnv) (env' : PersistEnv) (nh nh' : RtnlNexthop) : Prop where
  gateway : nh'.gateway = nh.gateway
  ifindex : nh'.ifindex = (env.links (rtnlRouteNhGetIfindex nh)).map env'.ifNametoindex

/-- The same route, in the same table and with the same metric. -/
structure KeptRoute (env : RoutingEnv) (env' : PersistEnv) (route route' : RtnlRoute) : Prop where
  dst : route'.dst = route.dst
  table : route'.table = route.table
  priority : route'.priority = route.priority
  nexthops : List.Forall₂ (SameHop env env') route.nexthops route'.nexthops

/-- What is relied on of the kernel.  A static route it is asked to add to a
destination that has none it keeps, as `stored`: to this destination, with the
next hops of a route that names their interfaces, and with the metric of its
family when it is sent without one. -/
structure KeepsNewRoutes (env : RoutingEnv) (stored : RtnlRoute → RtnlRoute)
    (metric : Nat → Nat) : Prop where
  add : ∀ table route, route.isStatic → route.dst ∉ (staticRoutes table).map RtnlRoute.dst →
    (staticRoutes (env.carryOut table (.routeAdd route))).Perm
      (staticRoutes table ++ [stored route])
  dst : ∀ route, (stored route).dst = route.dst
  nexthops : ∀ route, (∀ nh ∈ route.nexthops, rtnlRouteNhGetIfindex nh ≠ 0) →
    (stored route).nexthops = route.nexthops
  metric : ∀ route, route.priority = 0 → (stored route).priority = metric route.dst.family

/-- A route in the main table with the metric of a route sent without one, and
with one next hop that has a gateway. -/
structure RtnlRoute.Plain (metric : Nat → Nat) (route : RtnlRoute) : Prop where
  table : route.table = RT_TABLE_MAIN
  priority : route.priority = metric route.dst.family
  nexthop : ∃ nh gateway, route.nexthops = [nh] ∧ nh.gateway = some gateway

/-- The kernel's static routes are those from before the restart. -/
def Restores (env : RoutingEnv) (env' : PersistEnv) (table : List RtnlRoute) : Prop :=
  ∃ routes, routes.Perm (staticRoutes table) ∧
    List.Forall₂ (KeptRoute env env') (ipStatic env) routes

/-! ## the routes startup shows -/

section Shown

variable {env : RoutingEnv}

theorem mem_familyStatic {af : Nat} {route : RtnlRoute} :
    route ∈ familyStatic env af ↔ route ∈ staticRoutesTo env.routes af route.dst := by
  simp [familyStatic, staticRoutesTo]

theorem mem_of_shownStatic {af : Nat} {route : RtnlRoute} (h : route ∈ shownStatic env af) :
    route ∈ familyStatic env af := by
  obtain ⟨dst, -, hlast⟩ := List.mem_filterMap.mp h
  have hmem := List.mem_of_getLast? hlast
  rw [mem_familyStatic, (mem_staticRoutesTo hmem).2]
  exact hmem

/-- One route is shown for each destination. -/
theorem map_dst_shownStatic (af : Nat) :
    (shownStatic env af).map RtnlRoute.dst =
      ((familyStatic env af).map RtnlRoute.dst).eraseDups := by
  rw [shownStatic, List.map_filterMap]
  refine (List.filterMap_congr fun dst hdst => ?_).trans (List.filterMap_some (l := _))
  obtain ⟨route, hroute, rfl⟩ := List.mem_map.mp (mem_eraseDups.mp hdst)
  obtain ⟨last, hlast⟩ := Option.ne_none_iff_exists'.mp fun hnone =>
    List.ne_nil_of_mem (mem_familyStatic.mp hroute) (List.getLast?_eq_none_iff.mp hnone)
  rw [hlast, Option.map_some, (mem_staticRoutesTo (List.mem_of_getLast? hlast)).2]

/-- Where no two routes share a destination all of them are shown. -/
theorem shownStatic_of_nodup {af : Nat} (h : ((familyStatic env af).map RtnlRoute.dst).Nodup) :
    shownStatic env af = familyStatic env af := by
  have hone : ∀ route ∈ familyStatic env af,
      (staticRoutesTo env.routes af route.dst).getLast? = some route := by
    intro route hroute
    have hmem := mem_familyStatic.mp hroute
    obtain ⟨last, hlast⟩ := Option.ne_none_iff_exists'.mp fun hnone =>
      List.ne_nil_of_mem hmem (List.getLast?_eq_none_iff.mp hnone)
    have hlastMem := List.mem_of_getLast? hlast
    have hdst := (mem_staticRoutesTo hlastMem).2
    have hlastStatic : last ∈ familyStatic env af := mem_familyStatic.mpr (hdst.symm ▸ hlastMem)
    rw [hlast, List.inj_on_of_nodup_map h hlastStatic hroute hdst]
  rw [shownStatic, eraseDups_of_nodup h, List.filterMap_map]
  exact (List.filterMap_congr hone).trans List.filterMap_some

theorem length_shownStatic_le (af : Nat) :
    (shownStatic env af).length ≤ (familyStatic env af).length := by
  have hsub := (subperm_eraseDups ((familyStatic env af).map RtnlRoute.dst)).length_le
  rwa [← map_dst_shownStatic, List.length_map, List.length_map] at hsub

theorem nodup_of_length_shownStatic {af : Nat}
    (h : (familyStatic env af).length ≤ (shownStatic env af).length) :
    ((familyStatic env af).map RtnlRoute.dst).Nodup := by
  refine nodup_of_length_eraseDups ?_
  rwa [← map_dst_shownStatic, List.length_map, List.length_map]

/-! ## the entries they leave -/

/-- The entry a kernel route is exported as. -/
def IsExportOf (env : RoutingEnv) (entry : StaticRouteEntry) (route : RtnlRoute) : Prop :=
  ∃ n, entry = exportedEntry env route.dst (staticRoute env n route)

variable {s s' : RoutingState} {hashes : StaticHashes}

theorem map_pfx_hashes (hrun : (routingStartupCollectStaticRoutes env).run s = (.ok hashes, s'))
    {af : Nat} (haf : af = AF_INET ∨ af = AF_INET6) :
    (hashes.of af).map RouteListHashElement.pfx =
      ((familyStatic env af).map RtnlRoute.dst).eraseDups := by
  obtain ⟨n, -, hhashes⟩ := known_of_run hrun
  have hcollected : (collectedOf env n af).map Prod.fst =
      (familyStatic env af).map RtnlRoute.dst := by
    have hfst : (collectedStatic env n env.routes).map Prod.fst = cacheStatic env.routes := by
      rw [collectedStatic, List.map_map]
      exact map_snd_numbered _ n _
    rw [collectedOf, familyStatic, ← hfst, List.filter_map, List.map_map, List.map_map]
    rfl
  rw [← keys_toMultimap, toMultimap_of hhashes haf, Multimap.keys_ofList, hcollected]

theorem forall₂_hashEntries
    (hrun : (routingStartupCollectStaticRoutes env).run s = (.ok hashes, s'))
    {af : Nat} (haf : af = AF_INET ∨ af = AF_INET6) :
    List.Forall₂ (IsExportOf env) (hashEntries env (hashes.of af)) (shownStatic env af) := by
  rw [shownStatic, ← map_pfx_hashes hrun haf, List.filterMap_map, hashEntries]
  have hshows : ∀ e ∈ hashes.of af, ∃ route, Shows env af e route :=
    fun e he => exists_shows hrun haf he
  generalize hashes.of af = hash at hshows
  induction hash with
  | nil => exact .nil
  | cons e hash ih =>
      obtain ⟨route, hlast, n, hhead⟩ := hshows e List.mem_cons_self
      have hdst : route.dst = e.pfx := (mem_staticRoutesTo (List.mem_of_getLast? hlast)).2
      simp only [List.filterMap_cons, hhead, Option.map_some, Function.comp_apply, hlast]
      exact .cons ⟨n, by rw [hdst]⟩ (ih fun e he => hshows e (List.mem_cons_of_mem _ he))

end Shown

/-! ## what is replayed -/

section Replayed

variable {env : RoutingEnv} {env' : PersistEnv} {entry : StaticRouteEntry} {route : RtnlRoute}

/-- The next hop of an entry: a route of one next hop leaves its gateway and its
interface, any other leaves nothing. -/
theorem exportedEntry_cases (env : RoutingEnv) (n : Nat) (route : RtnlRoute) :
    (∃ nh, route.nexthops = [nh] ∧ exportedEntry env route.dst (staticRoute env n route) =
      { destinationPrefix := prefixText env route.dst
        nextHopAddress := nh.gateway.map env.nlAddr2str
        outgoingInterface := env.links (rtnlRouteNhGetIfindex nh) }) ∨
    (∀ nh, route.nexthops ≠ [nh]) ∧ exportedEntry env route.dst (staticRoute env n route) =
      { destinationPrefix := prefixText env route.dst } := by
  cases hhops : route.nexthops with
  | nil =>
      refine .inr ⟨nofun, ?_⟩
      simp [exportedEntry, staticRoute, hhops, collectedNexthops, listNextHop, freshHops, numbered]
  | cons nh nhs =>
      cases nhs with
      | nil =>
          refine .inl ⟨nh, rfl, ?_⟩
          simp [exportedEntry, staticRoute, hhops, collectedNexthops, cacheSimple]
      | cons nh' nhs =>
          refine .inr ⟨by simp, ?_⟩
          have hkind : (staticRoute env n route).nextHop.kind ≠ .simple := by
            rw [staticRoute, hhops, collectedNexthops, listNextHop]
            · split <;> simp
            · simp
          simp [exportedEntry, hkind]

/-- An entry that is gathered has a next hop. -/
theorem gatherEntry_ok {v v' : GatherVars} (h : gatherEntry env' v entry = .ok v') :
    entry.nextHopAddress ≠ none ∨ entry.outgoingInterface ≠ none := by
  by_contra hnone
  rw [not_or, not_not, not_not] at hnone
  rw [gatherEntry, if_pos hnone] at h
  cases h

theorem forall_of_gather_foldlM {entries : List StaticRouteEntry} {v v' : GatherVars}
    (h : entries.foldlM (gatherEntry env') v = .ok v') :
    ∀ entry ∈ entries, entry.nextHopAddress ≠ none ∨ entry.outgoingInterface ≠ none := by
  induction entries generalizing v with
  | nil => simp
  | cons entry entries ih =>
      rw [List.foldlM_cons] at h
      obtain ⟨v₁, hentry, hrest⟩ := Exit.bind_eq_ok.mp h
      exact List.forall_mem_cons.mpr ⟨gatherEntry_ok hentry, ih hrest⟩

theorem forall_of_gatherStaticRoutes {entries : List StaticRouteEntry} {path : String}
    {head head' : List RouteListHashElement} {s s' : RoutingState}
    (hpath : env'.srGetSubtree path = some entries)
    (h : (gatherStaticRoutes env' head path).run s = (.ok head', s')) :
    ∀ entry ∈ entries, entry.nextHopAddress ≠ none ∨ entry.outgoingInterface ≠ none := by
  rw [gatherStaticRoutes, hpath] at h
  obtain ⟨v, s₁, hloop, -⟩ := Prog.bind_eq_ok h
  exact forall_of_gather_foldlM (Prod.mk.inj hloop).1

/-- A run of the replay that returns 0 has found a next hop in every entry. -/
theorem forall_of_persist {ipv4 ipv6 : List StaticRouteEntry} {t t' : RoutingState}
    (hipv4 : env'.srGetSubtree ipv4AugmentPath = some ipv4)
    (hipv6 : env'.srGetSubtree ipv6AugmentPath = some ipv6)
    (h : (routingPersistStaticRoutes env').run t = (.ok 0, t')) :
    ∀ entry ∈ ipv4 ++ ipv6, entry.nextHopAddress ≠ none ∨ entry.outgoingInterface ≠ none := by
  have hinner := (Prog.exitCode_eq_zero (by decide)).mp h
  obtain ⟨_, t₁, -, hinner⟩ := Prog.bind_eq_ok hinner
  obtain ⟨_, t₂, -, hinner⟩ := Prog.bind_eq_ok hinner
  obtain ⟨head, t₃, hfirst, hinner⟩ := Prog.bind_eq_ok hinner
  obtain ⟨head', t₄, hsecond, -⟩ := Prog.bind_eq_ok hinner
  intro entry hentry
  rcases List.mem_append.mp hentry with hentry | hentry
  · exact forall_of_gatherStaticRoutes hipv4 hfirst entry hentry
  · exact forall_of_gatherStaticRoutes hipv6 hsecond entry hentry

/-- Some requests were sent, and nothing else happened to the kernel. -/
def SentSome (env : RoutingEnv) (s s' : RoutingState) : Prop := ∃ new, (kernel env).Sent s s' new

instance (env : RoutingEnv) : IsPreorder RoutingState (SentSome env) where
  refl s := ⟨[], (kernel env).sent_nil s⟩
  trans _ _ _ h h' := by
    obtain ⟨new, hsent⟩ := h
    obtain ⟨new', hsent'⟩ := h'
    exact ⟨new ++ new', hsent.trans hsent'⟩

theorem sentSome_persist (env' : PersistEnv) :
    Prog.Within (SentSome env'.toRoutingEnv) (routingPersistStaticRoutes env') := by
  have hchecked : ∀ c, Prog.Within (SentSome env'.toRoutingEnv) (checked env'.toRoutingEnv c) := by
    intro c s
    have hquiet := quiet_checked env'.toRoutingEnv c s
    refine ⟨[], ?_, hquiet.2⟩
    rw [List.append_nil]
    exact hquiet.1
  have hgather : ∀ head path, Prog.Within (SentSome env'.toRoutingEnv)
      (gatherStaticRoutes env' head path) := by
    intro head path
    unfold gatherStaticRoutes
    split
    · refine Prog.within_bind (Prog.within_lift _) fun v => ?_
      split
      · exact Prog.within_fail
      · exact Prog.within_pure _
    · exact Prog.within_lift _
  have happly : ∀ head, Prog.Within (SentSome env'.toRoutingEnv)
      (routingApplyNewRoutes env'.toRoutingEnv head).require := by
    intro head s
    obtain ⟨new, hsent, -⟩ := follows_routingApplyNewRoutes env'.toRoutingEnv head s trivial
    exact ⟨new, hsent⟩
  unfold routingPersistStaticRoutes
  refine Prog.within_exitCode (-1) ?_
  refine Prog.within_bind (hchecked _) fun _ => Prog.within_bind (hchecked _) fun _ => ?_
  refine Prog.within_bind (hgather _ _) fun head => Prog.within_bind (hgather _ _) fun head' => ?_
  exact happly head'

/-- The route an add request asks for. -/
def Request.added : Request → Option RtnlRoute
  | .routeAdd route => some route
  | .routeDelete _ => none

/-- Routes to destinations of their own, and to none that is taken, are all
there after they have been added. -/
theorem KeepsNewRoutes.staticRoutes_added {env : RoutingEnv} {stored : RtnlRoute → RtnlRoute}
    {metric : Nat → Nat} (hkernel : KeepsNewRoutes env stored metric) {rs : List Request}
    (h : ∀ r ∈ rs, ∃ route, r = .routeAdd route ∧ route.isStatic) {table : List RtnlRoute}
    (hfresh : ((staticRoutes table ++ rs.filterMap Request.added).map RtnlRoute.dst).Nodup) :
    (staticRoutes (rs.foldl env.carryOut table)).Perm
      (staticRoutes table ++ (rs.filterMap Request.added).map stored) := by
  induction rs generalizing table with
  | nil => rw [List.filterMap_nil, List.map_nil, List.append_nil]; exact .refl _
  | cons r rs ih =>
      obtain ⟨⟨route, rfl, hstatic⟩, hrest⟩ := List.forall_mem_cons.mp h
      have hcons : (Request.routeAdd route :: rs).filterMap Request.added =
          route :: rs.filterMap Request.added := rfl
      rw [hcons] at hfresh ⊢
      have hnew : route.dst ∉ (staticRoutes table).map RtnlRoute.dst := by
        rw [List.map_append, List.map_cons] at hfresh
        intro hmem
        exact (List.nodup_append.mp hfresh).2.2 _ hmem _ List.mem_cons_self rfl
      have hadd := hkernel.add table route hstatic hnew
      -- the destinations after the request are those before it and the new one
      have hdsts : ((staticRoutes (env.carryOut table (.routeAdd route)) ++
          rs.filterMap Request.added).map RtnlRoute.dst).Perm
          ((staticRoutes table ++ route :: rs.filterMap Request.added).map RtnlRoute.dst) := by
        rw [List.map_append]
        refine ((hadd.map RtnlRoute.dst).append_right _).trans (.of_eq ?_)
        simp [hkernel.dst]
      rw [List.foldl_cons]
      refine (ih hrest (hdsts.nodup_iff.mpr hfresh)).trans ((hadd.append_right _).trans (.of_eq ?_))
      rw [List.append_assoc]
      rfl

/-- The kernel's static routes after a replay that returns 0 of entries with
prefixes of their own to a kernel without static routes. -/
theorem staticRoutes_persist {stored : RtnlRoute → RtnlRoute} {metric : Nat → Nat}
    (hkernel : KeepsNewRoutes env'.toRoutingEnv stored metric)
    {ipv4 ipv6 : List StaticRouteEntry} {t t' : RoutingState}
    (hipv4 : env'.srGetSubtree ipv4AugmentPath = some ipv4)
    (hipv6 : env'.srGetSubtree ipv6AugmentPath = some ipv6)
    (hvalid : ∀ entry ∈ ipv4 ++ ipv6, entry.Valid env')
    (hdsts : ((ipv4 ++ ipv6).map (StaticRouteEntry.dst env')).Nodup)
    (hempty : staticRoutes t.table = [])
    (h : (routingPersistStaticRoutes env').run t = (.ok 0, t')) :
    (staticRoutes t'.table).Perm
      ((ipv4 ++ ipv6).map fun entry => stored (entry.added env')) := by
  obtain ⟨new, hsent, hall, hperm⟩ := persist_sends hipv4 hipv6 hvalid h
  obtain ⟨new', hsent', htable⟩ := sentSome_persist env' t
  rw [h] at hsent' htable
  obtain rfl : new = new' := List.append_cancel_left (hsent.symm.trans hsent')
  have hadds : ∀ r ∈ new.map Prod.fst, ∃ route, r = .routeAdd route ∧ route.isStatic := by
    intro r hr
    obtain ⟨entry, _, rfl⟩ := List.mem_map.mp (hperm.subset hr)
    exact ⟨_, rfl, rfl⟩
  replace htable : t'.table = (accepted new).foldl env'.carryOut t.table := htable
  rw [accepted_of_all hall] at htable
  have hroutes := hperm.filterMap Request.added
  have hmap : ((ipv4 ++ ipv6).map fun entry => Request.routeAdd (entry.added env')).filterMap
      Request.added = (ipv4 ++ ipv6).map (StaticRouteEntry.added env') := by
    rw [List.filterMap_map, ← List.filterMap_eq_map]
    rfl
  rw [hmap] at hroutes
  have hfresh : ((staticRoutes t.table ++ (new.map Prod.fst).filterMap Request.added).map
      RtnlRoute.dst).Nodup := by
    rw [hempty, List.nil_append]
    refine (hroutes.map RtnlRoute.dst).nodup_iff.mpr ?_
    rw [List.map_map]
    exact hdsts
  have hadded := hkernel.staticRoutes_added hadds hfresh
  have hstored := hroutes.map stored
  rw [List.map_map] at hstored
  rw [htable]
  rw [hempty, List.nil_append] at hadded
  exact hadded.trans hstored

end Replayed

/-! ## over a restart -/

section Restart

variable {env : RoutingEnv} {env' : PersistEnv} {stored : RtnlRoute → RtnlRoute}
  {metric : Nat → Nat}

theorem mem_ipStatic {route : RtnlRoute} :
    route ∈ ipStatic env ↔ ∃ af, (af = AF_INET ∨ af = AF_INET6) ∧ route ∈ familyStatic env af := by
  rw [ipStatic, List.mem_append]
  constructor
  · rintro (h | h)
    · exact ⟨_, .inl rfl, h⟩
    · exact ⟨_, .inr rfl, h⟩
  · rintro ⟨_, rfl | rfl, h⟩
    · exact .inl h
    · exact .inr h

theorem mem_of_shown {route : RtnlRoute}
    (h : route ∈ shownStatic env AF_INET ++ shownStatic env AF_INET6) : route ∈ ipStatic env := by
  rcases List.mem_append.mp h with h | h
  · exact mem_ipStatic.mpr ⟨_, .inl rfl, mem_of_shownStatic h⟩
  · exact mem_ipStatic.mpr ⟨_, .inr rfl, mem_of_shownStatic h⟩

/-- The shown routes have destinations of their own. -/
theorem nodup_dst_shown (hfamily : ∀ route ∈ ipStatic env, route.dst.family = route.family) :
    ((shownStatic env AF_INET ++ shownStatic env AF_INET6).map RtnlRoute.dst).Nodup := by
  have hnodup : ∀ af, ((shownStatic env af).map RtnlRoute.dst).Nodup :=
    fun af => @map_dst_shownStatic env af ▸ nodup_eraseDups _
  have hof : ∀ af, af = AF_INET ∨ af = AF_INET6 → ∀ dst ∈ (shownStatic env af).map RtnlRoute.dst,
      dst.family = af := by
    intro af haf dst hdst
    obtain ⟨route, hroute, rfl⟩ := List.mem_map.mp hdst
    have hmem := mem_of_shownStatic hroute
    rw [hfamily route (mem_ipStatic.mpr ⟨af, haf, hmem⟩)]
    simpa using (List.mem_filter.mp hmem).2
  rw [List.map_append]
  refine List.nodup_append.mpr ⟨hnodup _, hnodup _, fun dst hdst dst' hdst' heq => ?_⟩
  have hne : AF_INET ≠ AF_INET6 := by decide
  exact hne ((hof _ (.inl rfl) dst hdst).symm.trans (heq ▸ hof _ (.inr rfl) dst' hdst'))

/-- An export that ends has looked up the interface of every single next hop. -/
theorem links_of_run {s s' : RoutingState} {hashes : StaticHashes}
    (hrun : (routingStartupCollectStaticRoutes env).run s = (.ok hashes, s')) {route : RtnlRoute}
    (hroute : route ∈ ipStatic env) {nh : RtnlNexthop} (hnh : route.nexthops = [nh]) :
    ∃ name, env.links (rtnlRouteNhGetIfindex nh) = some name := by
  obtain ⟨n, hknown, -⟩ := known_of_run hrun
  obtain ⟨af, -, hmem⟩ := mem_ipStatic.mp hroute
  have hstatic : route ∈ (numberedRoutes RtnlRoute.nexthops n (cacheStatic env.routes)).map
      Prod.snd := by
    rw [numberedRoutes, map_snd_numbered]
    exact (List.mem_filter.mp hmem).1
  obtain ⟨p, hp, rfl⟩ := List.mem_map.mp hstatic
  have hlink := hknown p hp
  rw [hnh] at hlink
  exact Option.isSome_iff_exists.mp hlink

theorem dst_of_isExportOf (htexts : ReadsTexts env env') {entry : StaticRouteEntry}
    {route : RtnlRoute} (hroute : route ∈ ipStatic env) (h : IsExportOf env entry route) :
    entry.dst env' = route.dst := by
  obtain ⟨n, rfl⟩ := h
  rw [StaticRouteEntry.dst]
  show (env'.nlAddrParse (prefixText env route.dst)).getD _ = route.dst
  rw [htexts.dst route hroute]
  rfl

/-- A next hop that is replayed names its interface. -/
theorem ifindex_added (htexts : ReadsTexts env env') {entry : StaticRouteEntry}
    {route : RtnlRoute} (hroute : route ∈ ipStatic env)
    (hlinks : ∀ nh, route.nexthops = [nh] → ∃ name,
      env.links (rtnlRouteNhGetIfindex nh) = some name)
    (h : IsExportOf env entry route) :
    ∀ nh ∈ (entry.added env').nexthops, rtnlRouteNhGetIfindex nh ≠ 0 := by
  obtain ⟨n, hentry⟩ := h
  obtain ⟨nh, hnh, heq⟩ | ⟨_, heq⟩ := exportedEntry_cases env n route
  · obtain ⟨name, hname⟩ := hlinks nh hnh
    rw [heq, hname] at hentry
    cases haddress : entry.nextHopAddress with
    | none => simp [nexthops_added_of_none haddress]
    | some text =>
        have hindex := htexts.interface route hroute nh (hnh ▸ List.mem_singleton_self nh) name
          hname
        have hif : entry.outgoingInterface = some name := by rw [hentry]
        simpa [nexthops_added_of_some haddress, hif, rtnlRouteNhGetIfindex] using hindex
  · rw [heq] at hentry
    have haddress : entry.nextHopAddress = none := by rw [hentry]
    simp [nexthops_added_of_none haddress]

/-- A route whose entry has a next hop has one too, and the entry can be
replayed. -/
theorem valid_of_isExportOf (htexts : ReadsTexts env env') {entry : StaticRouteEntry}
    {route : RtnlRoute} (hroute : route ∈ ipStatic env) (h : IsExportOf env entry route)
    (hnextHop : entry.nextHopAddress ≠ none ∨ entry.outgoingInterface ≠ none) :
    entry.Valid env' ∧ ∃ nh, route.nexthops = [nh] ∧ entry = {
      destinationPrefix := prefixText env route.dst
      nextHopAddress := nh.gateway.map env.nlAddr2str
      outgoingInterface := env.links (rtnlRouteNhGetIfindex nh) } := by
  obtain ⟨n, hentry⟩ := h
  obtain ⟨nh, hnh, heq⟩ | ⟨_, heq⟩ := exportedEntry_cases env n route
  · rw [heq] at hentry
    refine ⟨⟨?_, ?_, hnextHop⟩, nh, hnh, hentry⟩
    · rw [hentry, htexts.dst route hroute]
      rfl
    · intro text htext
      rw [hentry] at htext
      obtain ⟨gateway, hgateway, rfl⟩ := Option.map_eq_some_iff.mp htext
      rw [htexts.gateway route hroute nh (hnh ▸ List.mem_singleton_self nh) gateway hgateway]
      rfl
  · rw [heq] at hentry
    rw [hentry] at hnextHop
    exact absurd hnextHop (by simp)

/-- What is replayed goes to the main table, without a metric. -/
theorem table_stored (hkernel : KeepsNewRoutes env'.toRoutingEnv stored metric)
    (entry : StaticRouteEntry) :
    (stored (entry.added env')).table = RT_TABLE_MAIN := by
  have hadd := hkernel.add [] (entry.added env') rfl (by simp [staticRoutes])
  have hmem : stored (entry.added env') ∈
      staticRoutes (env'.carryOut [] (.routeAdd (entry.added env'))) :=
    hadd.mem_iff.mpr (List.mem_append_right _ List.mem_cons_self)
  have hstatic : (stored (entry.added env')).isStatic = true := (List.mem_filter.mp hmem).2
  simp only [RtnlRoute.isStatic, Bool.and_eq_true, decide_eq_true_eq] at hstatic
  exact hstatic.1

theorem priority_stored (hkernel : KeepsNewRoutes env'.toRoutingEnv stored metric)
    (entry : StaticRouteEntry) :
    (stored (entry.added env')).priority =
      metric (stored (entry.added env')).dst.family := by
  rw [hkernel.metric _ rfl, hkernel.dst]

/-- Only a plain route is the same as a replayed one. -/
theorem plain_of_sameRoute (hkernel : KeepsNewRoutes env'.toRoutingEnv stored metric)
    {entry : StaticRouteEntry} {route : RtnlRoute} (hvalid : entry.Valid env')
    (hifindex : ∀ nh ∈ (entry.added env').nexthops, rtnlRouteNhGetIfindex nh ≠ 0)
    (hone : ∃ nh, route.nexthops = [nh])
    (h : KeptRoute env env' route (stored (entry.added env'))) : route.Plain metric := by
  obtain ⟨nh, hnh⟩ := hone
  have htable := h.table
  rw [table_stored hkernel] at htable
  have hpriority := h.priority
  rw [priority_stored hkernel, h.dst] at hpriority
  refine ⟨htable.symm, hpriority.symm, ?_⟩
  have hhops := h.nexthops
  rw [hkernel.nexthops _ hifindex, hnh] at hhops
  cases haddress : entry.nextHopAddress with
  | none =>
      rw [nexthops_added_of_none haddress] at hhops
      cases hhops
  | some text =>
      rw [nexthops_added_of_some haddress] at hhops
      obtain ⟨gateway, hgateway⟩ := Option.isSome_iff_exists.mp (hvalid.gateway text haddress)
      obtain ⟨hsame, _⟩ := List.forall₂_cons.mp hhops
      exact ⟨nh, gateway, hnh, hsame.gateway.symm.trans hgateway⟩

/-- A plain route is replayed as it was. -/
theorem sameRoute_of_plain (hkernel : KeepsNewRoutes env'.toRoutingEnv stored metric)
    (htexts : ReadsTexts env env') {entry : StaticRouteEntry}
    {route : RtnlRoute} (hroute : route ∈ ipStatic env) (hplain : route.Plain metric)
    (hifindex : ∀ nh ∈ (entry.added env').nexthops, rtnlRouteNhGetIfindex nh ≠ 0)
    (h : IsExportOf env entry route) : KeptRoute env env' route (stored (entry.added env')) := by
  obtain ⟨nh, gateway, hnh, hgateway⟩ := hplain.nexthop
  have hdst : (stored (entry.added env')).dst = route.dst := by
    rw [hkernel.dst]
    exact dst_of_isExportOf htexts hroute h
  obtain ⟨n, rfl⟩ := h
  obtain ⟨nh', hnh', heq⟩ | ⟨hnot, _⟩ := exportedEntry_cases env n route
  · obtain rfl : nh = nh' := List.singleton_inj.mp (hnh.symm.trans hnh')
    have haddress : (exportedEntry env route.dst (staticRoute env n route)).nextHopAddress =
        some (env.nlAddr2str gateway) := by
      rw [heq, hgateway]
      rfl
    have hparse := htexts.gateway route hroute nh (hnh ▸ List.mem_singleton_self nh) gateway
        hgateway
    refine ⟨hdst, ?_, ?_, ?_⟩
    · rw [table_stored hkernel, hplain.table]
    · rw [priority_stored hkernel, hdst, hplain.priority]
    · rw [hkernel.nexthops _ hifindex, hnh, nexthops_added_of_some haddress]
      refine .cons ⟨hparse.trans hgateway.symm, ?_⟩ .nil
      rw [heq]
  · exact absurd hnh (hnot nh)

theorem forall₂_sameRoute (hkernel : KeepsNewRoutes env'.toRoutingEnv stored metric)
    (htexts : ReadsTexts env env') {routes : List RtnlRoute}
    {entries : List StaticRouteEntry} (hroutes : ∀ route ∈ routes, route ∈ ipStatic env)
    (hlinks : ∀ route ∈ routes, ∀ nh, route.nexthops = [nh] → ∃ name,
      env.links (rtnlRouteNhGetIfindex nh) = some name)
    (hplain : ∀ route ∈ routes, route.Plain metric)
    (h : List.Forall₂ (IsExportOf env) entries routes) :
    List.Forall₂ (KeptRoute env env') routes
      (entries.map fun entry => stored (entry.added env')) := by
  induction h with
  | nil => exact .nil
  | cons hexport _ ih =>
      obtain ⟨hroute, hroutes⟩ := List.forall_mem_cons.mp hroutes
      obtain ⟨hfirst, hplain⟩ := List.forall_mem_cons.mp hplain
      obtain ⟨hlink, hlinks⟩ := List.forall_mem_cons.mp hlinks
      have hifindex := ifindex_added htexts hroute hlink hexport
      exact .cons (sameRoute_of_plain hkernel htexts hroute hfirst hifindex hexport)
        (ih hroutes hlinks hplain)

theorem map_dst_of_exports (htexts : ReadsTexts env env') {routes : List RtnlRoute}
    {entries : List StaticRouteEntry} (hroutes : ∀ route ∈ routes, route ∈ ipStatic env)
    (h : List.Forall₂ (IsExportOf env) entries routes) :
    entries.map (StaticRouteEntry.dst env') = routes.map RtnlRoute.dst := by
  induction h with
  | nil => rfl
  | cons hexport _ ih =>
      obtain ⟨hroute, hroutes⟩ := List.forall_mem_cons.mp hroutes
      rw [List.map_cons, List.map_cons, ih hroutes, dst_of_isExportOf htexts hroute hexport]

/-- The texts of the prefixes of a hash differ. -/
theorem nodup_prefixTexts (htexts : ReadsTexts env env') {s s' : RoutingState}
    {hashes : StaticHashes}
    (hrun : (routingStartupCollectStaticRoutes env).run s = (.ok hashes, s'))
    {af : Nat} (haf : af = AF_INET ∨ af = AF_INET6) :
    ((hashes.of af).map fun e => prefixText env e.pfx).Nodup := by
  have hkeys := map_pfx_hashes hrun haf
  have hparse : ∀ dst ∈ (hashes.of af).map RouteListHashElement.pfx,
      env'.nlAddrParse (prefixText env dst) = some dst := by
    intro dst hdst
    rw [hkeys, mem_eraseDups] at hdst
    obtain ⟨route, hroute, rfl⟩ := List.mem_map.mp hdst
    exact htexts.dst route (mem_ipStatic.mpr ⟨af, haf, hroute⟩)
  have hnodup : ((hashes.of af).map RouteListHashElement.pfx).Nodup := hkeys ▸ nodup_eraseDups _
  have htext := hnodup.map_on (f := prefixText env) fun dst hdst dst' hdst' heq => by
    have hsome := (hparse dst hdst).symm.trans ((congrArg env'.nlAddrParse heq).trans
      (hparse dst' hdst'))
    exact Option.some.inj hsome
  rwa [List.map_map] at htext

variable {s s' t t' : RoutingState}

/-- After an export and a replay that both return 0: the entries of the two
lists come from the shown routes, and are what the kernel has. -/
theorem entries_of_restart (hkernel : KeepsNewRoutes env'.toRoutingEnv stored metric)
    (hnames : ProtocolNames env) (htexts : ReadsTexts env env')
    (hfamily : ∀ route ∈ ipStatic env, route.dst.family = route.family)
    (hlog : s.log = []) (hopen : ∀ n < 2, env.lib (s.calls + n) = true)
    (hload : (routingStartupLoadData env).run s = (.ok 0, s')) (hback : GivesBack env' s'.log)
    (hempty : staticRoutes t.table = [])
    (hpersist : (routingPersistStaticRoutes env').run t = (.ok 0, t')) :
    ∃ entries, List.Forall₂ (IsExportOf env) entries
        (shownStatic env AF_INET ++ shownStatic env AF_INET6) ∧
      (∀ entry ∈ entries, entry.nextHopAddress ≠ none ∨ entry.outgoingInterface ≠ none) ∧
      (∀ route ∈ ipStatic env, ∀ nh, route.nexthops = [nh] → ∃ name,
        env.links (rtnlRouteNhGetIfindex nh) = some name) ∧
      (staticRoutes t'.table).Perm (entries.map fun entry => stored (entry.added env')) := by
  obtain ⟨hashes, s₁, s₂, hcollect, hstored⟩ := storedEntries_load hnames hlog hopen hload
  obtain ⟨ipv4, hipv4, hperm₄⟩ := hback.ipv4
  obtain ⟨ipv6, hipv6, hperm₆⟩ := hback.ipv6
  rw [hstored.1 (nodup_prefixTexts htexts hcollect (.inl rfl))] at hperm₄
  rw [hstored.2 (nodup_prefixTexts htexts hcollect (.inr rfl))] at hperm₆
  have hentries := List.rel_append (forall₂_hashEntries hcollect (.inl rfl))
    (forall₂_hashEntries hcollect (.inr rfl))
  have hperm := hperm₄.append hperm₆
  have hnextHop := forall_of_persist hipv4 hipv6 hpersist
  have hvalid : ∀ entry ∈ ipv4 ++ ipv6, entry.Valid env' := by
    intro entry hentry
    obtain ⟨route, hroute, hexport⟩ := exists_of_forall₂_left hentries (hperm.subset hentry)
    exact (valid_of_isExportOf htexts (mem_of_shown hroute) hexport (hnextHop entry hentry)).1
  have hdsts : ((ipv4 ++ ipv6).map (StaticRouteEntry.dst env')).Nodup := by
    refine (hperm.map _).nodup_iff.mpr ?_
    have hshown := map_dst_of_exports htexts (fun _ => mem_of_shown) hentries
    exact hshown ▸ nodup_dst_shown hfamily
  refine ⟨_, hentries, fun entry hentry => hnextHop entry (hperm.symm.subset hentry),
    fun route hroute nh => links_of_run hcollect hroute, ?_⟩
  exact (staticRoutes_persist hkernel hipv4 hipv6 hvalid hdsts hempty hpersist).trans (hperm.map _)

/-- A restart brings all static routes back, and no others, exactly when each
is plain and no two of a family share a destination. -/
theorem restores_iff (hkernel : KeepsNewRoutes env'.toRoutingEnv stored metric)
    (hnames : ProtocolNames env) (htexts : ReadsTexts env env')
    (hfamily : ∀ route ∈ ipStatic env, route.dst.family = route.family)
    (hlog : s.log = []) (hopen : ∀ n < 2, env.lib (s.calls + n) = true)
    (hload : (routingStartupLoadData env).run s = (.ok 0, s')) (hback : GivesBack env' s'.log)
    (hempty : staticRoutes t.table = [])
    (hpersist : (routingPersistStaticRoutes env').run t = (.ok 0, t')) :
    Restores env env' t'.table ↔ (∀ route ∈ ipStatic env, route.Plain metric) ∧
      ∀ af, af = AF_INET ∨ af = AF_INET6 → ((familyStatic env af).map RtnlRoute.dst).Nodup := by
  obtain ⟨entries, hentries, hnextHop, hlinks, hstatic⟩ :=
    entries_of_restart hkernel hnames htexts hfamily hlog hopen hload hback hempty hpersist
  have hshown : (∀ af, af = AF_INET ∨ af = AF_INET6 →
      ((familyStatic env af).map RtnlRoute.dst).Nodup) →
      shownStatic env AF_INET ++ shownStatic env AF_INET6 = ipStatic env := by
    intro hnodup
    rw [shownStatic_of_nodup (hnodup _ (.inl rfl)), shownStatic_of_nodup (hnodup _ (.inr rfl))]
    rfl
  constructor
  · rintro ⟨routes, hperm, hsame⟩
    have hlen : (ipStatic env).length =
        (shownStatic env AF_INET ++ shownStatic env AF_INET6).length := by
      rw [hsame.length_eq, hperm.length_eq, hstatic.length_eq, List.length_map,
        hentries.length_eq]
    have hipv4 := @length_shownStatic_le env AF_INET
    have hipv6 := @length_shownStatic_le env AF_INET6
    rw [ipStatic, List.length_append, List.length_append] at hlen
    have hnodup : ∀ af, af = AF_INET ∨ af = AF_INET6 →
        ((familyStatic env af).map RtnlRoute.dst).Nodup := by
      rintro _ (rfl | rfl)
      · exact nodup_of_length_shownStatic (by omega)
      · exact nodup_of_length_shownStatic (by omega)
    refine ⟨fun route hroute => ?_, hnodup⟩
    rw [hshown hnodup] at hentries
    obtain ⟨own, hown, hexport⟩ := exists_of_forall₂_right hentries hroute
    obtain ⟨-, nh, hnh, -⟩ := valid_of_isExportOf htexts hroute hexport (hnextHop own hown)
    obtain ⟨route', hroute', hsame'⟩ := exists_of_forall₂_left hsame hroute
    obtain ⟨entry, hentry, rfl⟩ := List.mem_map.mp (hstatic.subset (hperm.subset hroute'))
    obtain ⟨origin, horigin, hfrom⟩ := exists_of_forall₂_left hentries hentry
    have hvalid := (valid_of_isExportOf htexts horigin hfrom (hnextHop entry hentry)).1
    have hifindex := ifindex_added htexts horigin (hlinks origin horigin) hfrom
    exact plain_of_sameRoute hkernel hvalid hifindex ⟨nh, hnh⟩ hsame'
  · rintro ⟨hplain, hnodup⟩
    rw [hshown hnodup] at hentries
    refine ⟨entries.map fun entry => stored (entry.added env'), hstatic.symm, ?_⟩
    exact forall₂_sameRoute hkernel htexts (fun _ => id) hlinks hplain hentries

end Restart

/-! ## one route of either family -/

def addr6 (bits prefixLen : Nat) : NlAddr := { family := AF_INET6, bits, prefixLen }

/-- A route to 2001:db8::/32, with the metric of a route sent without one. -/
def ipv6Route : RtnlRoute where
  table := RT_TABLE_MAIN
  family := AF_INET6
  protocol := RTPROT_STATIC
  type := RTN_UNICAST
  scope := 0
  dst := addr6 0x20010db8000000000000000000000000 32
  priority := 1024
  nexthops := [{ ifindex := some 2
                 gateway := some (addr6 0xfe800000000000000000000000000001 128) }]

def bothAddrs : List (String × NlAddr) := sampleAddrs ++ [
  ("2001:db8::/32", addr6 0x20010db8000000000000000000000000 32),
  ("fe80::1", addr6 0xfe800000000000000000000000000001 128)]

/-- The metric an IPv6 route gets that is sent without one. -/
def ipv6Metric (family : Nat) : Nat := if family = AF_INET6 then 1024 else 0

/-- A kernel that fills in the metric. -/
def withMetric (route : RtnlRoute) : RtnlRoute :=
  { route with
    priority := if route.priority = 0 then ipv6Metric route.dst.family else route.priority }

/-- Before the restart. -/
def bothEnv : RoutingEnv :=
  { sampleEnv with
    routes := [tableRoute RT_TABLE_MAIN, ipv6Route]
    nlAddrParse := fun text => (bothAddrs.find? fun a => a.1 = text).map Prod.snd
    nlAddr2str := fun addr => ((bothAddrs.find? fun a => a.2 = addr).map Prod.fst).getD "none" }

def ipv6Entry : StaticRouteEntry where
  destinationPrefix := "2001:db8::/32"
  nextHopAddress := some "fe80::1"
  outgoingInterface := some "eth0"

/-- After the restart. -/
def rebootEnv : PersistEnv :=
  { bothEnv with
    routes := []
    carryOut := keepAs withMetric
    srGetSubtree := fun path =>
      some (if path = ipv4AugmentPath then [gatewayEntry]
        else if path = ipv6AugmentPath then [ipv6Entry] else [])
    ifNametoindex := fun name => if name = "eth0" then 2 else 0 }

theorem protocolNames_bothEnv : ProtocolNames bothEnv where
  static := rfl
  others proto h := by
    have hname : bothEnv.proto2str proto = "kernel" := if_neg h
    rw [hname]
    rfl

theorem ipStatic_bothEnv : ipStatic bothEnv = [tableRoute RT_TABLE_MAIN, ipv6Route] := rfl

theorem readsTexts_bothEnv : ReadsTexts bothEnv rebootEnv where
  dst := by
    rw [ipStatic_bothEnv]
    decide +kernel
  gateway route hroute nh hnh gateway hgateway := by
    have htexts : ∀ route ∈ [tableRoute RT_TABLE_MAIN, ipv6Route], ∀ nh ∈ route.nexthops,
        ∀ gateway ∈ nh.gateway, rebootEnv.nlAddrParse (bothEnv.nlAddr2str gateway) =
          some gateway := by decide +kernel
    exact htexts route (ipStatic_bothEnv ▸ hroute) nh hnh gateway hgateway
  interface route hroute nh hnh name hname := by
    have hindex : ∀ route ∈ [tableRoute RT_TABLE_MAIN, ipv6Route], ∀ nh ∈ route.nexthops,
        ∀ name ∈ bothEnv.links (rtnlRouteNhGetIfindex nh), rebootEnv.ifNametoindex name ≠ 0 := by
      decide +kernel
    exact hindex route (ipStatic_bothEnv ▸ hroute) nh hnh name hname

/-- It keeps no IPv6 route without a metric. -/
theorem keepsNewRoutes_rebootEnv :
    KeepsNewRoutes rebootEnv.toRoutingEnv withMetric ipv6Metric where
  add table route hstatic _ :=
    .of_eq ((carriesOut_keepAs rfl fun _ => ⟨rfl, rfl, rfl⟩ :
      CarriesOut rebootEnv.toRoutingEnv withMetric).add table route hstatic)
  dst _ := rfl
  nexthops _ _ := rfl
  metric _ hunset := if_pos hunset

/-- A route of either family is there again after a restart. -/
theorem restores_bothEnv :
    ∃ s t, (routingStartupLoadData bothEnv).run {} = (.ok 0, s) ∧
      (routingPersistStaticRoutes rebootEnv).run {} = (.ok 0, t) ∧
      Restores bothEnv rebootEnv t.table := by
  have hload : ((routingStartupLoadData bothEnv).run {}).1 = .ok 0 := by decide +kernel
  have hpersist : ((routingPersistStaticRoutes rebootEnv).run {}).1 = .ok 0 := by decide +kernel
  have hipv4 : storedEntries (familyNode "ipv4") ((routingStartupLoadData bothEnv).run {}).2.log =
      [gatewayEntry] := by decide +kernel
  have hipv6 : storedEntries (familyNode "ipv6") ((routingStartupLoadData bothEnv).run {}).2.log =
      [ipv6Entry] := by decide +kernel
  have hpaths : rebootEnv.srGetSubtree ipv4AugmentPath = some [gatewayEntry] ∧
      rebootEnv.srGetSubtree ipv6AugmentPath = some [ipv6Entry] := by decide +kernel
  have hback : GivesBack rebootEnv ((routingStartupLoadData bothEnv).run {}).2.log :=
    ⟨⟨_, hpaths.1, by rw [hipv4]⟩, ⟨_, hpaths.2, by rw [hipv6]⟩⟩
  have hfamily : ∀ route ∈ ipStatic bothEnv, route.dst.family = route.family := by
    rw [ipStatic_bothEnv]
    decide
  refine ⟨_, _, Prog.run_eq_of_fst hload, Prog.run_eq_of_fst hpersist, ?_⟩
  refine (restores_iff keepsNewRoutes_rebootEnv protocolNames_bothEnv readsTexts_bothEnv hfamily rfl
    (fun _ _ => rfl) (Prog.run_eq_of_fst hload) hback rfl
    (Prog.run_eq_of_fst hpersist)).mpr ⟨?_, ?_⟩
  · intro route hroute
    rw [ipStatic_bothEnv] at hroute
    rcases List.mem_cons.mp hroute with rfl | hroute
    · exact ⟨rfl, rfl, _, _, rfl, rfl⟩
    · rw [List.mem_singleton.mp hroute]
      exact ⟨rfl, rfl, _, _, rfl, rfl⟩
  · rintro _ (rfl | rfl)
    · exact List.nodup_singleton _
    · exact List.nodup_singleton _

end SysrepoInterfaces.Routing
