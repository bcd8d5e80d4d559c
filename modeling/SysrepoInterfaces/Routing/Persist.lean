import SysrepoInterfaces.Routing.Apply

/-!
# SysrepoInterfaces.Routing.Persist

`routing/persist.c`: when the plugin starts, the static routes of the running
datastore are gathered in a route hash and added to the kernel.  A next hop
gets the kind `simple` with its gateway; one with an interface alone stays of
no kind, and nothing of it is sent.
-/

namespace SysrepoInterfaces.Routing

open CProg Keyed Requests

/-! ## gathering the routes -/

/-- An entry of a `route` list in the running datastore. -/
structure StaticRouteEntry where
  destinationPrefix : String
  nextHopAddress : Option String := none
  outgoingInterface : Option String := none
deriving DecidableEq, Repr

structure PersistEnv extends RoutingEnv where
  /-- `sr_get_subtree`: the entries of a container, if it is there -/
  srGetSubtree : String → Option (List StaticRouteEntry)
  /-- `if_nametoindex` -/
  ifNametoindex : String → Nat

/-- The local variables of `gather_static_routes`. -/
structure GatherVars where
  routesHead : List RouteListHashElement
  /-- `gateway` points to an address that was given back -/
  gatewayFreed : Bool := false
  error : Int := 0
deriving DecidableEq

/-- The code of an address that cannot be parsed. -/
def nlParseError : Int := -1

/-- The next hop of an entry gets its gateway.  The result of `nl_addr_parse` is
not looked at: on a failure `gateway` keeps its value. -/
def gatherGateway (env : PersistEnv) (entry : StaticRouteEntry) (v : GatherVars)
    (nextHop : RouteNextHop) : Exit (GatherVars × RouteNextHop) :=
  match entry.nextHopAddress with
  | none => .ok (v, nextHop)
  | some text =>
      match env.nlAddrParse text with
      | some gateway =>
          .ok ({ v with gatewayFreed := true, error := 0 },
            routeNextHopSetSimpleGateway nextHop (some gateway))
      | none =>
          if v.gatewayFreed then .crash
          else .ok ({ v with error := nlParseError }, routeNextHopSetSimpleGateway nextHop none)

/-- The next hop of an entry gets its interface. -/
def gatherInterface (env : PersistEnv) (entry : StaticRouteEntry) (nextHop : RouteNextHop) :
    Exit RouteNextHop :=
  match entry.outgoingInterface with
  | none => .ok nextHop
  | some name => routeNextHopSetSimpleInterface nextHop (env.ifNametoindex name) (some name)

/-- The first route of the list found under a prefix gets a next hop. -/
def setHeadNextHop (head : List RouteListHashElement) (pfx : NlAddr) (nextHop : RouteNextHop) :
    List RouteListHashElement :=
  adjust RouteListHashElement.pfx pfx (fun e =>
    { e with routesHead := modifyHead (fun route => { route with nextHop }) e.routesHead }) head

/-- One round of the loop in `gather_static_routes`. -/
def gatherEntry (env : PersistEnv) (v : GatherVars) (entry : StaticRouteEntry) : Exit GatherVars :=
  if entry.nextHopAddress = none ∧ entry.outgoingInterface = none then .error
  else match env.nlAddrParse entry.destinationPrefix with
    -- `prefix` is NULL, or the address of an earlier round that was given back
    | none => .crash
    | some pfx => do
        let routesHead ← routeListHashAdd v.routesHead pfx {}
        let v := { v with routesHead, error := 0 }
        match routeListHashGet routesHead pfx with
        | some (route :: _) => do
            let (v, nextHop) ← gatherGateway env entry v route.nextHop
            let nextHop ← gatherInterface env entry nextHop
            return { v with routesHead := setHeadNextHop v.routesHead pfx nextHop }
        | _ => .crash

/-- `gather_static_routes`; a code that is not 0 leads to `error_out`. -/
def gatherStaticRoutes (env : PersistEnv) (routesHead : List RouteListHashElement)
    (augmentPath : String) : RoutingM (List RouteListHashElement) :=
  match env.srGetSubtree augmentPath with
  | some entries => do
      let v ← Prog.lift (entries.foldlM (gatherEntry env) { routesHead })
      if v.error ≠ 0 then Prog.fail else return v.routesHead
  -- the tree of a subtree that was not found is read
  | none => Prog.lift .crash

def staticRoutesContainerYangPath : String :=
  "/ietf-routing:routing/control-plane-protocols/control-plane-protocol" ++
    "[type=\"ietf-routing:static\"][name=\"static\"]/static-routes"

def ipv4AugmentPath : String := staticRoutesContainerYangPath ++ "/ietf-ipv4-unicast-routing:ipv4"

def ipv6AugmentPath : String := staticRoutesContainerYangPath ++ "/ietf-ipv6-unicast-routing:ipv6"

/-- `routing_persist_static_routes`. -/
def routingPersistStaticRoutes (env : PersistEnv) : RoutingM Int :=
  Prog.exitCode (-1) do
    checked env.toRoutingEnv .nlSocketAlloc
    checked env.toRoutingEnv .nlConnect
    let routesHead ← gatherStaticRoutes env [] ipv4AugmentPath
    let routesHead ← gatherStaticRoutes env routesHead ipv6AugmentPath
    (routingApplyNewRoutes env.toRoutingEnv routesHead).require

/-! ## what is gathered -/

/-- An entry whose texts can be parsed and that has a next hop. -/
structure StaticRouteEntry.Valid (env : PersistEnv) (entry : StaticRouteEntry) : Prop where
  pfx : (env.nlAddrParse entry.destinationPrefix).isSome
  gateway : ∀ text, entry.nextHopAddress = some text → (env.nlAddrParse text).isSome
  nextHop : entry.nextHopAddress ≠ none ∨ entry.outgoingInterface ≠ none

/-- The next hop gathered for an entry: its kind depends on the gateway alone. -/
def StaticRouteEntry.nextHop (env : PersistEnv) (entry : StaticRouteEntry) : RouteNextHop where
  kind := if entry.nextHopAddress.isSome then .simple else .none
  simple := {
    addr := entry.nextHopAddress.bind env.nlAddrParse
    ifindex := (entry.outgoingInterface.map env.ifNametoindex).getD 0
    ifName := entry.outgoingInterface }

theorem setHeadNextHop_push (head : List RouteListHashElement) (pfx : NlAddr) (route : Route)
    (nextHop : RouteNextHop) :
    setHeadNextHop (routeListHashPush head pfx route) pfx nextHop =
      routeListHashPush head pfx { route with nextHop } := by
  unfold setHeadNextHop routeListHashPush routeListHashGet
  cases hlookup : lookup RouteListHashElement.pfx pfx head with
  | some e =>
      simp only [Option.map_some]
      rw [adjust_adjust (by intro e; rfl)]
      rfl
  | none =>
      have hnot : pfx ∉ head.map RouteListHashElement.pfx := lookup_eq_none_iff.mp hlookup
      simp only [Option.map_none]
      rw [adjust_append_of_not_mem _ hnot]
      simp [adjust, modifyHead]

/-- The prefix of an entry, where it can be parsed. -/
def StaticRouteEntry.dst (env : PersistEnv) (entry : StaticRouteEntry) : NlAddr :=
  (env.nlAddrParse entry.destinationPrefix).getD { family := AF_UNSPEC, bits := 0, prefixLen := 0 }

theorem StaticRouteEntry.Valid.parse {env : PersistEnv} {entry : StaticRouteEntry}
    (h : entry.Valid env) : env.nlAddrParse entry.destinationPrefix = some (entry.dst env) := by
  obtain ⟨pfx, hpfx⟩ := Option.isSome_iff_exists.mp h.pfx
  simp [dst, hpfx]

/-- The prefix and the route gathered for an entry. -/
def StaticRouteEntry.gathered (env : PersistEnv) (entry : StaticRouteEntry) : NlAddr × Route :=
  (entry.dst env, { nextHop := entry.nextHop env })

/-- A round pushes the route of its entry. -/
theorem gatherEntry_eq {env : PersistEnv} {entry : StaticRouteEntry} (h : entry.Valid env)
    (v : GatherVars) : ∃ freed, gatherEntry env v entry = .ok {
      routesHead := routeListHashPush v.routesHead (entry.dst env) { nextHop := entry.nextHop env }
      gatewayFreed := freed } := by
  have hnot : ¬ (entry.nextHopAddress = none ∧ entry.outgoingInterface = none) := by
    have hnextHop := h.nextHop
    tauto
  obtain ⟨e, hlookup, hroutes⟩ := lookup_routeListHashPush v.routesHead (entry.dst env) {}
  have hget : routeListHashGet (routeListHashPush v.routesHead (entry.dst env) {}) (entry.dst env) =
      some ({} :: (routeListHashGet v.routesHead (entry.dst env)).getD []) := by
    rw [routeListHashGet, hlookup, Option.map_some, hroutes]
  have hadd : routeListHashAdd v.routesHead (entry.dst env) {} =
      .ok (routeListHashPush v.routesHead (entry.dst env) {}) := by
    rw [routeListHashAdd_eq, routeClone_zero]
    rfl
  have hhop := setHeadNextHop_push v.routesHead (entry.dst env) {}
  refine ⟨v.gatewayFreed || entry.nextHopAddress.isSome, ?_⟩
  unfold gatherEntry
  rw [if_neg hnot, h.parse]
  simp only [hadd, Exit.ok_bind, hget]
  unfold gatherGateway gatherInterface StaticRouteEntry.nextHop
  cases haddress : entry.nextHopAddress with
  | none =>
      cases hinterface : entry.outgoingInterface with
      | none => exact absurd ⟨haddress, hinterface⟩ hnot
      | some name => simp [routeNextHopSetSimpleInterface, hhop]
  | some text =>
      obtain ⟨gateway, hgateway⟩ := Option.isSome_iff_exists.mp (h.gateway text haddress)
      cases hinterface : entry.outgoingInterface with
      | none => simp [hgateway, routeNextHopSetSimpleGateway, hhop]
      | some name =>
          simp [hgateway, routeNextHopSetSimpleGateway, routeNextHopSetSimpleInterface, hhop]

/-- The loop pushes the routes of its entries. -/
theorem gather_foldlM {env : PersistEnv} {entries : List StaticRouteEntry}
    (h : ∀ entry ∈ entries, entry.Valid env) (v : GatherVars) (herror : v.error = 0) :
    ∃ v', entries.foldlM (gatherEntry env) v = .ok v' ∧ v'.error = 0 ∧
      (Multimap.pairs (toMultimap v'.routesHead)).Perm
        (entries.map (StaticRouteEntry.gathered env) ++
          Multimap.pairs (toMultimap v.routesHead)) := by
  induction entries generalizing v with
  | nil => exact ⟨v, rfl, herror, List.Perm.refl _⟩
  | cons entry entries ih =>
      obtain ⟨freed, hentry⟩ := gatherEntry_eq (h entry List.mem_cons_self) v
      obtain ⟨v', hloop, herror', hperm⟩ :=
        ih (fun e he => h e (List.mem_cons_of_mem _ he)) {
          routesHead :=
            routeListHashPush v.routesHead (entry.dst env) { nextHop := entry.nextHop env }
          gatewayFreed := freed } rfl
      refine ⟨v', ?_, herror', ?_⟩
      · rw [List.foldlM_cons, hentry]
        exact hloop
      · have hpush := Multimap.pairs_push (k := entry.dst env)
          (v := ({ nextHop := entry.nextHop env } : Route)) (m := toMultimap v.routesHead)
        rw [toMultimap_push] at hperm
        exact hperm.trans ((hpush.append_left _).trans List.perm_middle)

/-- A family adds the routes of its entries. -/
theorem gatherStaticRoutes_eq {env : PersistEnv} {entries : List StaticRouteEntry} {path : String}
    (hpath : env.srGetSubtree path = some entries) (h : ∀ entry ∈ entries, entry.Valid env)
    (routesHead : List RouteListHashElement) :
    ∃ routesHead', (∀ s, (gatherStaticRoutes env routesHead path).run s = (.ok routesHead', s)) ∧
      (Multimap.pairs (toMultimap routesHead')).Perm
        (entries.map (StaticRouteEntry.gathered env) ++
          Multimap.pairs (toMultimap routesHead)) := by
  obtain ⟨v, hloop, herror, hperm⟩ := gather_foldlM h { routesHead } rfl
  refine ⟨v.routesHead, fun s => ?_, hperm⟩
  unfold gatherStaticRoutes
  rw [hpath]
  simp [hloop, Prog.run_bind, herror]

/-! ## what is sent -/

/-- The route added for an entry. -/
def StaticRouteEntry.added (env : PersistEnv) (entry : StaticRouteEntry) : RtnlRoute :=
  newRoute env.toRoutingEnv (entry.dst env) { nextHop := entry.nextHop env }

theorem follows_routingApplyNewRoutes (env : RoutingEnv) (routesHash : List RouteListHashElement) :
    (kernel env).Follows (routingApplyNewRoutes env routesHash).require
      ((Multimap.pairs (toMultimap routesHash)).map fun pair =>
        .routeAdd (newRoute env pair.1 pair.2)) := by
  have hplan : ((Multimap.pairs (toMultimap routesHash)).map fun pair =>
        Request.routeAdd (newRoute env pair.1 pair.2)) =
      routesHash.flatMap fun e => e.routesHead.map fun r => .routeAdd (newRoute env e.pfx r) := by
    simp only [Multimap.pairs, toMultimap, List.flatMap_map, List.map_flatMap, List.map_map]
    rfl
  have hloop := Link.follows_forM (fun e : RouteListHashElement =>
    Link.follows_forM (follows_applyNewRoute env e.pfx) e.routesHead) routesHash
  simp only [← List.map_eq_flatMap] at hloop
  rw [hplan, routingApplyNewRoutes, Prog.require_exitCode (by decide)]
  exact hloop

section Persist

variable {env : PersistEnv} {ipv4 ipv6 : List StaticRouteEntry} {s s' : RoutingState}

/-- The requests of a run that returns 0 are those for the entries, in the order
of the hash. -/
theorem persist_sends (hipv4 : env.srGetSubtree ipv4AugmentPath = some ipv4)
    (hipv6 : env.srGetSubtree ipv6AugmentPath = some ipv6)
    (h : ∀ entry ∈ ipv4 ++ ipv6, entry.Valid env)
    (hrun : (routingPersistStaticRoutes env).run s = (.ok 0, s')) :
    ∃ new, s'.sent = s.sent ++ new ∧ (∀ x ∈ new, x.2 = 0) ∧
      (new.map Prod.fst).Perm
        ((ipv4 ++ ipv6).map fun entry => .routeAdd (entry.added env)) := by
  obtain ⟨head₄, hrun₄, hperm₄⟩ := gatherStaticRoutes_eq hipv4
    (fun e he => h e (List.mem_append_left _ he)) []
  obtain ⟨head₆, hrun₆, hperm₆⟩ := gatherStaticRoutes_eq hipv6
    (fun e he => h e (List.mem_append_right _ he)) head₄
  have hfollows : (kernel env.toRoutingEnv).Follows (do
      checked env.toRoutingEnv .nlSocketAlloc
      checked env.toRoutingEnv .nlConnect
      let routesHead ← gatherStaticRoutes env [] ipv4AugmentPath
      let routesHead ← gatherStaticRoutes env routesHead ipv6AugmentPath
      (routingApplyNewRoutes env.toRoutingEnv routesHead).require)
      ((Multimap.pairs (toMultimap head₆)).map fun pair =>
        .routeAdd (newRoute env.toRoutingEnv pair.1 pair.2)) := by
    have hquiet₄ : (kernel env.toRoutingEnv).Quiet (gatherStaticRoutes env [] ipv4AugmentPath) := by
      intro s
      rw [hrun₄]
      exact ⟨rfl, rfl⟩
    have hquiet₆ : (kernel env.toRoutingEnv).Quiet
        (gatherStaticRoutes env head₄ ipv6AugmentPath) := by
      intro s
      rw [hrun₆]
      exact ⟨rfl, rfl⟩
    refine (quiet_checked env.toRoutingEnv _).follows_nil.bind fun _ _ _ _ => ?_
    refine (quiet_checked env.toRoutingEnv _).follows_nil.bind fun _ _ _ _ => ?_
    refine hquiet₄.follows_nil.bind fun s head _ hhead => ?_
    obtain rfl : head₄ = head := by
      rw [hrun₄] at hhead
      exact Exit.ok.inj (Prod.mk.inj hhead).1
    refine hquiet₆.follows_nil.bind fun s head _ hhead => ?_
    obtain rfl : head₆ = head := by
      rw [hrun₆] at hhead
      exact Exit.ok.inj (Prod.mk.inj hhead).1
    exact follows_routingApplyNewRoutes env.toRoutingEnv head₆
  obtain ⟨new, hnew, hsent, -⟩ :=
    hfollows.of_ok trivial ((Prog.exitCode_eq_zero (by decide)).mp hrun)
  refine ⟨new, hsent.1, hnew.2, ?_⟩
  have hplan : new.map Prod.fst = (Multimap.pairs (toMultimap head₆)).map fun pair =>
      .routeAdd (newRoute env.toRoutingEnv pair.1 pair.2) := hnew.1
  have hnil : Multimap.pairs (toMultimap []) = [] := rfl
  have hpairs : (Multimap.pairs (toMultimap head₆)).Perm
      ((ipv4 ++ ipv6).map (StaticRouteEntry.gathered env)) := by
    rw [hnil, List.append_nil] at hperm₄
    rw [List.map_append]
    exact hperm₆.trans ((hperm₄.append_left _).trans List.perm_append_comm)
  have hrequests := hpairs.map fun pair => Request.routeAdd
      (newRoute env.toRoutingEnv pair.1 pair.2)
  rw [List.map_map] at hrequests
  rw [hplan]
  exact hrequests

end Persist

/-! ## the configured routes -/

/-- The route is the one of an entry: a static one of the main table, with one
next hop. -/
structure IsEntryRoute (env : PersistEnv) (entry : StaticRouteEntry) (route : RtnlRoute) :
    Prop where
  table : route.table = RT_TABLE_MAIN
  protocol : route.protocol = RTPROT_STATIC
  dst : env.nlAddrParse entry.destinationPrefix = some route.dst
  nexthop : ∃ nexthop, route.nexthops = [nexthop] ∧
    (∀ text, entry.nextHopAddress = some text → nexthop.gateway = env.nlAddrParse text) ∧
    ∀ name, entry.outgoingInterface = some name → nexthop.ifindex = some (env.ifNametoindex name)

/-- The requests sent are one add per entry, in any order. -/
def ReplaysEntries (env : PersistEnv) (entries : List StaticRouteEntry)
    (sent : List (Request × Int)) : Prop :=
  ∃ routes, (sent.map Prod.fst).Perm (routes.map Request.routeAdd) ∧
    List.Forall₂ (IsEntryRoute env) entries routes

section Replays

variable {env : PersistEnv} {entry : StaticRouteEntry} {ipv4 ipv6 : List StaticRouteEntry}
  {s s' : RoutingState}

theorem nexthops_added_of_none (h : entry.nextHopAddress = none) :
    (entry.added env).nexthops = [] := by
  simp [StaticRouteEntry.added, newRoute, requestNexthops, StaticRouteEntry.nextHop, h]

theorem nexthops_added_of_some {text : String} (h : entry.nextHopAddress = some text) :
    (entry.added env).nexthops = [{
      ifindex := entry.outgoingInterface.map env.ifNametoindex
      gateway := env.nlAddrParse text }] := by
  cases hinterface : entry.outgoingInterface <;>
    simp [StaticRouteEntry.added, newRoute, requestNexthops, StaticRouteEntry.nextHop, h,
      hinterface]

theorem isEntryRoute_added (h : entry.Valid env) (hgateway : entry.nextHopAddress.isSome) :
    IsEntryRoute env entry (entry.added env) := by
  obtain ⟨text, htext⟩ := Option.isSome_iff_exists.mp hgateway
  refine ⟨rfl, rfl, h.parse, _, nexthops_added_of_some htext, ?_, ?_⟩
  · intro text' htext'
    rw [Option.some.inj (htext.symm.trans htext')]
  · intro name hname
    simp [hname]

theorem nexthops_ne_nil {entries : List StaticRouteEntry} {routes : List RtnlRoute}
    (h : List.Forall₂ (IsEntryRoute env) entries routes) :
    ∀ route ∈ routes, route.nexthops ≠ [] := by
  induction h with
  | nil => simp
  | cons hroute _ ih =>
      obtain ⟨nexthop, hnexthop, -⟩ := hroute.nexthop
      simpa [hnexthop] using ih

/-- Of the requests for the entries, those with a gateway carry a next hop. -/
theorem replaysEntries_iff {entries : List StaticRouteEntry} {new : List (Request × Int)}
    (h : ∀ entry ∈ entries, entry.Valid env)
    (hnew : (new.map Prod.fst).Perm (entries.map fun entry => .routeAdd (entry.added env))) :
    ReplaysEntries env entries new ↔ ∀ entry ∈ entries, entry.nextHopAddress.isSome := by
  constructor
  · intro ⟨routes, hrequests, hroutes⟩ entry hentry
    by_contra hnone
    have hadded : Request.routeAdd (entry.added env) ∈ routes.map Request.routeAdd :=
      (hnew.symm.trans hrequests).subset (List.mem_map_of_mem hentry)
    obtain ⟨route, hroute, heq⟩ := List.mem_map.mp hadded
    have hempty := @nexthops_added_of_none env entry (by simpa using hnone)
    rw [← Request.routeAdd.inj heq] at hempty
    exact nexthops_ne_nil hroutes route hroute hempty
  · intro hgateways
    refine ⟨entries.map (StaticRouteEntry.added env), ?_, ?_⟩
    · rwa [List.map_map]
    · rw [List.forall₂_map_right_iff, List.forall₂_same]
      exact fun entry hentry => isEntryRoute_added (h entry hentry) (hgateways entry hentry)

/-- Persisting replays every configured route exactly when each has a gateway. -/
theorem persist_replays_iff (hipv4 : env.srGetSubtree ipv4AugmentPath = some ipv4)
    (hipv6 : env.srGetSubtree ipv6AugmentPath = some ipv6)
    (h : ∀ entry ∈ ipv4 ++ ipv6, entry.Valid env)
    (hrun : (routingPersistStaticRoutes env).run s = (.ok 0, s')) :
    ∃ new, s'.sent = s.sent ++ new ∧
      (ReplaysEntries env (ipv4 ++ ipv6) new ↔
        ∀ entry ∈ ipv4 ++ ipv6, entry.nextHopAddress.isSome) := by
  obtain ⟨new, hsent, -, hperm⟩ := persist_sends hipv4 hipv6 h hrun
  exact ⟨new, hsent, replaysEntries_iff h hperm⟩

end Replays

/-! ## one route -/

/-- A world whose running datastore has some IPv4 routes. -/
def persistEnv (entries : List StaticRouteEntry) : PersistEnv :=
  { sampleEnv with
    srGetSubtree := fun path => some (if path = ipv4AugmentPath then entries else [])
    ifNametoindex := fun name => if name = "eth0" then 2 else 0 }

/-- A route through an interface and a gateway. -/
def gatewayEntry : StaticRouteEntry where
  destinationPrefix := "10.0.0.0/8"
  nextHopAddress := some "192.0.2.1"
  outgoingInterface := some "eth0"

/-- A route through an interface. -/
def interfaceEntry : StaticRouteEntry where
  destinationPrefix := "10.0.0.0/8"
  outgoingInterface := some "eth0"

/-- A route to another prefix through the same gateway. -/
def sharedGatewayEntry : StaticRouteEntry where
  destinationPrefix := "172.16.0.0/12"
  nextHopAddress := some "192.0.2.1"

theorem valid_gatewayEntry (entries : List StaticRouteEntry) :
    gatewayEntry.Valid (persistEnv entries) where
  pfx := rfl
  gateway text h := by
    obtain rfl : "192.0.2.1" = text := Option.some.inj h
    rfl
  nextHop := .inl (by decide)

theorem valid_sharedGatewayEntry (entries : List StaticRouteEntry) :
    sharedGatewayEntry.Valid (persistEnv entries) where
  pfx := rfl
  gateway text h := by
    obtain rfl : "192.0.2.1" = text := Option.some.inj h
    rfl
  nextHop := .inl (by decide)

theorem valid_interfaceEntry : interfaceEntry.Valid (persistEnv [interfaceEntry]) where
  pfx := by decide
  gateway text h := by cases h
  nextHop := by decide

theorem srGetSubtree_ipv4 (entries : List StaticRouteEntry) :
    (persistEnv entries).srGetSubtree ipv4AugmentPath = some entries := by simp [persistEnv]

theorem srGetSubtree_ipv6 (entries : List StaticRouteEntry) :
    (persistEnv entries).srGetSubtree ipv6AugmentPath = some [] := by
  have hne : ipv6AugmentPath ≠ ipv4AugmentPath := by decide +kernel
  simp [persistEnv, hne]

theorem run_interfaceEntry :
    ∃ s, (routingPersistStaticRoutes (persistEnv [interfaceEntry])).run {} = (.ok 0, s) ∧
      s.sent = [(.routeAdd (interfaceEntry.added (persistEnv [interfaceEntry])), 0)] := by
  have hzero : ((routingPersistStaticRoutes (persistEnv [interfaceEntry])).run {}).1 = .ok 0 := by
    decide +kernel
  have hsent : ((routingPersistStaticRoutes (persistEnv [interfaceEntry])).run {}).2.sent =
      [(.routeAdd (interfaceEntry.added (persistEnv [interfaceEntry])), 0)] := by decide +kernel
  exact ⟨_, Prog.run_eq_of_fst hzero, hsent⟩

theorem persist_replays_gatewayEntry :
    ∃ s', (routingPersistStaticRoutes (persistEnv [gatewayEntry, sharedGatewayEntry])).run {} =
        (.ok 0, s') ∧
      ReplaysEntries (persistEnv [gatewayEntry, sharedGatewayEntry])
        [gatewayEntry, sharedGatewayEntry] s'.sent := by
  have hzero : ((routingPersistStaticRoutes
      (persistEnv [gatewayEntry, sharedGatewayEntry])).run {}).1 = .ok 0 := by decide +kernel
  have hvalid : ∀ entry ∈ [gatewayEntry, sharedGatewayEntry] ++ [],
      entry.Valid (persistEnv [gatewayEntry, sharedGatewayEntry]) := by
    intro entry hentry
    rcases List.mem_cons.mp hentry with rfl | hentry
    · exact valid_gatewayEntry _
    · rw [List.mem_singleton.mp hentry]
      exact valid_sharedGatewayEntry _
  obtain ⟨new, hsent, hreplays⟩ := persist_replays_iff (srGetSubtree_ipv4 _) (srGetSubtree_ipv6 _)
    hvalid (Prog.run_eq_of_fst hzero)
  refine ⟨_, Prog.run_eq_of_fst hzero, ?_⟩
  rw [hsent]
  exact hreplays.mpr (by decide)

/-- A route through an interface alone is added without its next hop. -/
theorem interfaceEntry_without_nexthop :
    ∃ s, (routingPersistStaticRoutes (persistEnv [interfaceEntry])).run {} = (.ok 0, s) ∧
      ¬ ReplaysEntries (persistEnv [interfaceEntry]) [interfaceEntry] s.sent := by
  obtain ⟨s, hrun, hsent⟩ := run_interfaceEntry
  refine ⟨s, hrun, ?_⟩
  have hvalid : ∀ entry ∈ [interfaceEntry], entry.Valid (persistEnv [interfaceEntry]) := by
    simpa using valid_interfaceEntry
  rw [hsent, replaysEntries_iff hvalid (List.Perm.refl _)]
  decide

end SysrepoInterfaces.Routing
