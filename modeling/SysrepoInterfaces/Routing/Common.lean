import SysrepoInterfaces.Routing.Env

/-!
# SysrepoInterfaces.Routing.Common

`routing/common.c`: collecting the kernel's routes into RIBs, and sending the
batches of new and deleted static routes to the kernel.
-/

namespace SysrepoInterfaces.Routing

open CProg

/-- `strncmp(s, p, strlen(p)) == 0`. -/
def strPrefix (p s : String) : Bool := p.toList.isPrefixOf s.toList

/-! ## collecting RIBs -/

def routingIsRibKnown (table : Int) : Bool :=
  table = RT_TABLE_DEFAULT || table = RT_TABLE_LOCAL || table = RT_TABLE_MAIN

/-- `default_descriptions`. -/
def defaultDescriptions : List (String × String) := [
  ("ipv4-main", "main routing table - normal routing table containing all non-policy routes (ipv4 only)"),
  ("ipv6-main", "main routing table - normal routing table containing all non-policy routes (ipv6 only)"),
  ("ipv4-default", "default routing table - empty and reserved for post-processing if previous default rules did not select the packet (ipv4 only)"),
  ("ipv6-default", "default routing table - empty and reserved for post-processing if previous default rules did not select the packet (ipv6 only)"),
  ("ipv4-local", "local routing table - maintained by the kernel, containing high priority control routes for local and broadcast addresses (ipv4 only)"),
  ("ipv6-local", "local routing table - maintained by the kernel, containing high priority control routes for local and broadcast addresses (ipv6 only)")]

/-- The family part of a RIB's name: everything but IPv4 is called ipv6. -/
def ribFamilyName (af : Nat) : String := if af = AF_INET then "ipv4" else "ipv6"

/-- One round of the loop in `routing_build_rib_descriptions`. -/
def ribBuildDescription (env : RoutingEnv) (rib : Rib) : Rib :=
  let nameBuffer :=
    if routingIsRibKnown (env.str2table rib.name.text) then
      ribFamilyName rib.addressFamily ++ "-" ++ rib.name.text
    else rib.name.text
  match defaultDescriptions.find? fun pair => strPrefix nameBuffer pair.1 with
  | some pair => { rib with description := pair.2 }
  | none => rib

def routingBuildRibDescriptions (env : RoutingEnv) (ribsHead : List Rib) : Int × List Rib :=
  (0, ribsHead.map (ribBuildDescription env))

/-- One round of the loop in `routing_collect_ribs`. -/
def collectRib (env : RoutingEnv) (ribsHead : List Rib) (route : RtnlRoute) : List Rib :=
  let tableBuffer := env.table2str route.table
  let ribsHead := ribListAdd ribsHead tableBuffer route.family
  if strPrefix "main" tableBuffer.text then
    (ribListSetDefault ribsHead tableBuffer route.family true).2
  else ribsHead

def routingCollectRibs (env : RoutingEnv) (routesCache : List RtnlRoute) (ribsHead : List Rib) :
    Int × List Rib :=
  routingBuildRibDescriptions env (routesCache.foldl (collectRib env) ribsHead)

/-! ## collecting routes -/

/-- `foreach_nexthop`: opens a link cache of its own for every next hop, and
returns with the list as it was when that fails. -/
def foreachNexthop (env : RoutingEnv) (nexthop : RouteNextHop) (nh : RtnlNexthop) :
    RoutingM RouteNextHop := do
  let s ← Prog.get
  Prog.modify fun s => { s with freshRuns := s.freshRuns + 1 }
  if !(← call .nlSocketAlloc (env.fresh s.freshRuns .nlSocketAlloc)) then return nexthop
  if !(← call .nlConnect (env.fresh s.freshRuns .nlConnect)) then return nexthop
  if !(← call .rtnlLinkAllocCache (env.fresh s.freshRuns .rtnlLinkAllocCache)) then return nexthop
  let ifindex := rtnlRouteNhGetIfindex nh
  let ifName ← rtnlLinkGetName env.links ifindex
  Prog.lift (routeNextHopAddList nexthop ifindex (some ifName) nh.gateway)

/-- The next hops of a unicast route: one is simple, any other number goes
through `foreach_nexthop`. -/
def collectNexthops (env : RoutingEnv) (linkCache : LinkCache) (nextHop : RouteNextHop)
    (nexthops : List RtnlNexthop) : RoutingM RouteNextHop :=
  match nexthops with
  | [nh] => do
      let ifindex := rtnlRouteNhGetIfindex nh
      let ifName ← rtnlLinkGetName linkCache ifindex
      Prog.lift (routeNextHopSetSimple nextHop ifindex (some ifName) nh.gateway)
  | nhs => nhs.foldlM (foreachNexthop env) nextHop

/-- The special next hops by route type. -/
def specialNextHop (type : Nat) : Option String :=
  if type = RTN_BLACKHOLE then some "blackhole"
  else if type = RTN_UNREACHABLE then some "unreachable"
  else if type = RTN_PROHIBIT then some "prohibit"
  else if type = RTN_LOCAL then some "local"
  else none

/-- The `next-hop container` part of the route loop in
`routing_collect_routes`. -/
def collectNextHop (env : RoutingEnv) (linkCache : LinkCache) (nextHop : RouteNextHop)
    (route : RtnlRoute) : RoutingM RouteNextHop :=
  match specialNextHop route.type with
  | some value => return routeNextHopSetSpecial nextHop (some value)
  | none => collectNexthops env linkCache nextHop route.nexthops

/-- The body of the route loop in `routing_collect_routes`: `tmp_route` is
filled from the kernel route. -/
def collectRoute (env : RoutingEnv) (linkCache : LinkCache) (tmpRoute : Route)
    (route : RtnlRoute) : RoutingM Route := do
  let tmpRoute := routeSetPreference (routeInit tmpRoute) route.priority
  let nextHop ← collectNextHop env linkCache tmpRoute.nextHop route
  let tmpRoute := { tmpRoute with nextHop := nextHop }
  if route.protocol = RTPROT_STATIC then
    return routeSetSourceProtocol tmpRoute (some "ietf-routing:static")
  else
    return routeSetSourceProtocol tmpRoute (some "ietf-routing:direct")

/-- The route loop of `routing_collect_routes`. -/
def collectRoutesLoop (env : RoutingEnv) (linkCache : LinkCache) :
    List RtnlRoute → Route → List Rib → RoutingM (Int × List Rib)
  | [], _, ribsHead => return (0, ribsHead)
  | route :: routesCache, tmpRoute, ribsHead =>
      let tableBuffer := env.table2str route.table
      match ribListGet ribsHead tableBuffer route.family with
      | none => return (-1, ribsHead)
      | some tmpRib => do
          let tmpRoute ← collectRoute env linkCache tmpRoute route
          let routesHead ← Prog.lift (routeListHashAdd tmpRib.routesHead route.dst tmpRoute)
          collectRoutesLoop env linkCache routesCache (routeFree tmpRoute)
            (ribListUpdate ribsHead tableBuffer route.family
              fun rib => { rib with routesHead := routesHead })

/-- The position of the preferred route: the first of those with the lowest
preference. -/
def prefIndex (routes : List Route) : Nat :=
  match routes with
  | [] => 0
  | first :: _ =>
      (routes.zipIdx.foldl (fun (pref : Nat × Nat) (iter : Route × Nat) =>
        if iter.1.preference < pref.2 then (iter.2, iter.1.preference) else pref)
        (0, first.preference)).1

/-- The preferred route of a list becomes its active one. -/
def markActive (routes : List Route) : List Route :=
  routes.modify (prefIndex routes) fun route => routeSetActive route true

/-- One round of the last loop of `routing_collect_routes`. -/
def markActiveRib (rib : Rib) : Rib :=
  { rib with
    routesHead := rib.routesHead.map fun e => { e with routesHead := markActive e.routesHead } }

def markActiveRoutes (ribsHead : List Rib) : List Rib := ribsHead.map markActiveRib

def routingCollectRoutes (env : RoutingEnv) (routesCache : List RtnlRoute)
    (linkCache : LinkCache) (ribsHead : List Rib) : RoutingM (Int × List Rib) := do
  let (error, ribsHead) := routingCollectRibs env routesCache ribsHead
  if error ≠ 0 then return (error, ribsHead)
  let (error, ribsHead) ← collectRoutesLoop env linkCache routesCache {} ribsHead
  if error ≠ 0 then return (error, ribsHead)
  return (0, markActiveRoutes ribsHead)

/-! ## applying batches -/

/-- `rtnl_route_alloc`, with the values a new object starts from. -/
def rtnlRouteAlloc (dst : NlAddr) : RtnlRoute where
  table := RT_TABLE_MAIN
  family := dst.family
  protocol := RTPROT_STATIC
  type := RTN_UNICAST
  scope := RT_SCOPE_NOWHERE
  dst := dst
  priority := 0
  nexthops := []

/-- The next hops an add request carries. -/
def newRouteNexthops (env : RoutingEnv) (nextHop : RouteNextHop) : RoutingM (List RtnlNexthop) :=
  match nextHop.kind with
  | .simple => do
      checked env .rtnlRouteNhAlloc
      if nextHop.simple.ifName = none ∧ nextHop.simple.addr = none then
        -- outgoing-interface and next-hop-address can't both be NULL
        Prog.fail
      else
        return [{ ifindex := nextHop.simple.ifName.map fun _ => nextHop.simple.ifindex
                  gateway := nextHop.simple.addr }]
  | .list => nextHop.listHead.mapM fun simple => do
      checked env .rtnlRouteNhAlloc
      return { ifindex := some simple.ifindex, gateway := simple.addr }
  | .none => return []
  | .special => return []

/-- One round of the inner loop of `routing_apply_new_routes`. -/
def applyNewRoute (env : RoutingEnv) (pfx : NlAddr) (route : Route) : RoutingM Unit := do
  checked env .rtnlRouteAlloc
  let nexthops ← newRouteNexthops env route.nextHop
  let request := { rtnlRouteAlloc pfx with
    table := RT_TABLE_MAIN, protocol := RTPROT_STATIC, priority := route.preference,
    nexthops := nexthops }
  (send env (.routeAdd { request with scope := env.guessScope request })).require

def routingApplyNewRoutes (env : RoutingEnv) (routesHash : List RouteListHashElement) :
    RoutingM Int :=
  Prog.exitCode (-1) (forM routesHash fun e => forM e.routesHead (applyNewRoute env e.pfx))

/-- A stub in the source. -/
def routingApplyModifyRoutes (_ : List RouteListHashElement) : RoutingM Int := return 0

/-- One round of the inner loop of `routing_apply_delete_routes`. -/
def applyDeleteRoute (env : RoutingEnv) (pfx : NlAddr) (route : Route) : RoutingM Unit := do
  checked env .rtnlRouteAlloc
  (send env (.routeDelete { rtnlRouteAlloc pfx with
    table := RT_TABLE_MAIN, protocol := RTPROT_STATIC, priority := route.preference,
    scope := RT_SCOPE_NOWHERE })).require

def routingApplyDeleteRoutes (env : RoutingEnv) (routesHash : List RouteListHashElement) :
    RoutingM Int :=
  Prog.exitCode (-1) (forM routesHash fun e => forM e.routesHead (applyDeleteRoute env e.pfx))

end SysrepoInterfaces.Routing
