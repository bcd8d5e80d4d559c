import SysrepoInterfaces.Routing.Operational
import SysrepoInterfaces.Routing.Nexthops
import SysrepoInterfaces.Routing.RouteOwnership

/-!
# SysrepoInterfaces.Routing.CollectHeap

A request for the kernel's routes, with the memory it takes:
`foreach_nexthop`, `routing_collect_ribs` and `routing_collect_routes` of
`routing/common.c`, and `routing_oper_get_rib_routes_cb` with what stands under
its `out` label.
-/

namespace SysrepoInterfaces.Routing.Owned

open CProg Ownership

/-! ## collecting RIBs -/

def ribBuildDescription (env : RoutingEnv) (rib : Ptr Rib) : Ptr Rib :=
  { rib with val := { rib.val with
      description := (Routing.ribBuildDescription env (ribValue rib)).description } }

/-- One round of the loop in `routing_collect_ribs`. -/
def collectRib (env : RoutingEnv) (ribsHead : List (Ptr Rib)) (route : RtnlRoute) :
    OwnedM (List (Ptr Rib)) := do
  let tableBuffer := env.table2str route.table
  let ribsHead ← ribListAdd ribsHead tableBuffer route.family
  if strPrefix "main" tableBuffer.text then
    return (ribListSetDefault ribsHead tableBuffer route.family true).2
  else return ribsHead

def routingCollectRibs (env : RoutingEnv) (routesCache : List RtnlRoute)
    (ribsHead : List (Ptr Rib)) : OwnedM (Int × List (Ptr Rib)) := do
  let ribsHead ← routesCache.foldlM (collectRib env) ribsHead
  return (0, ribsHead.map (ribBuildDescription env))

/-! ## collecting routes -/

/-- `rtnl_link_get`, with the reference it takes, and `rtnl_link_get_name`. -/
def rtnlLinkGetName (cache : LinkCache) (ifindex : Nat) : OwnedM (Nat × String) := do
  let name ← embed (Routing.rtnlLinkGetName cache ifindex)
  let iface ← alloc (.link ifindex)
  return (iface, name)

/-- `foreach_nexthop`: the copy `if_name` of the interface's name stays. -/
def foreachNexthop (env : RoutingEnv) (nexthop : RouteNextHop) (nh : RtnlNexthop) :
    OwnedM RouteNextHop := do
  let s ← embed Prog.get
  embed (Prog.modify fun s => { s with freshRuns := s.freshRuns + 1 })
  if !(← embed (call .nlSocketAlloc (env.fresh s.freshRuns .nlSocketAlloc))) then return nexthop
  let socket ← alloc .socket
  if !(← embed (call .nlConnect (env.fresh s.freshRuns .nlConnect))) then return nexthop
  if !(← embed (call .rtnlLinkAllocCache (env.fresh s.freshRuns .rtnlLinkAllocCache))) then
    return nexthop
  let linkCache ← alloc .cache
  let ifindex := rtnlRouteNhGetIfindex nh
  let (iface, name) ← rtnlLinkGetName env.links ifindex
  let ifName ← xstrdup (some name)
  let ifNameText ← readText (some ifName)
  let nexthop ← routeNextHopAddList nexthop ifindex ifNameText nh.gateway
  release (iface, .link ifindex)
  release (linkCache, .cache)
  release (socket, .socket)
  return nexthop

/-- The next hops of a unicast route: one is simple, any other number goes
through `foreach_nexthop`. -/
def collectNexthops (env : RoutingEnv) (linkCache : LinkCache) (nextHop : RouteNextHop)
    (nexthops : List RtnlNexthop) : OwnedM RouteNextHop :=
  match nexthops with
  | [nh] => do
      let ifindex := rtnlRouteNhGetIfindex nh
      let (iface, ifName) ← rtnlLinkGetName linkCache ifindex
      let nextHop ← routeNextHopSetSimple nextHop ifindex (some ifName) nh.gateway
      release (iface, .link ifindex)
      return nextHop
  | nhs => nhs.foldlM (foreachNexthop env) nextHop

/-- The `next-hop container` part of the route loop in
`routing_collect_routes`. -/
def collectNextHop (env : RoutingEnv) (linkCache : LinkCache) (nextHop : RouteNextHop)
    (route : RtnlRoute) : OwnedM RouteNextHop :=
  match specialNextHop route.type with
  | some value => routeNextHopSetSpecial nextHop (some value)
  | none => collectNexthops env linkCache nextHop route.nexthops

/-- The body of the route loop in `routing_collect_routes`: `tmp_route` is
filled from the kernel route. -/
def collectRoute (env : RoutingEnv) (linkCache : LinkCache) (tmpRoute : Route)
    (route : RtnlRoute) : OwnedM Route := do
  let tmpRoute := routeSetPreference (routeInit tmpRoute) route.priority
  let nextHop ← collectNextHop env linkCache tmpRoute.nextHop route
  let tmpRoute := { tmpRoute with nextHop := nextHop }
  if route.protocol = RTPROT_STATIC then
    routeSetSourceProtocol tmpRoute (some "ietf-routing:static")
  else
    routeSetSourceProtocol tmpRoute (some "ietf-routing:direct")

/-- The route loop of `routing_collect_routes`. -/
def collectRoutesLoop (env : RoutingEnv) (linkCache : LinkCache) :
    List RtnlRoute → Route → List (Ptr Rib) → OwnedM (Int × List (Ptr Rib))
  | [], _, ribsHead => return (0, ribsHead)
  | route :: routesCache, tmpRoute, ribsHead =>
      let tableBuffer := env.table2str route.table
      match ribListGet ribsHead tableBuffer route.family with
      | none => return (-1, ribsHead)
      | some tmpRib => do
          let tmpRoute ← collectRoute env linkCache tmpRoute route
          let routesHead ← routeListHashAdd tmpRib.routesHead route.dst tmpRoute
          let tmpRoute ← routeFree tmpRoute
          collectRoutesLoop env linkCache routesCache tmpRoute
            (ribListUpdate ribsHead tableBuffer route.family
              fun rib => { rib with routesHead := routesHead })

/-- The preferred route of a list becomes its active one. -/
def markActive (routes : List (Ptr Route)) : List (Ptr Route) :=
  routes.modify (prefIndex (routes.map routeValue)) fun route =>
    { route with val := routeSetActive route.val true }

def markActiveBucket (e : Ptr RouteListHashElement) : Ptr RouteListHashElement :=
  { e with val := { e.val with routesHead := markActive e.val.routesHead } }

/-- One round of the last loop of `routing_collect_routes`. -/
def markActiveRib (rib : Ptr Rib) : Ptr Rib :=
  { rib with val := { rib.val with routesHead := rib.val.routesHead.map markActiveBucket } }

def routingCollectRoutes (env : RoutingEnv) (routesCache : List RtnlRoute)
    (linkCache : LinkCache) (ribsHead : List (Ptr Rib)) : OwnedM (Int × List (Ptr Rib)) := do
  let (error, ribsHead) ← routingCollectRibs env routesCache ribsHead
  if error ≠ 0 then return (error, ribsHead)
  let (error, ribsHead) ← collectRoutesLoop env linkCache routesCache {} ribsHead
  if error ≠ 0 then return (error, ribsHead)
  return (0, ribsHead.map markActiveRib)

/-! ## the request -/

/-- One element of a next hop list; the reference to its link is given back at
the end alone. -/
def operListNextHop (env : RoutingEnv) (modules : UnicastModules) (af : Nat) (nhNode : LydNode)
    (simple : Routing.RouteNextHopSimple) : OwnedM Int := do
  let (iface, ifName) ← rtnlLinkGetName env.links simple.ifindex
  let xpath := "next-hop/next-hop-list/next-hop[index=" ++ toString simple.ifindex ++ "]"
  let error : Int := xpath.length
  if error < 0 then Prog.fail
  else do
    let nhListNode ← embed (lydNewPath env nhNode xpath none)
    let _ ← embed (lydNewPath env nhListNode "outgoing-interface" (some ifName))
    embed (operNextHopAddress env modules af nhListNode simple.addr)
    release (iface, .link simple.ifindex)
    return error

/-- The switch over the kind of next hop. -/
def operNextHop (env : RoutingEnv) (modules : UnicastModules) (af : Nat) (nhNode : LydNode)
    (nextHop : Routing.RouteNextHop) (error : Int) : OwnedM Int :=
  match nextHop.kind with
  | .none => return error
  | .simple => do
      let (iface, ifName) ← rtnlLinkGetName env.links nextHop.simple.ifindex
      let _ ← embed (lydNewPath env nhNode "outgoing-interface" (some ifName))
      embed (operNextHopAddress env modules af nhNode nextHop.simple.addr)
      release (iface, .link nextHop.simple.ifindex)
      return error
  | .special => return error
  | .list => nextHop.listHead.foldlM
      (fun _ simple => operListNextHop env modules af nhNode simple) error

/-- One round of the innermost loop; `prefix_buffer` is written to. -/
def operRoute (env : RoutingEnv) (modules : UnicastModules) (af : Nat) (routesNode : LydNode)
    (acc : Int × String) (route : Routing.Route) : OwnedM (Int × String) := do
  let node ← embed (lydNewPath env routesNode "routes/route" none)
  let _ ← embed (lydNewPath env node "route-preference" (some (toString route.preference)))
  let nhNode ← embed (lydNewPath env node "next-hop" none)
  let error ← operNextHop env modules af nhNode route.nextHop acc.1
  let prefixBuffer ← embed (operDestination env modules af node acc.2)
  let _ ← embed (lydNewPath env node "source-protocol" route.metadata.sourceProtocol)
  embed (operActive env node route.metadata.active)
  return (error, prefixBuffer)

/-- One bucket of a RIB's hash. -/
def operBucket (env : RoutingEnv) (modules : UnicastModules) (af : Nat) (routesNode : LydNode)
    (error : Int) (e : Routing.RouteListHashElement) : OwnedM Int := do
  let (error, _) ← e.routesHead.foldlM (operRoute env modules af routesNode)
    (error, prefixText env e.pfx)
  return error

/-- One RIB. -/
def operRib (env : RoutingEnv) (modules : UnicastModules) (parent : LydNode) (error : Int)
    (rib : Routing.Rib) : OwnedM Int := do
  let routesNode ← embed (lydNewPath env parent
    (ribListYangPath ++ "[name='" ++ ribFamilyName rib.addressFamily ++ "-" ++ rib.name.text ++
      "']/routes") none)
  rib.routesHead.foldlM (operBucket env modules rib.addressFamily routesNode) error

/-- The part of `routing_oper_get_rib_routes_cb` that fills the tree. -/
def operTree (env : RoutingEnv) (modules : UnicastModules) (parent : LydNode) : OwnedM Int := do
  embed (checked env .nlSocketAlloc)
  let socket ← alloc .socket
  after (release (socket, .socket)) do
    embed (checked env .nlConnect)
    embed (checked env .rtnlRouteAllocCache)
    let cache ← alloc .cache
    after (release (cache, .cache)) do
      embed (checked env .rtnlLinkAllocCache)
      let linkCache ← alloc .cache
      after (release (linkCache, .cache)) do
        embed (checked env .rtnlRouteReadTableNames)
        embed (checked env .rtnlRouteReadProtocolNames)
        let (error, ribsHead) ← routingCollectRoutes env env.routes env.links []
        after (ribListFree ribsHead) do
          if error ≠ 0 then Prog.fail
          else (ribsHead.map ribValue).foldlM (operRib env modules parent) error

def routingOperGetRibRoutesCb (env : RoutingEnv) (parent : LydNode) : OwnedM Int :=
  Prog.status SR_ERR_CALLBACK_FAILED do
    let _ ← embed (call .srAcquireContext env.acquired)
    let ipv4 ← embed (call (.lyCtxGetModule ipv4UnicastRouting) (env.module ipv4UnicastRouting))
    let ipv6 ← embed (call (.lyCtxGetModule ipv6UnicastRouting) (env.module ipv6UnicastRouting))
    let error ← operTree env ⟨ipv4, ipv6⟩ parent
    if error ≠ 0 then Prog.fail else return error

end SysrepoInterfaces.Routing.Owned
