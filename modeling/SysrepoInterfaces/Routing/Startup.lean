import SysrepoInterfaces.Routing.Operational

/-!
# SysrepoInterfaces.Routing.Startup

`routing/startup.c`: the kernel's RIBs and static routes as the initial
configuration.  As in the operational callback, `error` is both a return code
and the length of the last path of a next hop list.
-/

namespace SysrepoInterfaces.Routing

open CProg

def routingContainerYangPath : String := "/ietf-routing:routing"

def ribsContainerYangPath : String := "/ietf-routing:routing/ribs"

def controlPlaneProtocolsContainerYangPath : String :=
  "/ietf-routing:routing/control-plane-protocols"

def controlPlaneProtocolListYangPath : String :=
  "/ietf-routing:routing/control-plane-protocols/control-plane-protocol"

/-! ## RIBs -/

/-- The `description` of a RIB, where it has one. -/
def startupRibDescription (env : RoutingEnv) (ribNode : LydNode) (description : String) :
    RoutingM Unit :=
  if description ≠ "" then do
    let _ ← lydNewPath env ribNode "description" (some description)
    return ()
  else return ()

/-- One round of the loop in `routing_startup_load_ribs`. -/
def startupRib (env : RoutingEnv) (ribsNode : LydNode) (rib : Rib) : RoutingM Unit := do
  let ribNode ← lydNewPath env ribsNode
    (ribListYangPath ++ "[name='" ++ ribFamilyName rib.addressFamily ++ "-" ++ rib.name.text ++
      "']") none
  let _ ← lydNewPath env ribNode "address-family" (some (ribFamilyName rib.addressFamily))
  startupRibDescription env ribNode rib.description

def routingStartupLoadRibs (env : RoutingEnv) (routingContainerNode : LydNode) : RoutingM Int :=
  Prog.exitCode (-1) do
    checked env .srAcquireContext
    checked env .nlSocketAlloc
    checked env .nlConnect
    checked env .rtnlRouteAllocCache
    checked env .rtnlRouteReadTableNames
    checked env .rtnlRouteReadProtocolNames
    let (error, ribsHead) := routingCollectRibs env env.routes []
    if error ≠ 0 then Prog.fail
    else do
      let ribsNode ← lydNewPath env routingContainerNode ribsContainerYangPath none
      forM ribsHead (startupRib env ribsNode)

/-! ## static routes -/

/-- The two hashes `routing_startup_collect_static_routes` fills. -/
structure StaticHashes where
  ipv4 : List RouteListHashElement := []
  ipv6 : List RouteListHashElement := []
deriving DecidableEq

/-- File a route under its family; other families are left out. -/
def StaticHashes.add (hashes : StaticHashes) (family : Nat) (dst : NlAddr) (route : Route) :
    Exit StaticHashes :=
  if family = AF_INET then do
    let ipv4 ← routeListHashAdd hashes.ipv4 dst route
    return { hashes with ipv4 := ipv4 }
  else if family = AF_INET6 then do
    let ipv6 ← routeListHashAdd hashes.ipv6 dst route
    return { hashes with ipv6 := ipv6 }
  else return hashes

/-- One round of the loop in `routing_startup_collect_static_routes`. -/
def startupCollectRoute (env : RoutingEnv) (linkCache : LinkCache) (acc : StaticHashes × Route)
    (route : RtnlRoute) : RoutingM (StaticHashes × Route) :=
  if route.protocol = RTPROT_STATIC then do
    let tmpRoute := routeSetPreference (routeInit acc.2) route.priority
    let nextHop ← collectNexthops env linkCache tmpRoute.nextHop route.nexthops
    let tmpRoute := routeSetSourceProtocol { tmpRoute with nextHop := nextHop }
      (some "ietf-routing:static")
    let hashes ← Prog.lift (acc.1.add route.family route.dst tmpRoute)
    return (hashes, routeFree tmpRoute)
  else return acc

/-- `routing_startup_collect_static_routes`; the caller goes to `error_out`
when it fails. -/
def routingStartupCollectStaticRoutes (env : RoutingEnv) : RoutingM StaticHashes := do
  checked env .nlSocketAlloc
  checked env .nlConnect
  checked env .rtnlRouteAllocCache
  checked env .rtnlLinkAllocCache
  let (hashes, _) ← env.routes.foldlM (startupCollectRoute env env.links) ({}, {})
  return hashes

/-- A leaf of a next hop, where it has a value. -/
def startupLeaf (env : RoutingEnv) (node : LydNode) (module name : String)
    (value : Option String) : RoutingM Unit :=
  match value with
  | some value => lydNewTerm env node module name value
  | none => return ()

/-- What differs between the IPv4 and the IPv6 loop: the module, and the path
of a next hop list, where the IPv4 one has a bracket too many. -/
structure StartupFamily where
  module : String
  nextHopPath : String

def startupIpv4 : StartupFamily where
  module := ipv4UnicastRouting
  nextHopPath := "next-hop/next-hop-list]/next-hop[index="

def startupIpv6 : StartupFamily where
  module := ipv6UnicastRouting
  nextHopPath := "next-hop/next-hop-list/next-hop[index="

/-- One element of a next hop list; `error` becomes the length of the path. -/
def startupListNextHop (env : RoutingEnv) (family : StartupFamily) (nhNode : LydNode)
    (simple : RouteNextHopSimple) : RoutingM Int := do
  let xpath := family.nextHopPath ++ toString simple.ifindex ++ "]"
  let error : Int := xpath.length
  if error < 0 then Prog.fail
  else do
    let nhListNode ← lydNewAny env nhNode family.module xpath
    startupLeaf env nhListNode family.module "next-hop-address" (simple.addr.map env.nlAddr2str)
    startupLeaf env nhListNode family.module "outgoing-interface" simple.ifName
    return error

/-- The switch over the kind of next hop. -/
def startupNextHop (env : RoutingEnv) (family : StartupFamily) (nhNode : LydNode)
    (nextHop : RouteNextHop) (error : Int) : RoutingM Int :=
  match nextHop.kind with
  | .none => return error
  | .simple => do
      startupLeaf env nhNode family.module "next-hop-address"
        (nextHop.simple.addr.map env.nlAddr2str)
      startupLeaf env nhNode family.module "outgoing-interface" nextHop.simple.ifName
      return error
  | .special => return error
  | .list => nextHop.listHead.foldlM
      (fun _ simple => startupListNextHop env family nhNode simple) error

/-- One round of a family's loop: the first route of the bucket is exported. -/
def startupBucket (env : RoutingEnv) (family : StartupFamily) (container : LydNode) (error : Int)
    (e : RouteListHashElement) : RoutingM Int :=
  match e.routesHead with
  | [] => Prog.lift .crash
  | route :: _ => do
      let routeNode ← lydNewPath env container
        ("route[destination-prefix=\"" ++ prefixText env e.pfx ++ "\"]") none
      startupLeaf env routeNode family.module "description" route.metadata.description
      let nhNode ← lydNewInner env routeNode family.module "next-hop"
      startupNextHop env family nhNode route.nextHop error

/-! ## control plane protocols -/

/-- `struct control_plane_protocol`, an initialised one. -/
structure ControlPlaneProtocol where
  type : String
  name : String
  description : String
deriving DecidableEq, Repr

/-- The protocols `routing_is_proto_type_known` knows, with what the two maps
of `routing_build_protos_map` say of them. -/
def knownProtos : List (Nat × String × String) := [
  (0, "ietf-routing:direct", "unspecified protocol"),
  (1, "ietf-routing:direct", "redirect protocol"),
  (2, "ietf-routing:direct", "kernel protocol"),
  (3, "ietf-routing:direct", "boot protocol"),
  (4, "ietf-routing:static", "static protocol"),
  (8, "ietf-routing:direct", "gated protocol"),
  (9, "ietf-routing:direct", "ra protocol"),
  (10, "ietf-routing:direct", "mrt protocol"),
  (11, "ietf-routing:direct", "zebra protocol"),
  (12, "ietf-routing:direct", "bird protocol"),
  (13, "ietf-routing:direct", "dnrouted protocol"),
  (14, "ietf-routing:direct", "xorp protocol"),
  (15, "ietf-routing:direct", "ntk protocol"),
  (16, "ietf-routing:direct", "dhcp protocol"),
  (17, "ietf-routing:direct", "mrouted protocol"),
  (42, "ietf-routing:direct", "babel protocol"),
  (186, "ietf-routing:direct", "bgp protocol"),
  (187, "ietf-routing:direct", "isis protocol"),
  (188, "ietf-routing:direct", "ospf protocol"),
  (189, "ietf-routing:direct", "rip protocol"),
  (192, "ietf-routing:direct", "eigrp protocol")]

/-- `routing_build_protos_map`: the initialised entries in order of index. -/
def routingBuildProtosMap (env : RoutingEnv) : Int × List ControlPlaneProtocol :=
  (0, knownProtos.map fun proto =>
    { type := proto.2.1, name := env.proto2str proto.1, description := proto.2.2 })

/-- The static routes below the static protocol. -/
def startupStaticRoutes (env : RoutingEnv) (hashes : StaticHashes) (cppListNode : LydNode)
    (error : Int) : RoutingM Int := do
  let staticRoutesNode ← lydNewPath env cppListNode "static-routes" none
  let ipv4Node ← lydNewInner env staticRoutesNode ipv4UnicastRouting "ipv4"
  let ipv6Node ← lydNewInner env staticRoutesNode ipv6UnicastRouting "ipv6"
  let error ← hashes.ipv4.foldlM (startupBucket env startupIpv4 ipv4Node) error
  hashes.ipv6.foldlM (startupBucket env startupIpv6 ipv6Node) error

/-- One round of the protocol loop. -/
def startupProtocol (env : RoutingEnv) (hashes : StaticHashes) (container : LydNode) (error : Int)
    (proto : ControlPlaneProtocol) : RoutingM Int := do
  let cppListNode ← lydNewPath env container
    (controlPlaneProtocolListYangPath ++ "[type=\"" ++ proto.type ++ "\"][name=\"" ++ proto.name ++
      "\"]") none
  let _ ← lydNewPath env cppListNode "description" (some proto.description)
  if strPrefix "static" proto.name then startupStaticRoutes env hashes cppListNode error
  else return error

def routingStartupLoadControlPlaneProtocols (env : RoutingEnv) (routingContainerNode : LydNode) :
    RoutingM Int :=
  Prog.status 1 do
    checked env .srAcquireContext
    -- the modules are not looked at before they are used
    let _ ← call (.lyCtxGetModule ipv4UnicastRouting) (env.module ipv4UnicastRouting)
    let _ ← call (.lyCtxGetModule ipv6UnicastRouting) (env.module ipv6UnicastRouting)
    checked env .rtnlRouteReadTableNames
    checked env .rtnlRouteReadProtocolNames
    let (error, cppMap) := routingBuildProtosMap env
    if error ≠ 0 then Prog.fail
    else do
      let hashes ← routingStartupCollectStaticRoutes env
      let container ← lydNewPath env routingContainerNode
        controlPlaneProtocolsContainerYangPath none
      cppMap.foldlM (startupProtocol env hashes container) error

/-! ## everything -/

/-- `routing_startup_load_data`.  Its `error_out` returns `error` as it is,
which is still 0 when one of the first two calls fails. -/
def routingStartupLoadData (env : RoutingEnv) : RoutingM Int := do
  if !(← attempt env .srAcquireContext) then return 0
  if !(← attempt env (.lydNewPath "" routingContainerYangPath none)) then return 0
  let error ← routingStartupLoadRibs env routingContainerYangPath
  if error ≠ 0 then return error
  let error ← routingStartupLoadControlPlaneProtocols env routingContainerYangPath
  if error ≠ 0 then return error
  if !(← attempt env .srEditBatch) then return env.srError
  if !(← attempt env .srApplyChanges) then return env.srError
  return 0

end SysrepoInterfaces.Routing
