import SysrepoInterfaces.Routing.Change

/-!
# SysrepoInterfaces.Routing.Operational

`routing_oper_get_rib_routes_cb` of `routing/subscription/operational.c`: the
kernel's routes as operational data.  The loops carry the variable `error`,
which the next hop lists use for the length `snprintf` returns.
-/

namespace SysrepoInterfaces.Routing

open CProg

def ribListYangPath : String := "/ietf-routing:routing/ribs/rib"

def ipv4UnicastRouting : String := "ietf-ipv4-unicast-routing"

def ipv6UnicastRouting : String := "ietf-ipv6-unicast-routing"

/-- The prefix in `prefix_buffer`: libnl leaves out the length of a host
address. -/
def prefixText (env : RoutingEnv) (dst : NlAddr) : String :=
  let ip := env.nlAddr2str dst
  if '/' ∈ ip.toList then ip else ip ++ "/" ++ toString dst.prefixLen

/-- The modules `ly_ctx_get_module` found. -/
structure UnicastModules where
  ipv4 : Bool
  ipv6 : Bool
deriving DecidableEq, Repr

/-- The module for the leaves of a family, if there is one. -/
def UnicastModules.forFamily (modules : UnicastModules) (af : Nat) : Option String :=
  if af = AF_INET ∧ modules.ipv4 then some ipv4UnicastRouting
  else if af = AF_INET6 ∧ modules.ipv6 then some ipv6UnicastRouting
  else none

/-- `next-hop-address`, where there is one and a module for it. -/
def operNextHopAddress (env : RoutingEnv) (modules : UnicastModules) (af : Nat) (node : LydNode)
    (addr : Option NlAddr) : RoutingM Unit :=
  match addr, modules.forFamily af with
  | some addr, some module => lydNewTerm env node module "next-hop-address" (env.nlAddr2str addr)
  | some _, none => return ()
  | none, _ => return ()

/-- One element of a next hop list; `error` becomes the length of the path. -/
def operListNextHop (env : RoutingEnv) (modules : UnicastModules) (af : Nat) (nhNode : LydNode)
    (simple : RouteNextHopSimple) : RoutingM Int := do
  let ifName ← rtnlLinkGetName env.links simple.ifindex
  let xpath := "next-hop/next-hop-list/next-hop[index=" ++ toString simple.ifindex ++ "]"
  let error : Int := xpath.length
  if error < 0 then Prog.fail
  else do
    let nhListNode ← lydNewPath env nhNode xpath none
    let _ ← lydNewPath env nhListNode "outgoing-interface" (some ifName)
    operNextHopAddress env modules af nhListNode simple.addr
    return error

/-- The switch over the kind of next hop. -/
def operNextHop (env : RoutingEnv) (modules : UnicastModules) (af : Nat) (nhNode : LydNode)
    (nextHop : RouteNextHop) (error : Int) : RoutingM Int :=
  match nextHop.kind with
  | .none => return error
  | .simple => do
      let ifName ← rtnlLinkGetName env.links nextHop.simple.ifindex
      let _ ← lydNewPath env nhNode "outgoing-interface" (some ifName)
      operNextHopAddress env modules af nhNode nextHop.simple.addr
      return error
  | .special => return error
  | .list => nextHop.listHead.foldlM
      (fun _ simple => operListNextHop env modules af nhNode simple) error

/-- What `prefix_buffer` holds once the default route has its digits. -/
def defaultPrefix (af : Nat) (prefixBuffer : String) : String :=
  if strPrefix prefixBuffer "none/0" then (if af = AF_INET then "0.0.0.0/0" else "::/0")
  else prefixBuffer

/-- The `destination-prefix` leaf; returns what `prefix_buffer` holds after. -/
def operDestination (env : RoutingEnv) (modules : UnicastModules) (af : Nat) (node : LydNode)
    (prefixBuffer : String) : RoutingM String :=
  match modules.forFamily af with
  | some module => do
      lydNewTerm env node module "destination-prefix" (defaultPrefix af prefixBuffer)
      return defaultPrefix af prefixBuffer
  | none => return prefixBuffer

/-- The `active` leaf. -/
def operActive (env : RoutingEnv) (node : LydNode) (active : Bool) : RoutingM Unit :=
  if active then do
    let _ ← lydNewPath env node "active" none
    return ()
  else return ()

/-- One round of the innermost loop; `prefix_buffer` is written to. -/
def operRoute (env : RoutingEnv) (modules : UnicastModules) (af : Nat) (routesNode : LydNode)
    (acc : Int × String) (route : Route) : RoutingM (Int × String) := do
  let node ← lydNewPath env routesNode "routes/route" none
  let _ ← lydNewPath env node "route-preference" (some (toString route.preference))
  let nhNode ← lydNewPath env node "next-hop" none
  let error ← operNextHop env modules af nhNode route.nextHop acc.1
  let prefixBuffer ← operDestination env modules af node acc.2
  let _ ← lydNewPath env node "source-protocol" route.metadata.sourceProtocol
  operActive env node route.metadata.active
  return (error, prefixBuffer)

/-- One bucket of a RIB's hash. -/
def operBucket (env : RoutingEnv) (modules : UnicastModules) (af : Nat) (routesNode : LydNode)
    (error : Int) (e : RouteListHashElement) : RoutingM Int := do
  let (error, _) ← e.routesHead.foldlM (operRoute env modules af routesNode)
    (error, prefixText env e.pfx)
  return error

/-- One RIB. -/
def operRib (env : RoutingEnv) (modules : UnicastModules) (parent : LydNode) (error : Int)
    (rib : Rib) : RoutingM Int := do
  let routesNode ← lydNewPath env parent
    (ribListYangPath ++ "[name='" ++ ribFamilyName rib.addressFamily ++ "-" ++ rib.name.text ++
      "']/routes") none
  rib.routesHead.foldlM (operBucket env modules rib.addressFamily routesNode) error

/-- The socket, the caches and the name tables. -/
def operOpen (env : RoutingEnv) : RoutingM Unit := do
  checked env .nlSocketAlloc
  checked env .nlConnect
  checked env .rtnlRouteAllocCache
  checked env .rtnlLinkAllocCache
  checked env .rtnlRouteReadTableNames
  checked env .rtnlRouteReadProtocolNames

/-- The part of `routing_oper_get_rib_routes_cb` that fills the tree; it ends
with what the loops left in `error`. -/
def operTree (env : RoutingEnv) (modules : UnicastModules) (parent : LydNode) : RoutingM Int := do
  operOpen env
  let (error, ribsHead) ← routingCollectRoutes env env.routes env.links []
  if error ≠ 0 then Prog.fail
  else ribsHead.foldlM (operRib env modules parent) error

def routingOperGetRibRoutesCb (env : RoutingEnv) (parent : LydNode) : RoutingM Int :=
  Prog.status SR_ERR_CALLBACK_FAILED do
    -- neither the context nor the modules are looked at before they are used
    let _ ← call .srAcquireContext env.acquired
    let ipv4 ← call (.lyCtxGetModule ipv4UnicastRouting) (env.module ipv4UnicastRouting)
    let ipv6 ← call (.lyCtxGetModule ipv6UnicastRouting) (env.module ipv6UnicastRouting)
    let error ← operTree env ⟨ipv4, ipv6⟩ parent
    if error ≠ 0 then Prog.fail else return error

end SysrepoInterfaces.Routing
