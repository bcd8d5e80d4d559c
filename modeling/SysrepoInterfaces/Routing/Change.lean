import SysrepoInterfaces.Routing.Common

/-!
# SysrepoInterfaces.Routing.Change

`routing/subscription/change.c`: the change callback of the control plane
protocols.  A pass over the changes of one address family collects two
batches, and the batches are then sent to the kernel.
-/

namespace SysrepoInterfaces.Routing

open CProg

/-! ## changes -/

/-- One change of the iterator. -/
structure Change where
  operation : SrChangeOper
  /-- the node name `sr_xpath_node_name` finds in the path of the node; `none`
  when `lyd_path` fails -/
  nodeName : Option String
  /-- `lyd_get_value` -/
  nodeValue : Option String
deriving DecidableEq, Repr

/-! ## collecting the batches -/

/-- The batch an operation on a whole entry goes to. -/
inductive Batch where
  | new
  | delete
deriving DecidableEq, Repr

/-- The local variables of the change loop.  `routes_head` points into one of
the batches; no bucket ever moves, so its batch and its prefix say where. -/
structure Batches where
  newRoutes : List RouteListHashElement := []
  deleteRoutes : List RouteListHashElement := []
  routesHead : Option (Batch × NlAddr) := none
deriving DecidableEq

def Batches.get (b : Batches) : Batch → List RouteListHashElement
  | .new => b.newRoutes
  | .delete => b.deleteRoutes

def Batches.set (b : Batches) (batch : Batch) (routes : List RouteListHashElement) : Batches :=
  match batch with
  | .new => { b with newRoutes := routes }
  | .delete => { b with deleteRoutes := routes }

/-- Write to the first route of a list. -/
def modifyHead (f : Route → Route) : List Route → List Route
  | [] => []
  | route :: routes => f route :: routes

/-- Write to `(*routes_head)->route`. -/
def Batches.updateHead (b : Batches) (batch : Batch) (addr : NlAddr) (f : Route → Route) :
    Batches :=
  b.set batch (Keyed.adjust RouteListHashElement.pfx addr
    (fun e => { e with routesHead := modifyHead f e.routesHead }) (b.get batch))

/-- `nl_addr_parse`; it reads the text, so `NULL` ends the process. -/
def nlAddrParse (env : RoutingEnv) (text : Option String) : Exit NlAddr :=
  match text with
  | none => .crash
  | some t =>
      match env.nlAddrParse t with
      | some addr => .ok addr
      | none => .error

/-- The `SR_OP_CREATED` and `SR_OP_DELETED` cases of the loop, which differ in
the batch alone. -/
def collectChange (env : RoutingEnv) (batch : Batch) (b : Batches) (nodeName : String)
    (nodeValue : Option String) : Exit Batches :=
  if strPrefix "destination-prefix" nodeName then do
    let addr ← nlAddrParse env nodeValue
    let routes ← routeListHashAdd (b.get batch) addr {}
    return { b.set batch routes with routesHead := some (batch, addr) }
  else if strPrefix "description" nodeName then
    match b.routesHead with
    | none => .error
    | some (head, addr) =>
        .ok (b.updateHead head addr fun route => routeSetDescription route nodeValue)
  else if strPrefix "next-hop-address" nodeName then
    match b.routesHead with
    | none => .error
    | some (head, addr) => do
        let gateway ← nlAddrParse env nodeValue
        return b.updateHead head addr fun route =>
          { route with nextHop := routeNextHopSetSimpleGateway route.nextHop (some gateway) }
  else .ok b

/-- One round of the change loop of `apply_static_routes_changes`. -/
def staticRoutesStep (env : RoutingEnv) (b : Batches) (change : Change) : Exit Batches :=
  match change.nodeName with
  | none => .error
  | some nodeName =>
      match change.operation with
      | .created => collectChange env .new b nodeName change.nodeValue
      | .modified => .ok b
      | .deleted => collectChange env .delete b nodeName change.nodeValue
      | .moved => .ok b

/-- The change loop of `apply_static_routes_changes`. -/
def collectStaticRoutes (env : RoutingEnv) (changes : List Change) : Exit Batches :=
  changes.foldlM (staticRoutesStep env) {}

/-! ## applying them -/

/-- `apply_static_routes_changes` on the changes the iterator for `xpath`
delivers. -/
def applyStaticRoutesChanges (env : RoutingEnv) (xpath : String) (changes : List Change) :
    RoutingM Int :=
  Prog.exitCode (-1) do
    checked env (.srGetChangesIter xpath)
    let b ← Prog.lift (collectStaticRoutes env changes)
    checked env .nlSocketAlloc
    checked env .nlConnect
    (routingApplyNewRoutes env b.newRoutes).require
    (routingApplyModifyRoutes []).require
    (routingApplyDeleteRoutes env b.deleteRoutes).require

def ipv4Path (xpath : String) : String :=
  xpath ++ "/static-routes/ietf-ipv4-unicast-routing:ipv4//."

def ipv6Path (xpath : String) : String :=
  xpath ++ "/static-routes/ietf-ipv6-unicast-routing:ipv6//."

/-- `routing_control_plane_protocol_list_change_cb`: `changes xpath` is what
the session delivers for `xpath`. -/
def routingControlPlaneProtocolListChangeCb (env : RoutingEnv) (xpath : String)
    (event : SrEvent) (changes : String → List Change) : RoutingM Int := do
  let error ← Prog.exitCode (-1) <| match event with
    | .abort => Prog.fail
    | .done => checked env .srCopyConfig
    | .change => do
        (applyStaticRoutesChanges env (ipv4Path xpath) (changes (ipv4Path xpath))).require
        (applyStaticRoutesChanges env (ipv6Path xpath) (changes (ipv6Path xpath))).require
    | .other => pure ()
  return if error ≠ 0 then SR_ERR_CALLBACK_FAILED else SR_ERR_OK

end SysrepoInterfaces.Routing
