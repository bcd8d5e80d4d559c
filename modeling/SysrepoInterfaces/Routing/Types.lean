import SysrepoInterfaces.Api
import SysrepoInterfaces.Lib.CProg
import SysrepoInterfaces.Lib.Keyed

/-!
# SysrepoInterfaces.Routing.Types

The data the routing plugin works on: kernel routes as libnl hands them out,
the plugin's own routes and next hops (`route.c`, `route/next_hop.c`), the
route hash (`route/list.c`, `route/list_hash.c`) and the RIB list (`rib.c`,
`rib/list.c`).

A linked list is a `List`, head first.  A `NULL` string given to `xstrdup`
ends the process (`strdup` reads it), so the functions that duplicate strings
are `Exit` computations.
-/

namespace SysrepoInterfaces.Routing

open CProg

/-! ## constants -/

def RT_TABLE_DEFAULT : Nat := 253
def RT_TABLE_MAIN : Nat := 254
def RT_TABLE_LOCAL : Nat := 255

def RTPROT_STATIC : Nat := 4

def RTN_UNICAST : Nat := 1
def RTN_LOCAL : Nat := 2
def RTN_BLACKHOLE : Nat := 6
def RTN_UNREACHABLE : Nat := 7
def RTN_PROHIBIT : Nat := 8

def RT_SCOPE_NOWHERE : Nat := 255

/-! ## libnl objects -/

/-- A next hop of a kernel route; an attribute that was never set is `none`. -/
structure RtnlNexthop where
  ifindex : Option Nat := none
  gateway : Option NlAddr := none
deriving DecidableEq, Repr

/-- `rtnl_route_nh_get_ifindex`: an unset index reads as 0. -/
def rtnlRouteNhGetIfindex (nh : RtnlNexthop) : Nat := nh.ifindex.getD 0

/-- A kernel route. -/
structure RtnlRoute where
  table : Nat
  family : Nat
  protocol : Nat
  type : Nat
  scope : Nat
  dst : NlAddr
  priority : Nat
  tos : Nat := 0
  src : Option NlAddr := none
  nexthops : List RtnlNexthop
deriving DecidableEq, Repr

/-- Links by interface index, with their names: what `rtnl_link_get` and
`rtnl_link_get_name` find in a link cache. -/
abbrev LinkCache := Nat → Option String

/-! ## next hops -/

/-- `strdup` of `NULL` dereferences it. -/
def xstrdup : Option String → Exit String
  | some s => .ok s
  | none => .crash

/-- `enum route_next_hop_kind`. -/
inductive RouteNextHopKind where
  | none
  | simple
  | special
  | list
deriving DecidableEq, Repr

/-- `struct route_next_hop_simple`. -/
structure RouteNextHopSimple where
  addr : Option NlAddr := none
  ifindex : Nat := 0
  ifName : Option String := none
deriving DecidableEq, Repr

/-- `struct route_next_hop`.  The members of the value union stand side by
side: what the callers read they have written under its own kind
(`Overlaid.Overlays` says where this is the union in memory). -/
structure RouteNextHop where
  kind : RouteNextHopKind := .none
  simple : RouteNextHopSimple := {}
  special : Option String := none
  listHead : List RouteNextHopSimple := []
deriving DecidableEq, Repr

def routeNextHopInit (nh : RouteNextHop) : RouteNextHop := { nh with kind := .none }

def routeNextHopSetSimpleGateway (nh : RouteNextHop) (gw : Option NlAddr) : RouteNextHop :=
  { nh with kind := .simple, simple := { nh.simple with addr := gw } }

/-- Writes the interface and leaves the kind alone. -/
def routeNextHopSetSimpleInterface (nh : RouteNextHop) (ifindex : Nat)
    (ifName : Option String) : Exit RouteNextHop := do
  let name ← xstrdup ifName
  return { nh with simple := { nh.simple with ifindex := ifindex, ifName := some name } }

def routeNextHopSetSimple (nh : RouteNextHop) (ifindex : Nat) (ifName : Option String)
    (gw : Option NlAddr) : Exit RouteNextHop :=
  routeNextHopSetSimpleInterface (routeNextHopSetSimpleGateway nh gw) ifindex ifName

def routeNextHopSetSpecial (nh : RouteNextHop) (value : Option String) : RouteNextHop :=
  match value with
  | some v => { nh with kind := .special, special := some v }
  | none => { nh with kind := .special }

def routeNextHopAddList (nh : RouteNextHop) (ifindex : Nat) (ifName : Option String)
    (gw : Option NlAddr) : Exit RouteNextHop := do
  let nh : RouteNextHop := if nh.kind = .none then { nh with listHead := [], kind := .list } else nh
  let name ← xstrdup ifName
  return { nh with
    listHead := nh.listHead ++ [{ addr := gw, ifindex := ifindex, ifName := some name }] }

def routeNextHopClone (nh : RouteNextHop) : Exit RouteNextHop :=
  match nh.kind with
  | .none => .ok {}
  | .simple => routeNextHopSetSimple {} nh.simple.ifindex nh.simple.ifName nh.simple.addr
  | .special => .ok (routeNextHopSetSpecial {} nh.special)
  | .list => nh.listHead.foldlM
      (fun out iter => routeNextHopAddList out iter.ifindex iter.ifName iter.addr) {}

/-! ## routes -/

/-- `struct route_metadata`. -/
structure RouteMetadata where
  sourceProtocol : Option String := none
  lastUpdated : Option String := none
  description : Option String := none
  active : Bool := false
deriving DecidableEq, Repr

/-- `struct route`; the default value is the zeroed one. -/
structure Route where
  preference : Nat := 0
  metadata : RouteMetadata := {}
  nextHop : RouteNextHop := {}
deriving DecidableEq, Repr

def routeInit (route : Route) : Route :=
  { preference := 0, metadata := {}, nextHop := routeNextHopInit route.nextHop }

def routeSetPreference (route : Route) (pref : Nat) : Route := { route with preference := pref }

def routeSetActive (route : Route) (active : Bool) : Route :=
  { route with metadata := { route.metadata with active := active } }

def routeSetSourceProtocol (route : Route) (proto : Option String) : Route :=
  match proto with
  | some p => { route with metadata := { route.metadata with sourceProtocol := some p } }
  | none => route

/-- Writes the source protocol, as the source does. -/
def routeSetLastUpdated (route : Route) (lastUp : Option String) : Route :=
  match lastUp with
  | some l => { route with metadata := { route.metadata with sourceProtocol := some l } }
  | none => route

def routeSetDescription (route : Route) (description : Option String) : Route :=
  match description with
  | some d => { route with metadata := { route.metadata with description := some d } }
  | none => route

def routeClone (route : Route) : Exit Route := do
  let out := routeInit {}
  let out := routeSetPreference out route.preference
  let out := routeSetActive out route.metadata.active
  let out := routeSetSourceProtocol out route.metadata.sourceProtocol
  let out := routeSetLastUpdated out route.metadata.lastUpdated
  let out := routeSetDescription out route.metadata.description
  let nextHop ← routeNextHopClone route.nextHop
  return { out with nextHop := nextHop }

/-- `route_free`: everything is released and the route is initialised anew. -/
def routeFree (route : Route) : Route :=
  routeInit { route with nextHop := routeNextHopInit route.nextHop }

/-! ## the route hash -/

/-- `struct route_list_hash_element`. -/
structure RouteListHashElement where
  pfx : NlAddr
  routesHead : List Route
deriving DecidableEq, Repr

/-- New routes go to the head of the list. -/
def routeListAdd (head : List Route) (route : Route) : Exit (List Route) := do
  let new ← routeClone route
  return new :: head

def routeListHashGet (head : List RouteListHashElement) (addr : NlAddr) : Option (List Route) :=
  (Keyed.lookup RouteListHashElement.pfx addr head).map RouteListHashElement.routesHead

def routeListHashAdd (head : List RouteListHashElement) (addr : NlAddr) (route : Route) :
    Exit (List RouteListHashElement) :=
  match routeListHashGet head addr with
  | some routesHead => do
      let routesHead ← routeListAdd routesHead route
      return Keyed.adjust RouteListHashElement.pfx addr
        (fun e => { e with routesHead := routesHead }) head
  | none => do
      let routesHead ← routeListAdd [] route
      return head ++ [{ pfx := addr, routesHead := routesHead }]

/-! ## the RIB list -/

/-- The text in a 32 byte name buffer: 31 characters and the terminator. -/
structure RibName where
  text : String
  fits : text.length ≤ 31
deriving DecidableEq

/-- `struct rib`. -/
structure Rib where
  name : RibName
  description : String := ""
  addressFamily : Nat := AF_UNSPEC
  defaultRib : Bool := false
  routesHead : List RouteListHashElement := []
deriving DecidableEq

/-- What `rib_list_element_cmp` compares. -/
def Rib.key (rib : Rib) : RibName × Nat := (rib.name, rib.addressFamily)

def ribListGet (head : List Rib) (name : RibName) (af : Nat) : Option Rib :=
  Keyed.lookup Rib.key (name, af) head

def ribListAdd (head : List Rib) (name : RibName) (af : Nat) : List Rib :=
  Keyed.ensure Rib.key (name, af) { name := name, addressFamily := af } head

/-- Write through the pointer `rib_list_get` returned. -/
def ribListUpdate (head : List Rib) (name : RibName) (af : Nat) (f : Rib → Rib) : List Rib :=
  Keyed.adjust Rib.key (name, af) f head

def ribListSetDefault (head : List Rib) (name : RibName) (af : Nat) (dflt : Bool) :
    Int × List Rib :=
  match ribListGet head name af with
  | some _ => (0, ribListUpdate head name af fun rib => { rib with defaultRib := dflt })
  | none => (-1, head)

end SysrepoInterfaces.Routing
