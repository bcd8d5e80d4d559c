import Mathlib.Data.List.Perm.Lattice
import SysrepoInterfaces.Lib.Heap
import SysrepoInterfaces.Routing.Common
import SysrepoInterfaces.Routing.Clone

/-!
# SysrepoInterfaces.Routing.RouteHeap

Routes, next hops, the route hash and the RIB list with the memory they own:
`route.c`, `route/next_hop.c`, `route/list.c`, `route/list_hash.c`, `rib.c` and
`rib/list.c` once more, with every block they allocate and release.  A pointer
is an address with what was put there; the links of a list are left out, its
elements are pointers.
-/

namespace SysrepoInterfaces.Routing.Owned

open CProg Ownership

/-! ## blocks -/

/-- What the plugin allocates. -/
inductive Piece where
  /-- a string of `xstrdup` -/
  | text (s : String)
  /-- an address of `nl_addr_clone` -/
  | addr (a : NlAddr)
  /-- `struct route_next_hop_list_element` -/
  | nextHop
  /-- `struct route_list_element` -/
  | route
  /-- `struct route_list_hash_element` -/
  | bucket
  /-- `struct rib_list_element` -/
  | rib
  | socket
  | cache
  /-- a reference of `rtnl_link_get` -/
  | link (ifindex : Nat)
deriving DecidableEq, Repr

abbrev OwnedM := Prog (WithHeap RoutingState Piece)

structure Ptr (α : Type) where
  addr : Nat
  val : α
deriving DecidableEq, Repr

def textBlock (p : Ptr String) : Block Piece := (p.addr, .text p.val)

def addrBlock (p : Ptr NlAddr) : Block Piece := (p.addr, .addr p.val)

/-- The block of a pointer, none for `NULL`. -/
def textBlocks (p : Option (Ptr String)) : List (Block Piece) := (p.map textBlock).toList

def addrBlocks (p : Option (Ptr NlAddr)) : List (Block Piece) := (p.map addrBlock).toList

def xstrdup (s : Option String) : OwnedM (Ptr String) :=
  match s with
  | some s => do
      let addr ← alloc (.text s)
      return ⟨addr, s⟩
  | none => Prog.lift .crash

def nlAddrClone (a : NlAddr) : OwnedM (Ptr NlAddr) := do
  let addr ← alloc (.addr a)
  return ⟨addr, a⟩

/-- The string a pointer points to. -/
def readText (p : Option (Ptr String)) : OwnedM (Option String) := do
  forM (textBlocks p) touch
  return p.map Ptr.val

def readAddr (p : Option (Ptr NlAddr)) : OwnedM (Option NlAddr) := do
  forM (addrBlocks p) touch
  return p.map Ptr.val

/-- `if (p) free(p)`. -/
def freeText (p : Option (Ptr String)) : OwnedM Unit := forM (textBlocks p) release

/-- `if (p) nl_addr_put(p)`. -/
def putAddr (p : Option (Ptr NlAddr)) : OwnedM Unit := forM (addrBlocks p) release

/-! ## next hops -/

/-- `struct route_next_hop_simple`. -/
structure RouteNextHopSimple where
  addr : Option (Ptr NlAddr) := none
  ifindex : Nat := 0
  ifName : Option (Ptr String) := none

/-- `struct route_next_hop`, with the members of the value union side by side. -/
structure RouteNextHop where
  kind : RouteNextHopKind := .none
  simple : RouteNextHopSimple := {}
  special : Option (Ptr String) := none
  listHead : List (Ptr RouteNextHopSimple) := []

def routeNextHopInit (nh : RouteNextHop) : RouteNextHop := { nh with kind := .none }

/-- Clone an address that may be `NULL`. -/
def cloneGateway (gw : Option NlAddr) : OwnedM (Option (Ptr NlAddr)) :=
  match gw with
  | some gw => do
      let addr ← nlAddrClone gw
      return some addr
  | none => return none

def routeNextHopSetSimpleGateway (nh : RouteNextHop) (gw : Option NlAddr) :
    OwnedM RouteNextHop := do
  let addr ← cloneGateway gw
  return { nh with kind := .simple, simple := { nh.simple with addr := addr } }

def routeNextHopSetSimpleInterface (nh : RouteNextHop) (ifindex : Nat)
    (ifName : Option String) : OwnedM RouteNextHop := do
  let name ← xstrdup ifName
  return { nh with simple := { nh.simple with ifindex := ifindex, ifName := some name } }

def routeNextHopSetSimple (nh : RouteNextHop) (ifindex : Nat) (ifName : Option String)
    (gw : Option NlAddr) : OwnedM RouteNextHop := do
  let nh ← routeNextHopSetSimpleGateway nh gw
  routeNextHopSetSimpleInterface nh ifindex ifName

def routeNextHopSetSpecial (nh : RouteNextHop) (value : Option String) : OwnedM RouteNextHop :=
  match value with
  | some v => do
      let text ← xstrdup (some v)
      return { nh with kind := .special, special := some text }
  | none => return { nh with kind := .special }

def routeNextHopAddList (nh : RouteNextHop) (ifindex : Nat) (ifName : Option String)
    (gw : Option NlAddr) : OwnedM RouteNextHop := do
  let nh : RouteNextHop := if nh.kind = .none then { nh with listHead := [], kind := .list } else nh
  let element ← alloc .nextHop
  let name ← xstrdup ifName
  let addr ← cloneGateway gw
  return { nh with listHead := nh.listHead ++
    [⟨element, { addr := addr, ifindex := ifindex, ifName := some name }⟩] }

/-- `route_next_hop_clone` reads the strings and addresses of the original. -/
def routeNextHopClone (nh : RouteNextHop) : OwnedM RouteNextHop :=
  match nh.kind with
  | .none => return {}
  | .simple => do
      let ifName ← readText nh.simple.ifName
      let gw ← readAddr nh.simple.addr
      routeNextHopSetSimple {} nh.simple.ifindex ifName gw
  | .special => do
      let value ← readText nh.special
      routeNextHopSetSpecial {} value
  | .list => nh.listHead.foldlM (fun out iter => do
      let ifName ← readText iter.val.ifName
      let gw ← readAddr iter.val.addr
      routeNextHopAddList out iter.val.ifindex ifName gw) {}

/-- One element of a next hop list is released. -/
def freeNextHopElement (element : Ptr RouteNextHopSimple) : OwnedM Unit := do
  putAddr element.val.addr
  freeText element.val.ifName
  release (element.addr, .nextHop)

/-- `route_next_hop_free`; `FREE_SAFE` clears the pointer, `nl_addr_put` does
not. -/
def routeNextHopFree (nh : RouteNextHop) : OwnedM RouteNextHop :=
  match nh.kind with
  | .none => return routeNextHopInit nh
  | .simple => do
      putAddr nh.simple.addr
      freeText nh.simple.ifName
      return routeNextHopInit { nh with simple := { nh.simple with ifName := none } }
  | .special => do
      freeText nh.special
      return routeNextHopInit { nh with special := none }
  | .list => do
      forM nh.listHead freeNextHopElement
      return routeNextHopInit { nh with listHead := [] }

/-! ## routes -/

/-- `struct route_metadata`. -/
structure RouteMetadata where
  sourceProtocol : Option (Ptr String) := none
  lastUpdated : Option (Ptr String) := none
  description : Option (Ptr String) := none
  active : Bool := false

/-- `struct route`. -/
structure Route where
  preference : Nat := 0
  metadata : RouteMetadata := {}
  nextHop : RouteNextHop := {}

def routeInit (route : Route) : Route :=
  { preference := 0, metadata := {}, nextHop := routeNextHopInit route.nextHop }

def routeSetPreference (route : Route) (pref : Nat) : Route := { route with preference := pref }

def routeSetActive (route : Route) (active : Bool) : Route :=
  { route with metadata := { route.metadata with active := active } }

def routeSetSourceProtocol (route : Route) (proto : Option String) : OwnedM Route :=
  match proto with
  | some p => do
      let text ← xstrdup (some p)
      return { route with metadata := { route.metadata with sourceProtocol := some text } }
  | none => return route

/-- Writes the source protocol, as the source does. -/
def routeSetLastUpdated (route : Route) (lastUp : Option String) : OwnedM Route :=
  match lastUp with
  | some l => do
      let text ← xstrdup (some l)
      return { route with metadata := { route.metadata with sourceProtocol := some text } }
  | none => return route

def routeSetDescription (route : Route) (description : Option String) : OwnedM Route :=
  match description with
  | some d => do
      let text ← xstrdup (some d)
      return { route with metadata := { route.metadata with description := some text } }
  | none => return route

def routeClone (route : Route) : OwnedM Route := do
  let out := routeSetActive (routeSetPreference (routeInit {}) route.preference)
    route.metadata.active
  let proto ← readText route.metadata.sourceProtocol
  let out ← routeSetSourceProtocol out proto
  let lastUp ← readText route.metadata.lastUpdated
  let out ← routeSetLastUpdated out lastUp
  let description ← readText route.metadata.description
  let out ← routeSetDescription out description
  let nextHop ← routeNextHopClone route.nextHop
  return { out with nextHop := nextHop }

def routeFree (route : Route) : OwnedM Route := do
  freeText route.metadata.sourceProtocol
  freeText route.metadata.lastUpdated
  freeText route.metadata.description
  let nextHop ← routeNextHopFree route.nextHop
  return routeInit { route with nextHop := nextHop }

/-! ## the route hash -/

def routeListAdd (head : List (Ptr Route)) (route : Route) : OwnedM (List (Ptr Route)) := do
  let new ← alloc .route
  let copy ← routeClone route
  return ⟨new, copy⟩ :: head

def routeListFree (head : List (Ptr Route)) : OwnedM Unit :=
  forM head fun iter => do
    let _ ← routeFree iter.val
    release (iter.addr, .route)

/-- `struct route_list_hash_element`. -/
structure RouteListHashElement where
  pfx : Ptr NlAddr
  routesHead : List (Ptr Route)

/-- What `route_list_hash_element_cmp` compares. -/
def bucketKey (e : Ptr RouteListHashElement) : NlAddr := e.val.pfx.val

def routeListHashGet (head : List (Ptr RouteListHashElement)) (addr : NlAddr) :
    Option (List (Ptr Route)) :=
  (Keyed.lookup bucketKey addr head).map fun e => e.val.routesHead

def routeListHashAdd (head : List (Ptr RouteListHashElement)) (addr : NlAddr) (route : Route) :
    OwnedM (List (Ptr RouteListHashElement)) :=
  match routeListHashGet head addr with
  | some routesHead => do
      let routesHead ← routeListAdd routesHead route
      return Keyed.adjust bucketKey addr
        (fun e => { e with val := { e.val with routesHead := routesHead } }) head
  | none => do
      let new ← alloc .bucket
      let pfx ← nlAddrClone addr
      let routesHead ← routeListAdd [] route
      return head ++ [⟨new, { pfx := pfx, routesHead := routesHead }⟩]

def routeListHashFree (head : List (Ptr RouteListHashElement)) : OwnedM Unit :=
  forM head fun iter => do
    release (addrBlock iter.val.pfx)
    routeListFree iter.val.routesHead
    release (iter.addr, .bucket)

/-! ## the RIB list -/

/-- `struct rib`. -/
structure Rib where
  name : RibName
  description : String := ""
  addressFamily : Nat := AF_UNSPEC
  defaultRib : Bool := false
  routesHead : List (Ptr RouteListHashElement) := []

/-- What `rib_list_element_cmp` compares. -/
def ribKey (rib : Ptr Rib) : RibName × Nat := (rib.val.name, rib.val.addressFamily)

def ribListGet (head : List (Ptr Rib)) (name : RibName) (af : Nat) : Option Rib :=
  (Keyed.lookup ribKey (name, af) head).map Ptr.val

def ribListAdd (head : List (Ptr Rib)) (name : RibName) (af : Nat) : OwnedM (List (Ptr Rib)) :=
  match ribListGet head name af with
  | some _ => return head
  | none => do
      let new ← alloc .rib
      return head ++ [⟨new, { name := name, addressFamily := af }⟩]

/-- Write through the pointer `rib_list_get` returned. -/
def ribListUpdate (head : List (Ptr Rib)) (name : RibName) (af : Nat) (f : Rib → Rib) :
    List (Ptr Rib) :=
  Keyed.adjust ribKey (name, af) (fun rib => { rib with val := f rib.val }) head

def ribListSetDefault (head : List (Ptr Rib)) (name : RibName) (af : Nat) (dflt : Bool) :
    Int × List (Ptr Rib) :=
  match ribListGet head name af with
  | some _ => (0, ribListUpdate head name af fun rib => { rib with defaultRib := dflt })
  | none => (-1, head)

/-- `rib_list_free`, with `rib_free` in it. -/
def ribListFree (head : List (Ptr Rib)) : OwnedM Unit :=
  forM head fun iter => do
    routeListHashFree iter.val.routesHead
    release (iter.addr, .rib)

end SysrepoInterfaces.Routing.Owned
