import SysrepoInterfaces.Lib.Paired
import SysrepoInterfaces.Routing.RouteHash

/-!
# SysrepoInterfaces.Routing.Overlaid

Next hops with the union as it lies in memory.  The gateway of a simple next
hop, the value of a special one and the head of a list are one pointer; the
index and the name of an interface come after it.  A pointer is followed by the
kind of the next hop, whatever it was written as.

Next hops that are written and read under one kind are those of
`Routing.Types`, which keeps the members side by side.
-/

namespace SysrepoInterfaces.Routing.Overlaid

open CProg Keyed

/-! ## pointers -/

/-- A pointer and what it points to.  A stale one points to nothing that is
still there. -/
inductive Pointer where
  | null
  | addr (addr : NlAddr)
  | text (text : String)
  | element (first : RouteNextHopSimple) (rest : List RouteNextHopSimple)
  | stale
deriving DecidableEq, Repr

namespace Pointer

/-- Followed as a `struct nl_addr *`, unless it is `NULL`; what is read
elsewhere is undefined. -/
def asAddr : Pointer → Exit (Option NlAddr)
  | null => .ok none
  | addr a => .ok (some a)
  | _ => .crash

/-- Followed as a `char *`. -/
def asText : Pointer → Exit (Option String)
  | null => .ok none
  | text t => .ok (some t)
  | _ => .crash

/-- Followed as a `struct route_next_hop_list_element *`, to the end of the
list. -/
def asList : Pointer → Exit (List RouteNextHopSimple)
  | null => .ok []
  | element x xs => .ok (x :: xs)
  | _ => .crash

def ofAddr : Option NlAddr → Pointer
  | some a => addr a
  | none => null

def ofText : Option String → Pointer
  | some t => text t
  | none => null

def ofList : List RouteNextHopSimple → Pointer
  | [] => null
  | x :: xs => element x xs

@[simp] theorem asAddr_ofAddr (a : Option NlAddr) : (ofAddr a).asAddr = .ok a := by
  cases a <;> rfl

@[simp] theorem asText_ofText (t : Option String) : (ofText t).asText = .ok t := by
  cases t <;> rfl

@[simp] theorem asList_ofList (xs : List RouteNextHopSimple) : (ofList xs).asList = .ok xs := by
  cases xs <;> rfl

@[simp] theorem ofText_some (t : String) : ofText (some t) = text t := rfl

end Pointer

/-! ## next hops -/

/-- `struct route_next_hop`. -/
structure RouteNextHop where
  kind : RouteNextHopKind := .none
  /-- `simple.addr`, `special.value` and `list_head` -/
  pointer : Pointer := .null
  /-- `simple.ifindex` -/
  ifindex : Nat := 0
  /-- `simple.if_name` -/
  ifName : Pointer := .null
deriving DecidableEq, Repr

def routeNextHopInit (nh : RouteNextHop) : RouteNextHop := { nh with kind := .none }

def routeNextHopSetSimpleGateway (nh : RouteNextHop) (gw : Option NlAddr) : RouteNextHop :=
  { nh with kind := .simple, pointer := .ofAddr gw }

def routeNextHopSetSimpleInterface (nh : RouteNextHop) (ifindex : Nat)
    (ifName : Option String) : Exit RouteNextHop := do
  let name ← xstrdup ifName
  return { nh with ifindex, ifName := .text name }

def routeNextHopSetSimple (nh : RouteNextHop) (ifindex : Nat) (ifName : Option String)
    (gw : Option NlAddr) : Exit RouteNextHop :=
  routeNextHopSetSimpleInterface (routeNextHopSetSimpleGateway nh gw) ifindex ifName

/-- Without a value the pointer stays what it was. -/
def routeNextHopSetSpecial (nh : RouteNextHop) (value : Option String) : RouteNextHop :=
  match value with
  | some v => { nh with kind := .special, pointer := .text v }
  | none => { nh with kind := .special }

/-- Only a next hop of no kind becomes a list; of any other the pointer is taken
for the head of one. -/
def routeNextHopAddList (nh : RouteNextHop) (ifindex : Nat) (ifName : Option String)
    (gw : Option NlAddr) : Exit RouteNextHop := do
  let nh : RouteNextHop :=
    if nh.kind = .none then { nh with pointer := .null, kind := .list } else nh
  let name ← xstrdup ifName
  let head ← nh.pointer.asList
  return { nh with pointer := .ofList (head ++ [{ addr := gw, ifindex, ifName := some name }]) }

def routeNextHopClone (nh : RouteNextHop) : Exit RouteNextHop :=
  match nh.kind with
  | .none => .ok {}
  | .simple => do
      let gw ← nh.pointer.asAddr
      let ifName ← nh.ifName.asText
      routeNextHopSetSimple {} nh.ifindex ifName gw
  | .special => do
      let value ← nh.pointer.asText
      return routeNextHopSetSpecial {} value
  | .list => do
      let head ← nh.pointer.asList
      head.foldlM (fun out iter => routeNextHopAddList out iter.ifindex iter.ifName iter.addr) {}

/-! ## routes -/

/-- `struct route`. -/
structure Route where
  preference : Nat := 0
  metadata : RouteMetadata := {}
  nextHop : RouteNextHop := {}
deriving DecidableEq, Repr

/-- Leaves the union as it was. -/
def routeInit (route : Route) : Route :=
  { preference := 0, metadata := {}, nextHop := routeNextHopInit route.nextHop }

def routeSetPreference (route : Route) (pref : Nat) : Route := { route with preference := pref }

def routeSetActive (route : Route) (active : Bool) : Route :=
  { route with metadata := { route.metadata with active := active } }

def routeSetSourceProtocol (route : Route) (proto : Option String) : Route :=
  match proto with
  | some p => { route with metadata := { route.metadata with sourceProtocol := some p } }
  | none => route

/-- Writes the source protocol, as the source does. -/
def routeSetLastUpdated (route : Route) (lastUp : Option String) : Route :=
  match lastUp with
  | some l => { route with metadata := { route.metadata with sourceProtocol := some l } }
  | none => route

def routeSetDescription (route : Route) (description : Option String) : Route :=
  match description with
  | some d => { route with metadata := { route.metadata with description := some d } }
  | none => route

def routeClone (route : Route) : Exit Route := do
  let out := routeInit {}
  let out := routeSetPreference out route.preference
  let out := routeSetActive out route.metadata.active
  let out := routeSetSourceProtocol out route.metadata.sourceProtocol
  let out := routeSetLastUpdated out route.metadata.lastUpdated
  let out := routeSetDescription out route.metadata.description
  let nextHop ← routeNextHopClone route.nextHop
  return { out with nextHop := nextHop }

/-- New routes go to the head of the list. -/
def routeListAdd (head : List Route) (route : Route) : Exit (List Route) := do
  let new ← routeClone route
  return new :: head

/-- The lists of a route hash, by prefix. -/
def routeListHashAdd (head : Multimap NlAddr Route) (addr : NlAddr) (route : Route) :
    Exit (Multimap NlAddr Route) :=
  match lookup Prod.fst addr head with
  | some (_, routesHead) => do
      let routesHead ← routeListAdd routesHead route
      return adjust Prod.fst addr (fun e => (e.1, routesHead)) head
  | none => do
      let routesHead ← routeListAdd [] route
      return head ++ [(addr, routesHead)]

/-- An element more, or a first one. -/
theorem routeNextHopAddList_some (nh : RouteNextHop) (ifindex : Nat) (name : String)
    (gw : Option NlAddr) :
    routeNextHopAddList nh ifindex (some name) gw =
      if nh.kind = .none then .ok { nh with
        kind := .list, pointer := .element { addr := gw, ifindex, ifName := some name } [] }
      else nh.pointer.asList >>= fun head => .ok { nh with
        pointer := .ofList (head ++ [{ addr := gw, ifindex, ifName := some name }]) } := by
  by_cases h : nh.kind = .none
  · simp [routeNextHopAddList, h, Pointer.asList, Pointer.ofList]
  · simp [routeNextHopAddList, h]

/-- All else of a route is copied as it is. -/
theorem routeClone_eq {route : Route} (hlast : route.metadata.lastUpdated = none) :
    routeClone route =
      (routeNextHopClone route.nextHop >>= fun nh => Exit.ok { route with nextHop := nh }) := by
  obtain ⟨preference, ⟨sourceProtocol, lastUpdated, description, active⟩, nextHop⟩ := route
  obtain rfl : lastUpdated = none := hlast
  cases sourceProtocol <;> cases description <;> rfl

/-- A route goes to the head of the list of its prefix. -/
theorem routeListHashAdd_eq (head : Multimap NlAddr Route) (addr : NlAddr) (route : Route) :
    routeListHashAdd head addr route =
      (routeClone route >>= fun new => Exit.ok (Multimap.push addr new head)) := by
  cases hclone : routeClone route with
  | ok new =>
      induction head with
      | nil => simp [routeListHashAdd, routeListAdd, hclone, Multimap.push]
      | cons e head ih =>
          simp only [routeListHashAdd, routeListAdd, hclone, Exit.ok_bind, Exit.pure_eq] at ih
          simp only [routeListHashAdd, routeListAdd, hclone, Exit.ok_bind, Exit.pure_eq,
            lookup_cons, Multimap.push]
          by_cases h : e.1 = addr
          · simp [h, adjust]
          · rw [if_neg h, if_neg h]
            cases hfound : lookup Prod.fst addr head <;> simp_all [adjust]
  | error => cases hfound : lookup Prod.fst addr head <;>
      simp [routeListHashAdd, routeListAdd, hclone, hfound]
  | crash => cases hfound : lookup Prod.fst addr head <;>
      simp [routeListHashAdd, routeListAdd, hclone, hfound]

/-! ## filling a route -/

/-- The calls that fill a next hop. -/
inductive NextHopCall where
  | setSimpleGateway (gw : Option NlAddr)
  | setSimpleInterface (ifindex : Nat) (ifName : Option String)
  | setSimple (ifindex : Nat) (ifName : Option String) (gw : Option NlAddr)
  | setSpecial (value : Option String)
  | addList (ifindex : Nat) (ifName : Option String) (gw : Option NlAddr)

/-- The calls that fill a route. -/
inductive RouteCall where
  | setPreference (pref : Nat)
  | setActive (active : Bool)
  | setSourceProtocol (proto : Option String)
  | setLastUpdated (lastUp : Option String)
  | setDescription (description : Option String)
  | nextHop (call : NextHopCall)

def NextHopCall.run (nh : RouteNextHop) : NextHopCall → Exit RouteNextHop
  | .setSimpleGateway gw => .ok (routeNextHopSetSimpleGateway nh gw)
  | .setSimpleInterface ifindex ifName => routeNextHopSetSimpleInterface nh ifindex ifName
  | .setSimple ifindex ifName gw => routeNextHopSetSimple nh ifindex ifName gw
  | .setSpecial value => .ok (routeNextHopSetSpecial nh value)
  | .addList ifindex ifName gw => routeNextHopAddList nh ifindex ifName gw

def RouteCall.run (route : Route) : RouteCall → Exit Route
  | .setPreference pref => .ok (routeSetPreference route pref)
  | .setActive active => .ok (routeSetActive route active)
  | .setSourceProtocol proto => .ok (routeSetSourceProtocol route proto)
  | .setLastUpdated lastUp => .ok (routeSetLastUpdated route lastUp)
  | .setDescription description => .ok (routeSetDescription route description)
  | .nextHop call => do
      let nh ← call.run route.nextHop
      return { route with nextHop := nh }

/-! ## members side by side -/

/-- The interface, and the member of the kind, are in memory what they are where
the members stand side by side. -/
structure Overlays (nh : Routing.RouteNextHop) (u : RouteNextHop) : Prop where
  kind : u.kind = nh.kind
  ifindex : u.ifindex = nh.simple.ifindex
  ifName : u.ifName = .ofText nh.simple.ifName
  simple : nh.kind = .simple → u.pointer = .ofAddr nh.simple.addr
  special : nh.kind = .special → u.pointer = .ofText nh.special
  list : nh.kind = .list → u.pointer = .ofList nh.listHead

section Overlays

variable {nh : Routing.RouteNextHop} {u : RouteNextHop} {route : Routing.Route} {r : Route}

theorem overlays_zero : Overlays {} {} := ⟨rfl, rfl, rfl, nofun, nofun, nofun⟩

theorem Overlays.init (h : Overlays nh u) :
    Overlays (Routing.routeNextHopInit nh) (routeNextHopInit u) :=
  ⟨rfl, h.ifindex, h.ifName, nofun, nofun, nofun⟩

theorem Overlays.setSimpleGateway (h : Overlays nh u) (gw : Option NlAddr) :
    Overlays (Routing.routeNextHopSetSimpleGateway nh gw) (routeNextHopSetSimpleGateway u gw) :=
  ⟨rfl, h.ifindex, h.ifName, fun _ => rfl, nofun, nofun⟩

theorem Overlays.setSimpleInterface (h : Overlays nh u) (ifindex : Nat)
    (ifName : Option String) :
    Exit.Alike Overlays (Routing.routeNextHopSetSimpleInterface nh ifindex ifName)
      (routeNextHopSetSimpleInterface u ifindex ifName) := by
  cases ifName with
  | none => exact trivial
  | some name => exact ⟨h.kind, rfl, rfl, h.simple, h.special, h.list⟩

theorem Overlays.setSimple (h : Overlays nh u) (ifindex : Nat) (ifName : Option String)
    (gw : Option NlAddr) :
    Exit.Alike Overlays (Routing.routeNextHopSetSimple nh ifindex ifName gw)
      (routeNextHopSetSimple u ifindex ifName gw) :=
  (h.setSimpleGateway gw).setSimpleInterface ifindex ifName

/-- Without a value the old one is kept, which has to be there. -/
theorem Overlays.setSpecial (h : Overlays nh u) {value : Option String}
    (hvalue : value.isSome ∨ nh.kind = .special) :
    Overlays (Routing.routeNextHopSetSpecial nh value) (routeNextHopSetSpecial u value) := by
  cases value with
  | some value => exact ⟨rfl, h.ifindex, h.ifName, nofun, fun _ => rfl, nofun⟩
  | none =>
      have hkind := hvalue.resolve_left (by simp)
      exact ⟨rfl, h.ifindex, h.ifName, nofun, fun _ => h.special hkind, nofun⟩

theorem Overlays.addList (h : Overlays nh u) (hkind : nh.kind = .none ∨ nh.kind = .list)
    (ifindex : Nat) (ifName : Option String) (gw : Option NlAddr) :
    Exit.Alike (fun nh u => Overlays nh u ∧ nh.kind = .list)
      (Routing.routeNextHopAddList nh ifindex ifName gw)
      (routeNextHopAddList u ifindex ifName gw) := by
  cases ifName with
  | none => exact trivial
  | some name =>
      rw [Routing.routeNextHopAddList_some, routeNextHopAddList_some, h.kind]
      rcases hkind with hkind | hkind
      · rw [if_pos hkind, if_pos hkind, if_pos hkind]
        exact ⟨⟨rfl, h.ifindex, h.ifName, nofun, nofun, fun _ => rfl⟩, rfl⟩
      · have hne : ¬ nh.kind = .none := by simp [hkind]
        rw [if_neg hne, if_neg hne, if_neg hne, h.list hkind, Pointer.asList_ofList, Exit.ok_bind]
        exact ⟨⟨rfl, h.ifindex, h.ifName, by simp [hkind], by simp [hkind], fun _ => rfl⟩,
          hkind⟩

/-- Clones say the same. -/
theorem Overlays.clone (h : Overlays nh u) :
    Exit.Alike Overlays (Routing.routeNextHopClone nh) (routeNextHopClone u) := by
  unfold Routing.routeNextHopClone routeNextHopClone
  rw [h.kind]
  cases hkind : nh.kind with
  | none => exact overlays_zero
  | simple =>
      simp only [h.simple hkind, h.ifindex, h.ifName, Pointer.asAddr_ofAddr,
        Pointer.asText_ofText, Exit.ok_bind]
      exact overlays_zero.setSimple ..
  | special =>
      simp only [h.special hkind, Pointer.asText_ofText, Exit.ok_bind]
      cases nh.special <;> exact ⟨rfl, rfl, rfl, nofun, fun _ => rfl, nofun⟩
  | list =>
      have hround : ∀ (a : Routing.RouteNextHop) (b : RouteNextHop) (iter : RouteNextHopSimple),
          Overlays a b ∧ (a.kind = .none ∨ a.kind = .list) →
            Exit.Alike (fun a b => Overlays a b ∧ (a.kind = .none ∨ a.kind = .list))
              (Routing.routeNextHopAddList a iter.ifindex iter.ifName iter.addr)
              (routeNextHopAddList b iter.ifindex iter.ifName iter.addr) :=
        fun _ _ iter hQ => (hQ.1.addList hQ.2 iter.ifindex iter.ifName iter.addr).imp
          fun _ _ hlist => ⟨hlist.1, .inr hlist.2⟩
      simp only [h.list hkind, Pointer.asList_ofList, Exit.ok_bind]
      exact (Exit.alike_foldlM hround nh.listHead ⟨overlays_zero, .inl rfl⟩).imp
        fun _ _ hQ => hQ.1

/-- A route and one in memory. -/
structure OverlaysRoute (route : Routing.Route) (r : Route) : Prop where
  preference : r.preference = route.preference
  metadata : r.metadata = route.metadata
  nextHop : Overlays route.nextHop r.nextHop

theorem OverlaysRoute.clone (h : OverlaysRoute route r) :
    Exit.Alike OverlaysRoute (Routing.routeClone route) (routeClone r) := by
  obtain ⟨preference, ⟨sourceProtocol, lastUpdated, description, active⟩, nextHop⟩ := route
  obtain ⟨preference', metadata', nextHop'⟩ := r
  obtain ⟨hpreference, hmetadata, hnextHop⟩ := h
  obtain rfl : preference' = preference := hpreference
  obtain rfl : metadata' = _ := hmetadata
  have hclone := hnextHop.clone
  cases sourceProtocol <;> cases lastUpdated <;> cases description <;>
    exact hclone.bind fun _ _ _ hcopy => ⟨rfl, rfl, hcopy⟩

end Overlays

/-! ## calls side by side -/

def NextHopCall.runAside (nh : Routing.RouteNextHop) : NextHopCall → Exit Routing.RouteNextHop
  | .setSimpleGateway gw => .ok (Routing.routeNextHopSetSimpleGateway nh gw)
  | .setSimpleInterface ifindex ifName =>
      Routing.routeNextHopSetSimpleInterface nh ifindex ifName
  | .setSimple ifindex ifName gw => Routing.routeNextHopSetSimple nh ifindex ifName gw
  | .setSpecial value => .ok (Routing.routeNextHopSetSpecial nh value)
  | .addList ifindex ifName gw => Routing.routeNextHopAddList nh ifindex ifName gw

def RouteCall.runAside (route : Routing.Route) : RouteCall → Exit Routing.Route
  | .setPreference pref => .ok (Routing.routeSetPreference route pref)
  | .setActive active => .ok (Routing.routeSetActive route active)
  | .setSourceProtocol proto => .ok (Routing.routeSetSourceProtocol route proto)
  | .setLastUpdated lastUp => .ok (Routing.routeSetLastUpdated route lastUp)
  | .setDescription description => .ok (Routing.routeSetDescription route description)
  | .nextHop call => do
      let nh ← call.runAside route.nextHop
      return { route with nextHop := nh }

/-- The call finds the union as its own kind has left it. -/
def RouteCall.Fits (route : Routing.Route) : RouteCall → Prop
  | .nextHop (.setSpecial value) => value.isSome ∨ route.nextHop.kind = .special
  | .nextHop (.addList ..) => route.nextHop.kind = .none ∨ route.nextHop.kind = .list
  | _ => True

/-- Each call of a list fits when it is made. -/
def FitsAll : Routing.Route → List RouteCall → Prop
  | _, [] => True
  | route, call :: calls => call.Fits route ∧ ∀ route', call.runAside route = .ok route' →
      FitsAll route' calls

section Calls

variable {nh : Routing.RouteNextHop} {u : RouteNextHop} {route : Routing.Route} {r : Route}

theorem OverlaysRoute.call (h : OverlaysRoute route r) {call : RouteCall}
    (hfits : call.Fits route) :
    Exit.Alike OverlaysRoute (call.runAside route) (call.run r) := by
  obtain ⟨hpreference, hmetadata, hnextHop⟩ := h
  cases call with
  | setPreference pref => exact ⟨rfl, hmetadata, hnextHop⟩
  | setActive active => exact ⟨hpreference, by simp [routeSetActive, Routing.routeSetActive,
      hmetadata], hnextHop⟩
  | setSourceProtocol proto =>
      cases proto with
      | none => exact ⟨hpreference, hmetadata, hnextHop⟩
      | some p => exact ⟨hpreference, by simp [routeSetSourceProtocol,
          Routing.routeSetSourceProtocol, hmetadata], hnextHop⟩
  | setLastUpdated lastUp =>
      cases lastUp with
      | none => exact ⟨hpreference, hmetadata, hnextHop⟩
      | some l => exact ⟨hpreference, by simp [routeSetLastUpdated,
          Routing.routeSetLastUpdated, hmetadata], hnextHop⟩
  | setDescription description =>
      cases description with
      | none => exact ⟨hpreference, hmetadata, hnextHop⟩
      | some d => exact ⟨hpreference, by simp [routeSetDescription,
          Routing.routeSetDescription, hmetadata], hnextHop⟩
  | nextHop call =>
      have hcall : Exit.Alike Overlays (call.runAside route.nextHop) (call.run r.nextHop) := by
        cases call with
        | setSimpleGateway gw => exact hnextHop.setSimpleGateway gw
        | setSimpleInterface ifindex ifName => exact hnextHop.setSimpleInterface ifindex ifName
        | setSimple ifindex ifName gw => exact hnextHop.setSimple ifindex ifName gw
        | setSpecial value => exact hnextHop.setSpecial hfits
        | addList ifindex ifName gw =>
            exact (hnextHop.addList hfits ifindex ifName gw).imp fun _ _ hlist => hlist.1
      exact hcall.bind fun _ _ _ hnh => ⟨hpreference, hmetadata, hnh⟩

/-- Calls that fit leave the same route, members side by side or in memory. -/
theorem OverlaysRoute.calls {calls : List RouteCall} (h : OverlaysRoute route r)
    (hfits : FitsAll route calls) :
    Exit.Alike OverlaysRoute (calls.foldlM RouteCall.runAside route)
      (calls.foldlM RouteCall.run r) := by
  induction calls generalizing route r with
  | nil => exact h
  | cons call calls ih =>
      rw [List.foldlM_cons, List.foldlM_cons]
      exact (h.call hfits.1).bind fun route' _ hcall hroute => ih hroute (hfits.2 route' hcall)

/-- A zeroed route that is filled so and cloned is the same either way. -/
theorem overlaysRoute_clone {calls : List RouteCall} (hfits : FitsAll {} calls) :
    Exit.Alike OverlaysRoute (calls.foldlM RouteCall.runAside {} >>= Routing.routeClone)
      (calls.foldlM RouteCall.run {} >>= routeClone) :=
  have hzero : OverlaysRoute {} {} := ⟨rfl, rfl, overlays_zero⟩
  (hzero.calls hfits).bind fun _ _ _ hroute => hroute.clone

end Calls

end SysrepoInterfaces.Routing.Overlaid
