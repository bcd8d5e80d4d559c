import SysrepoInterfaces.Routing.Nexthops

/-!
# SysrepoInterfaces.Routing.Clone

What `route_clone` makes of next hops of each kind, where the members of the
union stand side by side, and what makes a copy the same.
-/

namespace SysrepoInterfaces.Routing

open CProg

/-- A next hop with the member that was written alone. -/
def RouteNextHop.written (nh : RouteNextHop) : RouteNextHopKind → RouteNextHop
  | .none => { kind := nh.kind }
  | .simple => { kind := nh.kind, simple := nh.simple }
  | .special => { kind := nh.kind, special := nh.special }
  | .list => { kind := nh.kind, listHead := nh.listHead }

theorem routeNextHopClone_simple {nh : RouteNextHop} (hkind : nh.kind = .simple)
    (hname : nh.simple.ifName.isSome) :
    routeNextHopClone nh = .ok { kind := .simple, simple := nh.simple } := by
  obtain ⟨kind, ⟨addr, ifindex, ifName⟩, special, listHead⟩ := nh
  obtain rfl : kind = .simple := hkind
  obtain ⟨name, rfl⟩ := Option.isSome_iff_exists.mp hname
  rfl

theorem routeNextHopClone_special {nh : RouteNextHop} (hkind : nh.kind = .special) :
    routeNextHopClone nh = .ok { kind := .special, special := nh.special } := by
  obtain ⟨kind, simple, special, listHead⟩ := nh
  obtain rfl : kind = .special := hkind
  cases special <;> rfl

theorem routeNextHopClone_none {nh : RouteNextHop} (hkind : nh.kind = .none) :
    routeNextHopClone nh = .ok {} := by
  rw [routeNextHopClone, hkind]

/-- Without a name there is nothing to clone. -/
theorem routeNextHopClone_crash {nh : RouteNextHop} (hkind : nh.kind = .simple)
    (hname : nh.simple.ifName = none) : routeNextHopClone nh = .crash := by
  rw [routeNextHopClone, hkind]
  simp only [hname]
  rfl

/-- All else of a route is copied as it is. -/
theorem routeClone_eq {route : Route} (hlast : route.metadata.lastUpdated = none) :
    routeClone route =
      (routeNextHopClone route.nextHop >>= fun nh => Exit.ok { route with nextHop := nh }) := by
  obtain ⟨preference, ⟨sourceProtocol, lastUpdated, description, active⟩, nextHop⟩ := route
  obtain rfl : lastUpdated = none := hlast
  cases sourceProtocol <;> cases description <;> rfl

/-- The copy has what the original has; of the union, the member that was
written. -/
structure SameRoute (member : RouteNextHopKind) (route copy : Route) : Prop where
  preference : copy.preference = route.preference
  metadata : copy.metadata = route.metadata
  nextHop : copy.nextHop.written member = route.nextHop.written member

end SysrepoInterfaces.Routing
