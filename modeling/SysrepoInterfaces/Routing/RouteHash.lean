import SysrepoInterfaces.Routing.Types

/-!
# SysrepoInterfaces.Routing.RouteHash

The route hash is a multimap from prefixes to routes: `routeListHashAdd`
refines `Keyed.Multimap.push` on a clone of the route, and writing through the
pointer `routeListHashGet` returns touches one bucket.
-/

namespace SysrepoInterfaces.Routing

open CProg Keyed

/-! ## cloning -/

@[simp] theorem xstrdup_some (s : String) : xstrdup (some s) = .ok s := rfl

@[simp] theorem routeClone_zero : routeClone {} = .ok {} := rfl

/-- `route_next_hop_add_list` on a list, or on a next hop of no kind yet. -/
theorem routeNextHopAddList_some (nh : RouteNextHop) (ifindex : Nat) (name : String)
    (gw : Option NlAddr) :
    routeNextHopAddList nh ifindex (some name) gw = .ok
      { nh with
        kind := if nh.kind = .none then .list else nh.kind
        listHead := (if nh.kind = .none then [] else nh.listHead) ++
          [{ addr := gw, ifindex := ifindex, ifName := some name }] } := by
  by_cases h : nh.kind = .none <;> simp [routeNextHopAddList, h]

/-! ## the hash as a multimap -/

/-- What a route hash stands for. -/
def toMultimap (head : List RouteListHashElement) : Multimap NlAddr Route :=
  head.map fun e => (e.pfx, e.routesHead)

/-- The hash after a clone of a route was added. -/
def routeListHashPush (head : List RouteListHashElement) (addr : NlAddr) (route : Route) :
    List RouteListHashElement :=
  match routeListHashGet head addr with
  | some routesHead =>
      adjust RouteListHashElement.pfx addr (fun e => { e with routesHead := route :: routesHead })
        head
  | none => head ++ [{ pfx := addr, routesHead := [route] }]

theorem routeListHashAdd_eq (head : List RouteListHashElement) (addr : NlAddr) (route : Route) :
    routeListHashAdd head addr route =
      (routeClone route >>= fun new => Exit.ok (routeListHashPush head addr new)) := by
  rw [routeListHashAdd]
  cases h : routeListHashGet head addr with
  | none => cases hc : routeClone route <;> simp [routeListAdd, routeListHashPush, h, hc]
  | some rs => cases hc : routeClone route <;> simp [routeListAdd, routeListHashPush, h, hc]

@[simp] theorem toMultimap_nil : toMultimap [] = [] := rfl

theorem keys_toMultimap (head : List RouteListHashElement) :
    (toMultimap head).map Prod.fst = head.map RouteListHashElement.pfx := by
  simp [toMultimap]

theorem toMultimap_push (head : List RouteListHashElement) (addr : NlAddr) (route : Route) :
    toMultimap (routeListHashPush head addr route) =
      Multimap.push addr route (toMultimap head) := by
  induction head with
  | nil => rfl
  | cons e head ih =>
      simp only [routeListHashPush, routeListHashGet, toMultimap] at ih
      simp only [routeListHashPush, routeListHashGet, lookup_cons, toMultimap, List.map_cons,
        Multimap.push]
      by_cases h : e.pfx = addr
      · simp [h, adjust]
      · rw [if_neg h, if_neg h, ← ih]
        cases lookup RouteListHashElement.pfx addr head with
        | none => rfl
        | some x => simp [adjust, h]

/-- A bucket of the new hash is an old one, or the one the route went to. -/
theorem mem_routeListHashPush {head : List RouteListHashElement} {addr : NlAddr} {route : Route}
    {e : RouteListHashElement} (h : e ∈ routeListHashPush head addr route) :
    e ∈ head ∨ e.pfx = addr ∧ (e.routesHead = [route] ∨
      ∃ x ∈ head, x.pfx = addr ∧ e.routesHead = route :: x.routesHead) := by
  rw [routeListHashPush, routeListHashGet] at h
  cases hl : lookup RouteListHashElement.pfx addr head with
  | none =>
      rw [hl] at h
      rcases List.mem_append.mp h with h | h
      · exact .inl h
      · obtain rfl := List.mem_singleton.mp h
        exact .inr ⟨rfl, .inl rfl⟩
  | some x =>
      rw [hl] at h
      rcases mem_adjust h with h | ⟨y, hy, rfl⟩
      · exact .inl h
      · obtain rfl : x = y := Option.some.inj (hl.symm.trans hy)
        have hx : x.pfx = addr := key_of_lookup hl
        exact .inr ⟨hx, .inr ⟨x, mem_of_lookup hl, hx, rfl⟩⟩

/-- The pushed route heads the list found under its prefix. -/
theorem lookup_routeListHashPush (head : List RouteListHashElement) (addr : NlAddr)
    (route : Route) : ∃ e, lookup RouteListHashElement.pfx addr
      (routeListHashPush head addr route) = some e ∧
        e.routesHead = route :: (routeListHashGet head addr).getD [] := by
  rw [routeListHashPush, routeListHashGet]
  cases hl : lookup RouteListHashElement.pfx addr head with
  | none => exact ⟨_, by simp [lookup_append, hl, lookup_cons]; rfl, rfl⟩
  | some x =>
      refine ⟨{ x with routesHead := route :: x.routesHead }, ?_, rfl⟩
      simp only [Option.map_some]
      rw [lookup_adjust_self (by intro e; rfl), hl]
      rfl

end SysrepoInterfaces.Routing
