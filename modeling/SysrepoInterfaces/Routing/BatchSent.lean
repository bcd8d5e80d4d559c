import SysrepoInterfaces.Lib.Delivery
import SysrepoInterfaces.Routing.Apply
import SysrepoInterfaces.Routing.ExportCalls

/-!
# SysrepoInterfaces.Routing.BatchSent

What `routing_apply_new_routes` and `routing_apply_delete_routes` send for a
route hash.  The hash is one list of routes, prefix by prefix; each route
leads to one request, until one is refused or does not come about.
-/

namespace SysrepoInterfaces.Routing

open CProg Counted Keyed Requests

variable {env : RoutingEnv}

/-! ## the rounds -/

/-- The routes of a hash with their prefixes, in the order of the two loops. -/
def flatRoutes (routesHash : List RouteListHashElement) : List (NlAddr × Route) :=
  Multimap.pairs (toMultimap routesHash)

/-- Two nested loops over a hash are one over its routes. -/
theorem forM_flatRoutes (routesHash : List RouteListHashElement)
    (f : NlAddr → Route → RoutingM Unit) :
    (forM routesHash fun e => forM e.routesHead (f e.pfx)) =
      forM (flatRoutes routesHash) fun x => f x.1 x.2 := by
  induction routesHash with
  | nil => rfl
  | cons e es ih =>
      rw [List.forM_cons, ih]
      simp only [flatRoutes, toMultimap, Multimap.pairs, List.map_cons, List.flatMap_cons,
        List.forM_append, List.forM_map]

/-- The objects `routing_apply_new_routes` allocates for a route. -/
def newRouteAllocs (route : Route) : Nat :=
  1 + match route.nextHop.kind with
    | .simple => 1
    | .list => route.nextHop.listHead.length
    | .none => 0
    | .special => 0

/-- A simple next hop has a gateway or an interface. -/
def Route.usable (route : Route) : Bool :=
  route.nextHop.kind ≠ .simple || route.nextHop.simple.ifName.isSome ||
    route.nextHop.simple.addr.isSome

theorem run_require_send (env : RoutingEnv) (r : Request) (s : RoutingState) :
    ∃ s', (send env r).require.run s =
        (if env.answer s.sent.length = 0 then .ok () else .error, s') ∧
      s'.calls = s.calls ∧ (kernel env).Sent s s' [(r, env.answer s.sent.length)] := by
  obtain ⟨answer, s', hrun, hsent⟩ := sends_send env r s
  obtain ⟨hanswer, hs'⟩ := Prod.mk.inj ((run_send env r s).symm.trans hrun)
  obtain rfl := Exit.ok.inj hanswer
  refine ⟨s', ?_, by rw [← hs'], hsent⟩
  by_cases hzero : env.answer s.sent.length = 0
  · rw [if_pos hzero]
    exact Prog.run_require_of_zero (hzero ▸ hrun)
  · rw [if_neg hzero]
    exact Prog.run_require_of_ne hrun hzero

/-- Allocations, and then the request. -/
theorem sendsOnce_of_exact {α : Type} {p : RoutingM α} {k : Nat} {a₀ : α} {r : Request}
    {f : α → RoutingM Unit} (hp : exportLedger.Exact env.lib p k fun a => a = a₀)
    (hquiet : (kernel env).Quiet p) (hf : f a₀ = (send env r).require) :
    (kernel env).SendsOnce RoutingState.calls env.lib env.answer (p >>= f) k true r where
  ready := by
    intro s hready
    obtain ⟨a, s₁, hrun, rfl, hcalls, -, -⟩ := (hp s).1 hready.1
    have hunchanged : (kernel env).Unchanged s s₁ := by simpa [hrun] using hquiet s
    obtain ⟨s₂, hrun', hcalls', hsent⟩ := run_require_send env r s₁
    have hlog : s₁.sent = s.sent := hunchanged.1
    rw [hlog] at hrun' hsent
    have hcalls : s₁.calls = s.calls + k := hcalls
    refine ⟨s₂, ?_, hcalls'.trans hcalls, (Link.sent_of_unchanged hunchanged).trans hsent⟩
    rw [Prog.run_bind_ok hrun, hf]
    exact hrun'
  stuck := by
    intro s hstuck
    obtain ⟨s₁, hrun, -⟩ := (hp s).2 fun hgood => hstuck ⟨hgood, rfl⟩
    have hunchanged : (kernel env).Unchanged s s₁ := by simpa [hrun] using hquiet s
    exact ⟨s₁, Prog.run_bind_error hrun, Link.sent_of_unchanged hunchanged⟩

theorem exact_checked_return {α : Type} (c : Call) (a : α) :
    exportLedger.Exact env.lib (do checked env c; return a) 1 fun b => b = a := by
  have hreturn : exportLedger.Exact env.lib (pure a) 0 fun b => b = a := Ledger.exact_pure rfl
  exact (exact_checked c).bind fun _ _ => hreturn

/-- The next hops of a route that is usable. -/
theorem exact_newRouteNexthops {route : Route} (h : route.usable = true) :
    exportLedger.Exact env.lib (do
        checked env .rtnlRouteAlloc
        newRouteNexthops env route.nextHop) (newRouteAllocs route)
      fun nexthops => nexthops = requestNexthops route.nextHop := by
  refine (exact_checked _).bind fun _ _ => ?_
  rw [newRouteNexthops, requestNexthops]
  cases hkind : route.nextHop.kind with
  | none => exact Ledger.exact_pure rfl
  | simple =>
      have hparts : ¬ (route.nextHop.simple.ifName = none ∧ route.nextHop.simple.addr = none) := by
        rintro ⟨hname, haddr⟩
        simp [Route.usable, hkind, hname, haddr] at h
      simp only [if_neg hparts]
      exact exact_checked_return _ _
  | special => exact Ledger.exact_pure rfl
  | list =>
      have hloop : exportLedger.Exact env.lib (route.nextHop.listHead.mapM fun simple => do
            checked env .rtnlRouteNhAlloc
            return ({ ifindex := some simple.ifindex, gateway := simple.addr } : RtnlNexthop))
          (route.nextHop.listHead.map fun _ => 1).sum fun nexthops => nexthops =
            route.nextHop.listHead.map fun simple =>
              { ifindex := some simple.ifindex, gateway := simple.addr } :=
        Ledger.exact_mapM fun _ _ => exact_checked_return _ _
      exact hloop.imp (by simp) fun _ h => h

/-- Without a gateway and without an interface nothing can be sent. -/
theorem run_of_not_usable (env : RoutingEnv) {route : Route} (h : route.usable = false)
    (s : RoutingState) :
    ∃ s', (do
      checked env .rtnlRouteAlloc
      newRouteNexthops env route.nextHop).run s = (.error, s') := by
  obtain ⟨⟨hkind, hname⟩, haddr⟩ : (route.nextHop.kind = .simple ∧
      route.nextHop.simple.ifName = none) ∧ route.nextHop.simple.addr = none := by
    simpa [Route.usable] using h
  have hchecked : ∀ c (s : RoutingState), ∃ s', (checked env c).run s = (.ok (), s') ∨
      (checked env c).run s = (.error, s') := by
    intro c s
    rw [run_checked]
    cases env.lib s.calls <;> simp
  have hnexthops : newRouteNexthops env route.nextHop = (do
      checked env .rtnlRouteNhAlloc
      Prog.fail) := by
    rw [newRouteNexthops, hkind]
    simp only [hname, haddr, and_self, if_true]
  rw [hnexthops]
  obtain ⟨s₁, hrun | hrun⟩ := hchecked .rtnlRouteAlloc s
  · obtain ⟨s₂, hrun' | hrun'⟩ := hchecked .rtnlRouteNhAlloc s₁
    · exact ⟨s₂, by rw [Prog.run_bind_ok hrun, Prog.run_bind_ok hrun', Prog.run_fail]⟩
    · exact ⟨s₂, by rw [Prog.run_bind_ok hrun, Prog.run_bind_error hrun']⟩
  · exact ⟨s₁, Prog.run_bind_error hrun⟩

theorem sendsOnce_applyNewRoute (pfx : NlAddr) (route : Route) :
    (kernel env).SendsOnce RoutingState.calls env.lib env.answer (applyNewRoute env pfx route)
      (newRouteAllocs route) route.usable (.routeAdd (newRoute env pfx route)) := by
  have hquiet : (kernel env).Quiet (do
      checked env .rtnlRouteAlloc
      newRouteNexthops env route.nextHop) :=
    Prog.within_bind (quiet_checked env _) fun _ => quiet_newRouteNexthops env _
  have hassoc : applyNewRoute env pfx route = (do
      checked env .rtnlRouteAlloc
      newRouteNexthops env route.nextHop) >>= fun nexthops =>
        let request := { rtnlRouteAlloc pfx with
          table := RT_TABLE_MAIN, protocol := RTPROT_STATIC, priority := route.preference,
          nexthops := nexthops }
        (send env (.routeAdd { request with scope := env.guessScope request })).require := by
    rw [bind_assoc]
    rfl
  rw [hassoc]
  cases husable : route.usable with
  | true => exact sendsOnce_of_exact (exact_newRouteNexthops husable) hquiet rfl
  | false =>
      refine ⟨fun _ h => absurd h.2 (by simp), fun s _ => ?_⟩
      obtain ⟨s₁, hrun⟩ := run_of_not_usable env husable s
      have hunchanged : (kernel env).Unchanged s s₁ := by simpa [hrun] using hquiet s
      exact ⟨s₁, Prog.run_bind_error hrun, Link.sent_of_unchanged hunchanged⟩

theorem sendsOnce_applyDeleteRoute (pfx : NlAddr) (route : Route) :
    (kernel env).SendsOnce RoutingState.calls env.lib env.answer
      (applyDeleteRoute env pfx route) 1 true
      (.routeDelete (oldRoute pfx route)) := by
  have halloc : exportLedger.Exact env.lib (checked env .rtnlRouteAlloc) 1 fun a => a = () :=
    (exact_checked _).imp rfl fun _ _ => rfl
  exact sendsOnce_of_exact halloc (quiet_checked env _) rfl

/-! ## what is asked for -/

/-- The next hops of a request: those of a list in order, and a simple one with
an index if it names its interface, and with its gateway if it has one. -/
structure RequestsNexthops (nextHop : RouteNextHop) (nexthops : List RtnlNexthop) : Prop where
  none : nextHop.kind = .none → nexthops = []
  simple : nextHop.kind = .simple → ∃ nh, nexthops = [nh] ∧
    nh.ifindex = (if nextHop.simple.ifName.isSome then some nextHop.simple.ifindex else .none) ∧
    nh.gateway = nextHop.simple.addr
  special : nextHop.kind = .special → nexthops = []
  list : nextHop.kind = .list → nexthops = nextHop.listHead.map fun simple =>
    { ifindex := some simple.ifindex, gateway := simple.addr }

/-- A static route of the main table to a prefix. -/
structure AsksFor (request : RtnlRoute) (pfx : NlAddr) (route : Route) : Prop where
  table : request.table = RT_TABLE_MAIN
  protocol : request.protocol = RTPROT_STATIC
  dst : request.dst = pfx
  priority : request.priority = route.preference

theorem asksFor_newRoute (env : RoutingEnv) (pfx : NlAddr) (route : Route) :
    AsksFor (newRoute env pfx route) pfx route ∧
      RequestsNexthops route.nextHop (newRoute env pfx route).nexthops := by
  refine ⟨⟨rfl, rfl, rfl, rfl⟩, ?_⟩
  show RequestsNexthops route.nextHop (requestNexthops route.nextHop)
  rw [requestNexthops]
  constructor <;> intro hkind <;> simp only [hkind]
  refine ⟨_, rfl, ?_, rfl⟩
  cases route.nextHop.simple.ifName <;> rfl

/-! ## the batches -/

/-- A function that sends one request for each route of a hash.  It stops at
the first one refused, and before the first route that is not usable or that
there is no memory for; it returns 0 when all requests were sent and accepted. -/
def SendsBatch (env : RoutingEnv) (p : RoutingM Int) (routesHash : List RouteListHashElement)
    (allocs : Route → Nat) (usable : Route → Bool) (request : NlAddr → Route → Request) : Prop :=
  ∀ s, ∃ error s' new, p.run s = (.ok error, s') ∧ (kernel env).Sent s s' new ∧
    new = upToRefusal env.answer s.sent.length ((ready env.lib (fun x => allocs x.2)
      (fun x => usable x.2) s.calls (flatRoutes routesHash)).map fun x => request x.1 x.2) ∧
    ((∀ n, env.lib n = true) → new = upToRefusal env.answer s.sent.length
      (((flatRoutes routesHash).takeWhile fun x => usable x.2).map fun x => request x.1 x.2)) ∧
    (error = 0 ↔ new = (flatRoutes routesHash).map fun x => (request x.1 x.2, 0))

theorem sendsBatch_of_sendsOnce {f : NlAddr → Route → RoutingM Unit} {allocs : Route → Nat}
    {usable : Route → Bool} {request : NlAddr → Route → Request}
    (hf : ∀ pfx route, (kernel env).SendsOnce RoutingState.calls env.lib env.answer (f pfx route)
      (allocs route) (usable route) (request pfx route))
    (routesHash : List RouteListHashElement) :
    SendsBatch env (Prog.exitCode (-1) (forM routesHash fun e => forM e.routesHead (f e.pfx)))
      routesHash allocs usable request := by
  intro s
  rw [forM_flatRoutes]
  have hrounds : ∀ x : NlAddr × Route, (kernel env).SendsOnce RoutingState.calls env.lib env.answer
      (f x.1 x.2) (allocs x.2) (usable x.2) (request x.1 x.2) := fun x => hf x.1 x.2
  obtain ⟨x, s', new, hrun, hsent, hnew, hexit, hall⟩ :=
    Link.sends_forM hrounds (flatRoutes routesHash) s
  have hready : (∀ n, env.lib n = true) → new = upToRefusal env.answer s.sent.length
      (((flatRoutes routesHash).takeWhile fun x => usable x.2).map fun x => request x.1 x.2) := by
    intro hlib
    rw [ready_of_lib hlib] at hnew
    exact hnew
  rcases hexit with rfl | rfl
  · exact ⟨0, s', new, by rw [Prog.run_exitCode, hrun], hsent, hnew, hready, by simpa using hall⟩
  · exact ⟨-1, s', new, by rw [Prog.run_exitCode, hrun], hsent, hnew, hready, by simpa using hall⟩

/-- What the two functions send for a route hash, and what they return. -/
theorem applyRoutes_sendBatch (env : RoutingEnv) (routesHash : List RouteListHashElement) :
    SendsBatch env (routingApplyNewRoutes env routesHash) routesHash newRouteAllocs Route.usable
        (fun pfx route => .routeAdd (newRoute env pfx route)) ∧
      SendsBatch env (routingApplyDeleteRoutes env routesHash) routesHash (fun _ => 1)
        (fun _ => true) (fun pfx route => .routeDelete (oldRoute pfx route)) ∧
      (∀ pfx route, AsksFor (newRoute env pfx route) pfx route ∧
        RequestsNexthops route.nextHop (newRoute env pfx route).nexthops) ∧
      ∀ pfx route, AsksFor (oldRoute pfx route) pfx route := by
  refine ⟨?_, ?_, asksFor_newRoute env, fun pfx route => ⟨rfl, rfl, rfl, rfl⟩⟩
  · exact sendsBatch_of_sendsOnce (fun pfx route => sendsOnce_applyNewRoute pfx route) routesHash
  · exact sendsBatch_of_sendsOnce (fun pfx route => sendsOnce_applyDeleteRoute pfx route) routesHash

end SysrepoInterfaces.Routing
