import SysrepoInterfaces.Lib.Requests
import SysrepoInterfaces.Routing.RouteHash
import SysrepoInterfaces.Routing.Change

/-!
# SysrepoInterfaces.Routing.Apply

What the change callback does to the kernel.  The batches of one address
family are a plan of requests, adds before deletes; the callback follows the
IPv4 plan and then the IPv6 plan, stops at the first refusal and takes nothing
back.
-/

namespace SysrepoInterfaces.Routing

open CProg Requests

/-! ## the kernel behind the state -/

/-- The routing table, changed by the requests it accepts. -/
def kernel (env : RoutingEnv) : Link RoutingState Request (List RtnlRoute) where
  server := RoutingState.table
  log := RoutingState.sent
  apply := env.carryOut

theorem quiet_checked (env : RoutingEnv) (c : Call) : (kernel env).Quiet (checked env c) := by
  intro s
  rw [run_checked]
  exact ⟨rfl, rfl⟩

theorem sends_send (env : RoutingEnv) (r : Request) : (kernel env).Sends (send env r) r := by
  intro s
  refine ⟨env.answer s.sent.length, _, run_send env r s, rfl, ?_⟩
  by_cases h : env.answer s.sent.length = 0 <;> simp [h, kernel, accepted]

/-! ## the plan of a batch -/

/-- The next hops of the request for a route. -/
def requestNexthops (nextHop : RouteNextHop) : List RtnlNexthop :=
  match nextHop.kind with
  | .simple => [{ ifindex := nextHop.simple.ifName.map fun _ => nextHop.simple.ifindex
                  gateway := nextHop.simple.addr }]
  | .list => nextHop.listHead.map fun simple =>
      { ifindex := some simple.ifindex, gateway := simple.addr }
  | .none => []
  | .special => []

/-- The route an add request asks for. -/
def newRoute (env : RoutingEnv) (pfx : NlAddr) (route : Route) : RtnlRoute :=
  let request := { rtnlRouteAlloc pfx with
    priority := route.preference, nexthops := requestNexthops route.nextHop }
  { request with scope := env.guessScope request }

/-- The route a delete request names. -/
def oldRoute (pfx : NlAddr) (route : Route) : RtnlRoute :=
  { rtnlRouteAlloc pfx with priority := route.preference }

/-- The requests for the batches of one address family. -/
def batchPlan (env : RoutingEnv) (b : Batches) : List Request :=
  (b.newRoutes.flatMap fun e => e.routesHead.map fun r => .routeAdd (newRoute env e.pfx r)) ++
    b.deleteRoutes.flatMap fun e => e.routesHead.map fun r => .routeDelete (oldRoute e.pfx r)

/-- The requests for a change stream; a stream that is not collected to its
end leads to none. -/
def staticRoutesPlan (env : RoutingEnv) (changes : List Change) : List Request :=
  match collectStaticRoutes env changes with
  | .ok b => batchPlan env b
  | .error => []
  | .crash => []

theorem quiet_newRouteNexthops (env : RoutingEnv) (nextHop : RouteNextHop) :
    (kernel env).Quiet (newRouteNexthops env nextHop) := by
  rw [newRouteNexthops]
  split
  · refine Prog.within_bind (quiet_checked env _) fun _ => ?_
    split
    · exact Prog.within_fail
    · exact Prog.within_pure _
  · exact Prog.within_mapM
      (fun _ => Prog.within_bind (quiet_checked env _) fun _ => Prog.within_pure _) _
  · exact Prog.within_pure _
  · exact Prog.within_pure _

theorem newRouteNexthops_eq_ok {env : RoutingEnv} {nextHop : RouteNextHop} {s s' : RoutingState}
    {nexthops : List RtnlNexthop}
    (h : (newRouteNexthops env nextHop).run s = (.ok nexthops, s')) :
    nexthops = requestNexthops nextHop := by
  rw [newRouteNexthops] at h
  rw [requestNexthops]
  cases hk : nextHop.kind with
  | none =>
      rw [hk] at h
      cases h
      rfl
  | simple =>
      rw [hk] at h
      obtain ⟨_, s₁, -, h₁⟩ := Prog.bind_eq_ok h
      split at h₁
      · cases h₁
      · cases h₁
        rfl
  | special =>
      rw [hk] at h
      cases h
      rfl
  | list =>
      rw [hk] at h
      refine Prog.yields_mapM (fun simple _ s a s' ha => ?_) _ _ _ h
      obtain ⟨_, _, -, hret⟩ := Prog.bind_eq_ok ha
      cases hret
      rfl

/-! ## following the plan -/

theorem follows_applyNewRoute (env : RoutingEnv) (pfx : NlAddr) (route : Route) :
    (kernel env).Follows (applyNewRoute env pfx route) [.routeAdd (newRoute env pfx route)] := by
  refine (quiet_checked env _).follows_nil.bind fun _ _ _ _ => ?_
  refine (quiet_newRouteNexthops env _).follows_nil.bind fun _ nexthops _ h => ?_
  rw [newRouteNexthops_eq_ok h]
  exact (sends_send env _).follows

theorem follows_applyDeleteRoute (env : RoutingEnv) (pfx : NlAddr) (route : Route) :
    (kernel env).Follows (applyDeleteRoute env pfx route) [.routeDelete (oldRoute pfx route)] :=
  (quiet_checked env _).follows_nil.bind fun _ _ _ _ => (sends_send env _).follows

/-- The two batches, one after the other. -/
theorem follows_batches (env : RoutingEnv) (b : Batches) :
    (kernel env).Follows (do
      (routingApplyNewRoutes env b.newRoutes).require
      (routingApplyModifyRoutes []).require
      (routingApplyDeleteRoutes env b.deleteRoutes).require) (batchPlan env b) := by
  have hnew := Link.follows_forM (fun e : RouteListHashElement =>
    Link.follows_forM (follows_applyNewRoute env e.pfx) e.routesHead) b.newRoutes
  have hdel := Link.follows_forM (fun e : RouteListHashElement =>
    Link.follows_forM (follows_applyDeleteRoute env e.pfx) e.routesHead) b.deleteRoutes
  simp only [← List.map_eq_flatMap] at hnew hdel
  rw [routingApplyNewRoutes, routingApplyDeleteRoutes, Prog.require_exitCode (by decide),
    Prog.require_exitCode (by decide)]
  have hmod : (kernel env).Follows (routingApplyModifyRoutes []).require [] :=
    Link.Quiet.follows_nil (Prog.within_require (Prog.within_pure _))
  exact hnew.bind fun _ _ _ _ => hmod.bind fun _ _ _ _ => hdel

/-- `apply_static_routes_changes` follows the plan of its changes. -/
theorem follows_applyStaticRoutesChanges (env : RoutingEnv) (xpath : String)
    (changes : List Change) :
    (kernel env).Follows (applyStaticRoutesChanges env xpath changes).require
      (staticRoutesPlan env changes) := by
  rw [applyStaticRoutesChanges, Prog.require_exitCode (by decide), staticRoutesPlan]
  refine (quiet_checked env _).follows_nil.bind fun _ _ _ _ => ?_
  cases hc : collectStaticRoutes env changes with
  | ok b =>
      refine (Link.Quiet.follows_nil (Prog.within_lift _)).bind fun _ _ _ h => ?_
      cases h
      refine (quiet_checked env _).follows_nil.bind fun _ _ _ _ => ?_
      exact (quiet_checked env _).follows_nil.bind fun _ _ _ _ => follows_batches env b
  | error => exact (Link.Quiet.follows_nil (Prog.within_lift _)).bind fun _ _ _ h => by cases h
  | crash => exact (Link.Quiet.follows_nil (Prog.within_lift _)).bind fun _ _ _ h => by cases h

/-! ## the callback -/

/-- The requests for a change event, IPv4 before IPv6.  IPv4 changes that
cannot be collected end the event. -/
def callbackPlan (env : RoutingEnv) (xpath : String) (changes : String → List Change) :
    List Request :=
  match collectStaticRoutes env (changes (ipv4Path xpath)) with
  | .ok b => batchPlan env b ++ staticRoutesPlan env (changes (ipv6Path xpath))
  | .error => []
  | .crash => []

/-- A run that returns 0 has collected its changes. -/
theorem collected_of_apply_ok {env : RoutingEnv} {xpath : String} {changes : List Change}
    {s s' : RoutingState}
    (h : (applyStaticRoutesChanges env xpath changes).require.run s = (.ok (), s')) :
    ∃ b, collectStaticRoutes env changes = .ok b := by
  rw [applyStaticRoutesChanges, Prog.require_exitCode (by decide)] at h
  obtain ⟨_, s₁, -, h₁⟩ := Prog.bind_eq_ok h
  obtain ⟨b, _, hb, -⟩ := Prog.bind_eq_ok h₁
  exact ⟨b, (Prod.mk.inj hb).1⟩

/-- The two address families, one after the other. -/
theorem follows_families (env : RoutingEnv) (xpath : String) (changes : String → List Change) :
    (kernel env).Follows (do
      (applyStaticRoutesChanges env (ipv4Path xpath) (changes (ipv4Path xpath))).require
      (applyStaticRoutesChanges env (ipv6Path xpath) (changes (ipv6Path xpath))).require)
      (callbackPlan env xpath changes) := by
  have hipv4 := follows_applyStaticRoutesChanges env (ipv4Path xpath) (changes (ipv4Path xpath))
  rw [callbackPlan]
  rw [staticRoutesPlan] at hipv4
  cases hc : collectStaticRoutes env (changes (ipv4Path xpath)) with
  | ok b =>
      rw [hc] at hipv4
      exact hipv4.bind fun _ _ _ _ => follows_applyStaticRoutesChanges env _ _
  | error =>
      rw [hc] at hipv4
      refine hipv4.bind fun _ _ _ h => ?_
      obtain ⟨b, hb⟩ := collected_of_apply_ok h
      rw [hc] at hb
      cases hb
  | crash =>
      rw [hc] at hipv4
      refine hipv4.bind fun _ _ _ h => ?_
      obtain ⟨b, hb⟩ := collected_of_apply_ok h
      rw [hc] at hb
      cases hb

theorem families_of_callback_failed {env : RoutingEnv} {xpath : String}
    {changes : String → List Change} {s s' : RoutingState}
    (h : (routingControlPlaneProtocolListChangeCb env xpath .change changes).run s =
      (.ok SR_ERR_CALLBACK_FAILED, s')) :
    (do (applyStaticRoutesChanges env (ipv4Path xpath) (changes (ipv4Path xpath))).require
        (applyStaticRoutesChanges env (ipv6Path xpath) (changes (ipv6Path xpath))).require
        : RoutingM Unit).run s = (.error, s') := by
  obtain ⟨error, s₁, hrun, hret⟩ := Prog.bind_eq_ok h
  have hs : s₁ = s' := (Prod.mk.inj hret).2
  by_cases he : error = 0
  · rw [he] at hret
    exact absurd (Exit.ok.inj (Prod.mk.inj hret).1) (by decide)
  · exact hs ▸ ((Prog.exitCode_eq_ne he).mp hrun).2

/-- What a refused change leaves behind: the requests sent are the beginning
of the plan, all of them accepted but possibly the last, and the table is the
old one with the accepted ones carried out.  An abort sends nothing at all. -/
theorem refused_change (env : RoutingEnv) (xpath : String) (changes : String → List Change)
    (s : RoutingState) :
    (∀ s', (routingControlPlaneProtocolListChangeCb env xpath .change changes).run s =
        (.ok SR_ERR_CALLBACK_FAILED, s') →
      ∃ new, s'.sent = s.sent ++ new ∧ new.map Prod.fst <+: callbackPlan env xpath changes ∧
        (∀ x ∈ new.dropLast, x.2 = 0) ∧
        s'.table = (accepted new).foldl env.carryOut s.table) ∧
    (routingControlPlaneProtocolListChangeCb env xpath .abort changes).run s =
      (.ok SR_ERR_CALLBACK_FAILED, s) := by
  constructor
  · intro s' h
    obtain ⟨new, ⟨hlog, htable⟩, hpre, hall⟩ :=
      (follows_families env xpath changes).cutShort (families_of_callback_failed h)
    exact ⟨new, hlog, hpre, hall, htable⟩
  · rfl

/-- Two new routes; the kernel takes the first and refuses the second. -/
def refusingEnv : RoutingEnv := { sampleEnv with answer := fun n => if n = 1 then -1 else 0 }

def twoNewRoutes (xpath : String) : List Change :=
  if xpath = ipv4Path "/p" then [
    ⟨.created, some "destination-prefix", some "10.0.0.0/8"⟩,
    ⟨.created, some "next-hop-address", some "192.0.2.1"⟩,
    ⟨.created, some "destination-prefix", some "172.16.0.0/12"⟩,
    ⟨.created, some "next-hop-address", some "192.0.2.1"⟩]
  else []

def refusedState : RoutingState :=
  ((routingControlPlaneProtocolListChangeCb refusingEnv "/p" .change twoNewRoutes).run {}).2

theorem run_refused : (routingControlPlaneProtocolListChangeCb refusingEnv "/p" .change
    twoNewRoutes).run {} = (.ok SR_ERR_CALLBACK_FAILED, refusedState) :=
  Prod.ext (by decide) rfl

theorem refused_change_twoNewRoutes :
    ∃ new, refusedState.sent = new ∧
      new.map Prod.fst <+: callbackPlan refusingEnv "/p" twoNewRoutes ∧
      refusedState.table = (accepted new).foldl refusingEnv.carryOut [] := by
  obtain ⟨new, hlog, hpre, -, htable⟩ :=
    (refused_change refusingEnv "/p" twoNewRoutes {}).1 refusedState run_refused
  exact ⟨new, hlog, hpre, htable⟩

/-- The route that was added before the refusal stays, and an abort after a
change that went through removes none of its routes. -/
theorem refused_change_leaves_route :
    let refused := (routingControlPlaneProtocolListChangeCb refusingEnv "/p" .change
      twoNewRoutes).run {}
    let applied := (routingControlPlaneProtocolListChangeCb sampleEnv "/p" .change
      twoNewRoutes).run {}
    let aborted := (routingControlPlaneProtocolListChangeCb sampleEnv "/p" .abort
      twoNewRoutes).run applied.2
    (refused.1 = .ok SR_ERR_CALLBACK_FAILED ∧ refused.2.table ≠ []) ∧
      applied.1 = .ok SR_ERR_OK ∧ aborted.2.table ≠ [] := by
  decide

end SysrepoInterfaces.Routing
