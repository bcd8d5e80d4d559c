import SysrepoInterfaces.Lib.Trace
import SysrepoInterfaces.Routing.Startup

/-!
# SysrepoInterfaces.Routing.CallLog

The log of calls seen through a filter, and the parts of the exports that add
nothing to what such a filter shows.
-/

namespace SysrepoInterfaces.Routing

open CProg Trace

/-! ## what a filter shows -/

/-- The part of the log a filter shows. -/
def shownCalls {τ : Type} (shown : Call → Option τ) (s : RoutingState) : List τ :=
  s.log.filterMap shown

section Shown

variable {τ : Type} {env : RoutingEnv} {shown : Call → Option τ}

theorem emits_call (c : Call) (ok : Bool) :
    Emits (shownCalls shown) (call c ok) (shown c).toList fun _ => True := by
  intro s
  refine ⟨(shown c).toList, ?_, List.prefix_refl _, fun _ _ => ⟨rfl, trivial⟩⟩
  rw [run_call]
  cases h : shown c <;> simp [shownCalls, h]

theorem emits_checked (c : Call) :
    Emits (shownCalls shown) (checked env c) (shown c).toList fun _ => True := by
  intro s
  refine ⟨(shown c).toList, ?_, List.prefix_refl _, fun _ _ => ⟨rfl, trivial⟩⟩
  rw [run_checked]
  cases h : shown c <;> simp [shownCalls, h]

theorem silent_checked {c : Call} (h : shown c = none) :
    Silent (shownCalls shown) (checked env c) := by
  have hchecked := @emits_checked τ env shown c
  rwa [h] at hchecked

/-- The new node is the last one of its path. -/
theorem emits_lydNewPath (parent : LydNode) (path : String) (value : Option String) :
    Emits (shownCalls shown) (lydNewPath env parent path value)
      (shown (.lydNewPath parent path value)).toList
      fun node => node = parent ++ "/" ++ path := by
  unfold lydNewPath
  exact (emits_checked _).then fun _ _ => emits_pure rfl

/-! ## calls that create no node -/

/-- The node a call adds a node to. -/
def Call.parent? : Call → Option LydNode
  | .lydNewPath parent _ _ => some parent
  | .lydNewTerm parent _ _ _ => some parent
  | .lydNewInner parent _ _ => some parent
  | .lydNewAny parent _ _ => some parent
  | _ => none

/-- A view of the state that shows calls only where they create nodes. -/
structure NodesOnly (seen : RoutingState → List τ) : Prop where
  call : ∀ c ok, c.parent? = none → Silent seen (call c ok)
  checked : ∀ env c, c.parent? = none → Silent seen (checked env c)
  runs : ∀ s n, seen { s with freshRuns := n } = seen s

theorem nodesOnly_shownCalls (h : ∀ c : Call, c.parent? = none → shown c = none) :
    NodesOnly (shownCalls shown) where
  call c ok hc := by
    have hcall := @emits_call τ shown c ok
    rwa [h c hc] at hcall
  checked _ c hc := silent_checked (h c hc)
  runs _ _ := rfl

section NodesOnly

variable {seen : RoutingState → List τ} (hnodes : NodesOnly seen)

include hnodes

theorem NodesOnly.rtnlLinkGetName (cache : LinkCache) (ifindex : Nat) :
    Silent seen (rtnlLinkGetName cache ifindex) := by
  unfold Routing.rtnlLinkGetName
  cases cache ifindex with
  | some name => exact (hnodes.call _ _ rfl).bind fun _ => silent_pure name
  | none => exact (hnodes.call _ _ rfl).bind fun _ => silent_lift _

theorem NodesOnly.foreachNexthop (nexthop : RouteNextHop) (nh : RtnlNexthop) :
    Silent seen (foreachNexthop env nexthop nh) := by
  unfold Routing.foreachNexthop
  apply silent_get.bind
  intro s
  refine Silent.bind (silent_modify fun s => hnodes.runs s _) fun _ => ?_
  apply (hnodes.call _ _ rfl).bind
  intro socket
  split
  · exact silent_pure _
  apply (hnodes.call _ _ rfl).bind
  intro connected
  split
  · exact silent_pure _
  apply (hnodes.call _ _ rfl).bind
  intro cache
  split
  · exact silent_pure _
  exact (hnodes.rtnlLinkGetName _ _).bind fun _ => silent_lift _

theorem NodesOnly.collectNexthops (linkCache : LinkCache) (nextHop : RouteNextHop)
    (nhs : List RtnlNexthop) : Silent seen (collectNexthops env linkCache nextHop nhs) := by
  unfold Routing.collectNexthops
  split
  · exact (hnodes.rtnlLinkGetName _ _).bind fun _ => silent_lift _
  · exact silent_foldlM (fun _ _ => hnodes.foreachNexthop _ _) _ _

theorem NodesOnly.collectRoute (linkCache : LinkCache) (tmpRoute : Route) (route : RtnlRoute) :
    Silent seen (collectRoute env linkCache tmpRoute route) := by
  unfold Routing.collectRoute
  apply Silent.bind
  · unfold collectNextHop
    split
    · exact silent_pure _
    · exact hnodes.collectNexthops _ _ _
  · intro nextHop
    simp only
    split <;> exact silent_pure _

theorem NodesOnly.collectRoutesLoop (linkCache : LinkCache) (routesCache : List RtnlRoute)
    (tmpRoute : Route) (ribsHead : List Rib) :
    Silent seen (collectRoutesLoop env linkCache routesCache tmpRoute ribsHead) := by
  induction routesCache generalizing tmpRoute ribsHead with
  | nil => exact silent_pure _
  | cons route routesCache ih =>
      unfold Routing.collectRoutesLoop
      simp only
      split
      · exact silent_pure _
      · apply (hnodes.collectRoute _ _ _).bind
        intro filled
        apply (silent_lift _).bind
        intro routesHead
        exact ih _ _

/-- Collecting creates no node. -/
theorem NodesOnly.routingCollectRoutes (routesCache : List RtnlRoute) (linkCache : LinkCache)
    (ribsHead : List Rib) :
    Silent seen (routingCollectRoutes env routesCache linkCache ribsHead) := by
  unfold Routing.routingCollectRoutes
  simp only
  split
  · exact silent_pure _
  · apply (hnodes.collectRoutesLoop _ _ _ _).bind
    intro collected
    split <;> exact silent_pure _

theorem NodesOnly.collectStaticRoutes : Silent seen (routingStartupCollectStaticRoutes env) := by
  have hround : ∀ (acc : StaticHashes × Route) route,
      Silent seen (startupCollectRoute env env.links acc route) := by
    intro acc route
    unfold startupCollectRoute
    split
    · apply (hnodes.collectNexthops _ _ _).bind
      intro nextHop
      exact (silent_lift _).bind fun _ => silent_pure _
    · exact silent_pure _
  unfold routingStartupCollectStaticRoutes
  refine (hnodes.checked _ _ rfl).bind fun _ => ?_
  refine (hnodes.checked _ _ rfl).bind fun _ => ?_
  refine (hnodes.checked _ _ rfl).bind fun _ => ?_
  refine (hnodes.checked _ _ rfl).bind fun _ => ?_
  exact (silent_foldlM hround _ _).bind fun _ => silent_pure _

end NodesOnly

/-! ## next hops that are not shown -/

/-- Nodes below which the nodes of a next hop are not shown. -/
structure HidesNextHop (shown : Call → Option τ) (hidden : LydNode → Prop) : Prop where
  child : ∀ node path, hidden node → hidden (node ++ "/" ++ path)
  container : ∀ node path, hidden node → shown (.lydNewPath node path none) = none
  interface : ∀ node value, hidden node →
    shown (.lydNewPath node "outgoing-interface" value) = none
  address : ∀ node module value, shown (.lydNewTerm node module "next-hop-address" value) = none
  others : ∀ c : Call, c.parent? = none → shown c = none

/-- Nodes that are not shown, with those below them. -/
structure Hides (shown : Call → Option τ) (hidden : LydNode → Prop) : Prop where
  child : ∀ node path, hidden node → hidden (node ++ "/" ++ path)
  path : ∀ node path value, hidden node → shown (.lydNewPath node path value) = none
  address : ∀ node module value, shown (.lydNewTerm node module "next-hop-address" value) = none
  others : ∀ c : Call, c.parent? = none → shown c = none

theorem emits_newPath {hidden : LydNode → Prop} {parent : LydNode} {path : String}
    {value : Option String} (hshown : shown (.lydNewPath parent path value) = none)
    (hchild : hidden (parent ++ "/" ++ path)) :
    Emits (shownCalls shown) (lydNewPath env parent path value) [] hidden := by
  unfold lydNewPath
  exact (silent_checked hshown).then fun _ _ => emits_pure hchild

section Hides

variable {hidden : LydNode → Prop} (hides : Hides shown hidden)

include hides

theorem Hides.nextHop : HidesNextHop shown hidden where
  child := hides.child
  container node path := hides.path node path none
  interface node := hides.path node "outgoing-interface"
  address := hides.address
  others := hides.others

theorem Hides.newPath {parent : LydNode} (hparent : hidden parent) (path : String)
    (value : Option String) :
    Emits (shownCalls shown) (lydNewPath env parent path value) [] hidden :=
  emits_newPath (hides.path parent path value hparent) (hides.child parent path hparent)

end Hides

variable {hidden : LydNode → Prop} (hides : HidesNextHop shown hidden)

include hides

theorem HidesNextHop.operNextHopAddress (modules : UnicastModules) (af : Nat) (node : LydNode)
    (addr : Option NlAddr) :
    Silent (shownCalls shown) (operNextHopAddress env modules af node addr) := by
  unfold Routing.operNextHopAddress
  split
  · exact silent_checked (hides.address _ _ _)
  · exact silent_pure ()
  · exact silent_pure ()

theorem HidesNextHop.operListNextHop (modules : UnicastModules) (af : Nat) {nhNode : LydNode}
    (hnode : hidden nhNode) (simple : RouteNextHopSimple) :
    Silent (shownCalls shown) (operListNextHop env modules af nhNode simple) := by
  unfold Routing.operListNextHop
  apply ((nodesOnly_shownCalls hides.others).rtnlLinkGetName _ _).before
  intro ifName
  simp only
  split
  · exact emits_fail
  · apply (emits_newPath (hides.container _ _ hnode) (hides.child _ _ hnode)).bind
    intro nhListNode hlist
    apply (emits_newPath (hides.interface _ _ hlist) (hides.child _ _ hlist)).bind
    intro _ _
    exact (hides.operNextHopAddress _ _ _ _).before fun _ => silent_pure _

theorem HidesNextHop.operNextHop (modules : UnicastModules) (af : Nat) {nhNode : LydNode}
    (hnode : hidden nhNode) (nextHop : RouteNextHop) (error : Int) :
    Silent (shownCalls shown) (operNextHop env modules af nhNode nextHop error) := by
  unfold Routing.operNextHop
  cases nextHop.kind with
  | none => exact silent_pure error
  | simple =>
      apply ((nodesOnly_shownCalls hides.others).rtnlLinkGetName _ _).before
      intro ifName
      apply (emits_newPath (hides.interface _ _ hnode) (hides.child _ _ hnode)).bind
      intro _ _
      exact (hides.operNextHopAddress _ _ _ _).before fun _ => silent_pure error
  | special => exact silent_pure error
  | list => exact silent_foldlM (fun _ _ => hides.operListNextHop modules af hnode _) _ _

/-! ## the leaves of a route -/

theorem HidesNextHop.operActive {node : LydNode} (hnode : hidden node) (active : Bool) :
    Silent (shownCalls shown) (operActive env node active) := by
  unfold Routing.operActive
  split
  · have hactive : Emits (shownCalls shown) (lydNewPath env node "active" none) [] hidden :=
      emits_newPath (hides.container _ _ hnode) (hides.child _ _ hnode)
    exact hactive.then fun _ _ => silent_pure ()
  · exact silent_pure ()

omit hides in
/-- The buffer holds the same text for every route of a bucket. -/
theorem defaultPrefix_defaultPrefix (af : Nat) (buffer : String) :
    defaultPrefix af (defaultPrefix af buffer) = defaultPrefix af buffer := by
  by_cases hdefault : strPrefix buffer "none/0" = true
  · have hwritten : defaultPrefix af buffer = if af = AF_INET then "0.0.0.0/0" else "::/0" :=
      if_pos hdefault
    rw [hwritten]
    split <;> exact if_neg (by decide)
  · have hkept : defaultPrefix af buffer = buffer := if_neg hdefault
    rw [hkept, hkept]

/-- What is shown of the leaves of a route. -/
def routeShown (shown : Call → Option τ) (modules : UnicastModules) (af : Nat) (node : LydNode)
    (buffer : String) (route : Route) : List τ :=
  (shown (.lydNewPath node "route-preference" (some (toString route.preference)))).toList ++
    (((modules.forFamily af).bind fun module =>
        shown (.lydNewTerm node module "destination-prefix" (defaultPrefix af buffer))).toList ++
      (shown (.lydNewPath node "source-protocol" route.metadata.sourceProtocol)).toList)

/-- One route shows its leaves, and leaves the text in the buffer. -/
theorem HidesNextHop.operRoute (modules : UnicastModules) (af : Nat) {routesNode : LydNode}
    (hnode : hidden routesNode) (acc : Int × String) (route : Route) :
    Emits (shownCalls shown) (operRoute env modules af routesNode acc route)
      (routeShown shown modules af (routesNode ++ "/" ++ "routes/route") acc.2 route)
      fun acc' => defaultPrefix af acc'.2 = defaultPrefix af acc.2 := by
  have hroute : hidden (routesNode ++ "/" ++ "routes/route") := hides.child _ _ hnode
  have hdestination : Emits (shownCalls shown)
      (operDestination env modules af (routesNode ++ "/" ++ "routes/route") acc.2)
      ((modules.forFamily af).bind fun module =>
        shown (.lydNewTerm (routesNode ++ "/" ++ "routes/route") module "destination-prefix"
          (defaultPrefix af acc.2))).toList
      fun buffer => defaultPrefix af buffer = defaultPrefix af acc.2 := by
    unfold operDestination
    cases modules.forFamily af with
    | none => exact emits_pure rfl
    | some module =>
        exact (emits_checked _).then fun _ _ => emits_pure (defaultPrefix_defaultPrefix af acc.2)
  have hcontainer : shown (.lydNewPath routesNode "routes/route" none) = none :=
    hides.container _ _ hnode
  unfold Routing.operRoute routeShown
  apply Emits.before (Q := fun node => node = routesNode ++ "/" ++ "routes/route")
  · have hpath := @emits_lydNewPath τ env shown routesNode "routes/route" none
    rwa [hcontainer] at hpath
  rintro _ rfl
  apply (emits_lydNewPath _ _ _).bind
  intro _ _
  apply Emits.before (Q := hidden)
  · exact emits_newPath (hides.container _ _ hroute) (hides.child _ _ hroute)
  intro nhNode hnhNode
  apply (hides.operNextHop _ _ hnhNode _ _).before
  intro error
  apply hdestination.bind
  intro buffer hbuffer
  apply (emits_lydNewPath _ _ _).then
  intro _ _
  exact (hides.operActive hroute _).before fun _ => emits_pure hbuffer

end Shown

end SysrepoInterfaces.Routing
