import SysrepoInterfaces.Routing.Deletable
import SysrepoInterfaces.Routing.Persist
import SysrepoInterfaces.Routing.StartupMirror

/-!
# SysrepoInterfaces.Routing.Stored

The static routes the startup export leaves in the datastore, as the entries of
the two `route` lists.  The entries are read off the calls that create the nodes
of the tree; `routing_persist_static_routes` gets them back after a restart.
-/

namespace SysrepoInterfaces.Routing

open CProg Trace Keyed

/-! ## reading a tree off its calls -/

def entryStart : List Char := "route[destination-prefix=\"".toList

def entryEnd : List Char := "\"]".toList

theorem toList_routeEntryPath (text : String) :
    (routeEntryPath text).toList = entryStart ++ (text.toList ++ entryEnd) := by
  unfold routeEntryPath entryStart entryEnd
  rw [String.toList_append, String.toList_append, List.append_assoc]

/-- The text between the quotes, where the path is that of a list entry. -/
def quotedText (path : String) : String :=
  String.ofList ((path.toList.drop entryStart.length).take
    (path.toList.length - entryStart.length - entryEnd.length))

/-- The destination of a list entry, by its path. -/
def entryText (path : String) : Option String :=
  if routeEntryPath (quotedText path) = path then some (quotedText path) else none

theorem quotedText_routeEntryPath (text : String) : quotedText (routeEntryPath text) = text := by
  have hlen : (entryStart ++ (text.toList ++ entryEnd)).length - entryStart.length -
      entryEnd.length = text.toList.length := by
    rw [List.length_append, Nat.add_sub_cancel_left, List.length_append, Nat.add_sub_cancel]
  rw [quotedText, toList_routeEntryPath, hlen, List.drop_left, List.take_left,
    String.ofList_toList]

theorem entryText_routeEntryPath (text : String) : entryText (routeEntryPath text) = some text := by
  rw [entryText, quotedText_routeEntryPath, if_pos rfl]

/-- The node of the `next-hop` container of an entry. -/
def entryNextHop (container : LydNode) (text : String) : LydNode :=
  container ++ "/" ++ routeEntryPath text ++ "/" ++ "next-hop"

/-- A leaf of the next hop of an entry. -/
def StaticRouteEntry.set (entry : StaticRouteEntry) (name value : String) : StaticRouteEntry :=
  if name = "next-hop-address" then { entry with nextHopAddress := some value }
  else if name = "outgoing-interface" then { entry with outgoingInterface := some value }
  else entry

/-- What a call does to the entries of a container. -/
def store (container : LydNode) (entries : List StaticRouteEntry) : Call → List StaticRouteEntry
  | .lydNewPath parent path none =>
      if parent = container then
        entries ++ (entryText path).toList.map fun text => { destinationPrefix := text }
      else entries
  | .lydNewTerm parent _ name value => entries.map fun entry =>
      if parent = entryNextHop container entry.destinationPrefix then entry.set name value
      else entry
  | _ => entries

/-- The entries of a container after some calls. -/
def storedEntries (container : LydNode) (calls : List Call) : List StaticRouteEntry :=
  calls.foldl (store container) []

/-! ## nodes and what is below them -/

/-- A call that adds a node below `node`. -/
def belowNode (node : LydNode) (c : Call) : Bool := c.parent?.any (strPrefix node)

def callsBelow (node : LydNode) (s : RoutingState) : List Call := s.log.filter (belowNode node)

theorem strPrefix_append {node parent : LydNode} (h : strPrefix node parent) (path : String) :
    strPrefix node (parent ++ path) := by
  rw [strPrefix, List.isPrefixOf_iff_prefix] at h ⊢
  rw [String.toList_append]
  exact h.trans (List.prefix_append _ _)

theorem strPrefix_self (node : LydNode) : strPrefix node node := by
  rw [strPrefix, List.isPrefixOf_iff_prefix]

theorem strPrefix_eq_false_of_length {node parent : LydNode}
    (h : parent.toList.length < node.toList.length) : strPrefix node parent = false := by
  rw [Bool.eq_false_iff]
  intro hpre
  rw [strPrefix, List.isPrefixOf_iff_prefix] at hpre
  exact absurd hpre.length_le (by omega)

section Emits

variable {env : RoutingEnv} {node : LydNode}

theorem emits_checkedBelow (c : Call) :
    Emits (callsBelow node) (checked env c) (if belowNode node c then [c] else [])
      fun _ => True := by
  intro s
  refine ⟨if belowNode node c then [c] else [], ?_, List.prefix_refl _, fun _ _ => ⟨rfl, trivial⟩⟩
  rw [run_checked]
  cases h : belowNode node c <;> simp [callsBelow, h]

theorem emits_below {c : Call} {parent : LydNode} (hparent : c.parent? = some parent)
    (h : strPrefix node parent) : Emits (callsBelow node) (checked env c) [c] fun _ => True := by
  have hbelow : belowNode node c = true := by rw [belowNode, hparent, Option.any_some, h]
  have hchecked := @emits_checkedBelow env node c
  rwa [if_pos hbelow] at hchecked

theorem silent_elsewhere {c : Call} (h : belowNode node c = false) :
    Silent (callsBelow node) (checked env c) := by
  have hchecked := @emits_checkedBelow env node c
  rwa [if_neg (by simp [h])] at hchecked

theorem belowNode_eq_false {c : Call} {parent : LydNode} (hparent : c.parent? = some parent)
    (h : strPrefix node parent = false) : belowNode node c = false := by
  rw [belowNode, hparent, Option.any_some, h]

theorem silent_outside {c : Call} {parent : LydNode} (hparent : c.parent? = some parent)
    (h : strPrefix node parent = false) : Silent (callsBelow node) (checked env c) :=
  silent_elsewhere (belowNode_eq_false hparent h)

theorem belowNode_of_parent {c : Call} (h : c.parent? = none) : belowNode node c = false := by
  rw [belowNode, h, Option.any_none]

theorem nodesOnly_callsBelow (node : LydNode) : NodesOnly (callsBelow node) where
  call c ok h s := by
    refine ⟨[], ?_, List.prefix_refl _, fun _ _ => ⟨rfl, trivial⟩⟩
    rw [run_call]
    simp [callsBelow, belowNode_of_parent h]
  checked _ _ h := silent_elsewhere (belowNode_of_parent h)
  runs _ _ := rfl

/-! ## the calls for a family -/

/-- The leaves of a next hop. -/
def leafCalls (env : RoutingEnv) (module : String) (node : LydNode) (simple : RouteNextHopSimple) :
    List Call :=
  (simple.addr.map fun addr =>
    Call.lydNewTerm node module "next-hop-address" (env.nlAddr2str addr)).toList ++
  (simple.ifName.map fun name => Call.lydNewTerm node module "outgoing-interface" name).toList

/-- The path of an element of a next hop list. -/
def listPath (family : StartupFamily) (simple : RouteNextHopSimple) : String :=
  family.nextHopPath ++ toString simple.ifindex ++ "]"

def nextHopCalls (env : RoutingEnv) (family : StartupFamily) (node : LydNode)
    (nextHop : RouteNextHop) : List Call :=
  match nextHop.kind with
  | .simple => leafCalls env family.module node nextHop.simple
  | .list => nextHop.listHead.flatMap fun simple =>
      .lydNewAny node family.module (listPath family simple) ::
        leafCalls env family.module (node ++ "/" ++ listPath family simple) simple
  | .none => []
  | .special => []

def bucketCalls (env : RoutingEnv) (family : StartupFamily) (container : LydNode)
    (e : RouteListHashElement) : List Call :=
  match e.routesHead with
  | [] => []
  | route :: _ =>
      let routeNode := container ++ "/" ++ routeEntryPath (prefixText env e.pfx)
      .lydNewPath container (routeEntryPath (prefixText env e.pfx)) none ::
        ((route.metadata.description.map fun text =>
          Call.lydNewTerm routeNode family.module "description" text).toList ++
        (.lydNewInner routeNode family.module "next-hop" ::
          nextHopCalls env family (nextHopNode env container e) route.nextHop))

variable {top : LydNode}

theorem emits_startupLeaf (h : strPrefix top node) (module name : String) (value : Option String) :
    Emits (callsBelow top) (startupLeaf env node module name value)
      (value.map fun value => Call.lydNewTerm node module name value).toList fun _ => True := by
  unfold startupLeaf
  cases value with
  | none => exact emits_pure trivial
  | some value => exact emits_below rfl h

theorem emits_leaves (h : strPrefix top node) (module : String) (simple : RouteNextHopSimple)
    (error : Int) :
    Emits (callsBelow top) (do
      startupLeaf env node module "next-hop-address" (simple.addr.map env.nlAddr2str)
      startupLeaf env node module "outgoing-interface" simple.ifName
      return error) (leafCalls env module node simple) fun _ => True := by
  have haddr := @emits_startupLeaf env node top h module "next-hop-address"
    (simple.addr.map env.nlAddr2str)
  rw [Option.map_map] at haddr
  refine haddr.bind fun _ _ => ?_
  exact (emits_startupLeaf h _ _ _).then fun _ _ => emits_pure trivial

theorem emits_startupNextHop (h : strPrefix top node) (family : StartupFamily)
    (nextHop : RouteNextHop) (error : Int) :
    Emits (callsBelow top) (startupNextHop env family node nextHop error)
      (nextHopCalls env family node nextHop) fun _ => True := by
  unfold startupNextHop nextHopCalls
  cases nextHop.kind with
  | none => exact emits_pure trivial
  | simple => exact emits_leaves h _ _ _
  | special => exact emits_pure trivial
  | list =>
      refine emits_foldlM (fun _ _ simple _ => ?_) trivial
      unfold startupListNextHop
      have hnot : ¬ ((family.nextHopPath ++ toString simple.ifindex ++ "]").length : Int) < 0 := by
        omega
      simp only [hnot, if_false, lydNewAny, bind_assoc, pure_bind]
      have hlist : strPrefix top (node ++ "/" ++ listPath family simple) :=
        strPrefix_append (strPrefix_append h _) _
      exact (emits_below rfl h).bind fun _ _ => emits_leaves hlist _ _ _

theorem emits_startupBucket (h : strPrefix top node) (family : StartupFamily) (error : Int)
    (e : RouteListHashElement) :
    Emits (callsBelow top) (startupBucket env family node error e)
      (bucketCalls env family node e) fun _ => True := by
  unfold startupBucket bucketCalls
  cases e.routesHead with
  | nil => exact emits_crash
  | cons route routes =>
      have hroute : strPrefix top (node ++ "/" ++ routeEntryPath (prefixText env e.pfx)) :=
        strPrefix_append (strPrefix_append h _) _
      have hnextHop : strPrefix top (nextHopNode env node e) :=
        strPrefix_append (strPrefix_append hroute _) _
      simp only [lydNewPath, lydNewInner, bind_assoc, pure_bind]
      refine (emits_below rfl h).bind fun _ _ => ?_
      refine (emits_startupLeaf hroute _ _ _).bind fun _ _ => ?_
      exact (emits_below rfl hroute).bind fun _ _ => emits_startupNextHop hnextHop _ _ _

end Emits

/-! ## the whole export -/

/-- The entry of the static protocol in the list of control plane protocols. -/
def staticListNode : LydNode :=
  routingContainerYangPath ++ "/" ++ controlPlaneProtocolsContainerYangPath ++ "/" ++
    (controlPlaneProtocolListYangPath ++ "[type=\"" ++ "ietf-routing:static" ++ "\"][name=\"" ++
      "static" ++ "\"]")

def staticRoutesNode : LydNode := staticListNode ++ "/" ++ "static-routes"

/-- The container of a family. -/
def familyNode (name : String) : LydNode := staticRoutesNode ++ "/" ++ name

/-- The beginning of what is in the containers of the families. -/
def belowStaticRoutes : LydNode := staticRoutesNode ++ "/"

theorem strPrefix_familyNode (name : String) : strPrefix belowStaticRoutes (familyNode name) :=
  strPrefix_append (strPrefix_self _) name

/-- The names libnl knows the protocols by. -/
structure ProtocolNames (env : RoutingEnv) : Prop where
  static : env.proto2str RTPROT_STATIC = "static"
  others : ∀ proto, proto ≠ RTPROT_STATIC → strPrefix "static" (env.proto2str proto) = false

/-- The calls for the routes of the hashes. -/
def hashCalls (env : RoutingEnv) (hashes : StaticHashes) : List Call :=
  hashes.ipv4.flatMap (bucketCalls env startupIpv4 (familyNode "ipv4")) ++
    hashes.ipv6.flatMap (bucketCalls env startupIpv6 (familyNode "ipv6"))

theorem strPrefix_cancel (node a b : String) :
    strPrefix (node ++ a) (node ++ b) = strPrefix a b := by
  rw [Bool.eq_iff_iff]
  simp only [strPrefix, List.isPrefixOf_iff_prefix, String.toList_append,
    List.prefix_append_right_inj]

/-- A node above is not below. -/
theorem strPrefix_above {node rest : String} (h : rest.toList ≠ []) :
    strPrefix (node ++ rest) node = false := by
  refine strPrefix_eq_false_of_length ?_
  rw [String.toList_append, List.length_append]
  exact Nat.lt_add_of_pos_right (List.length_pos_iff.mpr h)

section Export

variable {env : RoutingEnv}

theorem strPrefix_staticListNode : strPrefix belowStaticRoutes staticListNode = false := by
  rw [belowStaticRoutes, staticRoutesNode, String.append_assoc, String.append_assoc]
  exact strPrefix_above (by simp)

theorem emits_startupStaticRoutes (hashes : StaticHashes) (error : Int) :
    Emits (callsBelow belowStaticRoutes) (startupStaticRoutes env hashes staticListNode error)
      (hashCalls env hashes) fun _ => True := by
  have hroutes : strPrefix belowStaticRoutes staticRoutesNode = false :=
    strPrefix_above (by simp)
  unfold startupStaticRoutes
  simp only [lydNewPath, lydNewInner, bind_assoc, pure_bind]
  refine Silent.before (silent_outside rfl strPrefix_staticListNode) fun _ => ?_
  refine Silent.before (silent_outside rfl hroutes) fun _ => ?_
  refine Silent.before (silent_outside rfl hroutes) fun _ => ?_
  refine Emits.bind (Q := fun _ => True) ?_ fun error _ => ?_
  · exact emits_foldlM (fun _ _ e _ => emits_startupBucket (strPrefix_familyNode "ipv4") _ _ e)
      trivial
  · exact emits_foldlM (fun _ _ e _ => emits_startupBucket (strPrefix_familyNode "ipv6") _ _ e)
      trivial

theorem mem_startupProtocols {proto : ControlPlaneProtocol} (h : proto ∈ startupProtocols env) :
    proto.type = "ietf-routing:static" ∧ proto.name = env.proto2str RTPROT_STATIC ∨
      proto.type = "ietf-routing:direct" ∧
        ∃ n, n ≠ RTPROT_STATIC ∧ proto.name = env.proto2str n := by
  obtain ⟨known, hknown, rfl⟩ := List.mem_map.mp h
  have htypes : ∀ known ∈ knownProtos, known.2.1 = "ietf-routing:static" ∧ known.1 = RTPROT_STATIC ∨
      known.2.1 = "ietf-routing:direct" ∧ known.1 ≠ RTPROT_STATIC := by decide
  rcases htypes known hknown with ⟨htype, hindex⟩ | ⟨htype, hindex⟩
  · exact .inl ⟨htype, congrArg env.proto2str hindex⟩
  · exact .inr ⟨htype, known.1, hindex, rfl⟩

theorem strPrefix_directNode (path : String) :
    strPrefix belowStaticRoutes (routingContainerYangPath ++ "/" ++
      controlPlaneProtocolsContainerYangPath ++ "/" ++ (controlPlaneProtocolListYangPath ++
        "[type=\"" ++ "ietf-routing:direct" ++ "\"][name=\"" ++ path)) = false := by
  simp only [belowStaticRoutes, staticRoutesNode, staticListNode, String.append_assoc,
    strPrefix_cancel]
  simp only [strPrefix, String.toList_append]
  rfl

/-- The static protocol gets the routes. -/
theorem emits_startupProtocol (hnames : ProtocolNames env) (hashes : StaticHashes) (error : Int)
    {proto : ControlPlaneProtocol} (hproto : proto ∈ startupProtocols env) :
    Emits (callsBelow belowStaticRoutes) (startupProtocol env hashes
        (routingContainerYangPath ++ "/" ++ controlPlaneProtocolsContainerYangPath) error proto)
      (if proto.type = "ietf-routing:static" then hashCalls env hashes else []) fun _ => True := by
  have hcontainer : strPrefix belowStaticRoutes
      (routingContainerYangPath ++ "/" ++ controlPlaneProtocolsContainerYangPath) = false := by
    simp only [belowStaticRoutes, staticRoutesNode, staticListNode]
    rw [String.append_assoc, String.append_assoc, String.append_assoc, String.append_assoc]
    exact strPrefix_above (by simp)
  unfold startupProtocol
  simp only [lydNewPath, bind_assoc, pure_bind]
  refine Silent.before (silent_outside rfl hcontainer) fun _ => ?_
  rcases mem_startupProtocols hproto with ⟨htype, hname⟩ | ⟨htype, n, hn, hname⟩
  · have hstatic : strPrefix "static" "static" = true := rfl
    simp only [hstatic, htype, hname, hnames.static, if_true]
    refine Silent.before (silent_outside rfl strPrefix_staticListNode) fun _ => ?_
    exact emits_startupStaticRoutes hashes error
  · have hdirect : strPrefix "static" proto.name = false := hname ▸ hnames.others n hn
    have hnode := strPrefix_directNode (proto.name ++ "\"]")
    simp only [hdirect, htype, Bool.false_eq_true, if_false, String.reduceEq]
    simp only [← String.append_assoc] at hnode ⊢
    exact (silent_outside rfl hnode).bind fun _ => silent_pure _

theorem silent_startupRibs :
    Silent (callsBelow belowStaticRoutes) (do
      checked env .srAcquireContext
      checked env .nlSocketAlloc
      checked env .nlConnect
      checked env .rtnlRouteAllocCache
      checked env .rtnlRouteReadTableNames
      checked env .rtnlRouteReadProtocolNames
      let (error, ribsHead) := routingCollectRibs env env.routes []
      if error ≠ 0 then Prog.fail
      else do
        let ribsNode ← lydNewPath env routingContainerYangPath ribsContainerYangPath none
        forM ribsHead (startupRib env ribsNode)) := by
  have hrouting : strPrefix belowStaticRoutes routingContainerYangPath = false := by
    simp only [belowStaticRoutes, staticRoutesNode, staticListNode, String.append_assoc]
    exact strPrefix_above (by simp)
  have hribs : ∀ path, strPrefix belowStaticRoutes
      (routingContainerYangPath ++ "/" ++ ribsContainerYangPath ++ path) = false := by
    intro path
    simp only [belowStaticRoutes, staticRoutesNode, staticListNode, String.append_assoc,
      strPrefix_cancel]
    simp only [strPrefix, String.toList_append]
    rfl
  refine (silent_elsewhere rfl).bind fun _ => ?_
  refine (silent_elsewhere rfl).bind fun _ => ?_
  refine (silent_elsewhere rfl).bind fun _ => ?_
  refine (silent_elsewhere rfl).bind fun _ => ?_
  refine (silent_elsewhere rfl).bind fun _ => ?_
  refine (silent_elsewhere rfl).bind fun _ => ?_
  generalize routingCollectRibs env env.routes [] = collected
  obtain ⟨error, ribsHead⟩ := collected
  simp only
  split
  · exact emits_fail
  · simp only [lydNewPath, bind_assoc, pure_bind]
    refine (silent_outside rfl hrouting).bind fun _ => ?_
    have hrounds : ∀ rib ∈ ribsHead,
        Emits (callsBelow belowStaticRoutes) (startupRib env
          (routingContainerYangPath ++ "/" ++ ribsContainerYangPath) rib) [] fun _ => True := by
      intro rib _
      have hnode := hribs ""
      rw [String.append_empty] at hnode
      unfold startupRib startupRibDescription
      simp only [lydNewPath, bind_assoc, pure_bind]
      refine (silent_outside rfl hnode).bind fun _ => ?_
      refine (silent_outside rfl ?_).bind fun _ => ?_
      · have hrib := hribs ("/" ++ (ribListYangPath ++ "[name='" ++
          ribFamilyName rib.addressFamily ++ "-" ++ rib.name.text ++ "']"))
        rwa [← String.append_assoc] at hrib
      · split
        · refine (silent_outside rfl ?_).bind fun _ => silent_pure _
          have hrib := hribs ("/" ++ (ribListYangPath ++ "[name='" ++
            ribFamilyName rib.addressFamily ++ "-" ++ rib.name.text ++ "']"))
          rwa [← String.append_assoc] at hrib
        · exact silent_pure _
    have hloop := emits_forM hrounds
    rw [List.flatMap_eq_nil_iff.mpr fun _ _ => rfl] at hloop
    exact hloop

/-- The tree is handed to sysrepo. -/
theorem callsBelow_commit {s s' : RoutingState}
    (hrun : ((do
      if !(← attempt env .srEditBatch) then return (env.srError : Int)
      if !(← attempt env .srApplyChanges) then return (env.srError : Int)
      return 0 : RoutingM Int)).run s = (.ok 0, s')) :
    callsBelow belowStaticRoutes s' = callsBelow belowStaticRoutes s := by
  have herror : ∀ {s₁ s₂ : RoutingState},
      ((return (env.srError : Int) : RoutingM Int)).run s₁ = (.ok 0, s₂) → False :=
    fun h => env.srError.property (Exit.ok.inj (Prod.mk.inj h).1)
  rw [Prog.run_bind_ok (run_attempt ..)] at hrun
  cases hedit : env.lib s.calls with
  | false =>
      rw [hedit, Bool.not_false, if_pos rfl] at hrun
      exact (herror hrun).elim
  | true =>
      rw [hedit, Bool.not_true, if_neg Bool.false_ne_true, Prog.run_bind_ok (run_attempt ..)]
        at hrun
      cases happly : env.lib (s.calls + 1) with
      | false =>
          rw [show env.lib (s.calls + 1) = false from happly, Bool.not_false, if_pos rfl] at hrun
          exact (herror hrun).elim
      | true =>
          rw [show env.lib (s.calls + 1) = true from happly, Bool.not_true,
            if_neg Bool.false_ne_true] at hrun
          rw [← (Prod.mk.inj hrun).2]
          simp [callsBelow, belowNode, Call.parent?]

/-- A run that returns 0 has come to its end when its first two calls
succeed. -/
theorem runs_of_load {s s' : RoutingState} (hopen : ∀ n < 2, env.lib (s.calls + n) = true)
    (hrun : (routingStartupLoadData env).run s = (.ok 0, s')) :
    ∃ s₁ s₂ s₃, callsBelow belowStaticRoutes s₁ = callsBelow belowStaticRoutes s ∧
      (routingStartupLoadRibs env routingContainerYangPath).run s₁ = (.ok 0, s₂) ∧
      (routingStartupLoadControlPlaneProtocols env routingContainerYangPath).run s₂ =
        (.ok 0, s₃) ∧
      callsBelow belowStaticRoutes s' = callsBelow belowStaticRoutes s₃ := by
  have hzero := hopen 0 (by omega)
  have hone := hopen 1 (by omega)
  have hroot : strPrefix belowStaticRoutes "" = false := by
    refine strPrefix_eq_false_of_length ?_
    rw [belowStaticRoutes, String.toList_append]
    simp
  have hacquire : belowNode belowStaticRoutes .srAcquireContext = false := rfl
  have hcreate : belowNode belowStaticRoutes (.lydNewPath "" routingContainerYangPath none) =
      false := belowNode_eq_false rfl hroot
  unfold routingStartupLoadData at hrun
  rw [Prog.run_bind_ok (run_attempt ..), show env.lib s.calls = true from hzero, Bool.not_true,
    if_neg Bool.false_ne_true, Prog.run_bind_ok (run_attempt ..), show env.lib (s.calls + 1) = true
    from hone, Bool.not_true, if_neg Bool.false_ne_true] at hrun
  obtain ⟨error, s₂, hribs, hrun⟩ := Prog.bind_eq_ok hrun
  by_cases herror : error = 0
  · subst herror
    rw [if_neg (by simp)] at hrun
    obtain ⟨error, s₃, hprotocols, hrun⟩ := Prog.bind_eq_ok hrun
    by_cases herror : error = 0
    · subst herror
      rw [if_neg (by simp)] at hrun
      refine ⟨_, s₂, s₃, ?_, hribs, hprotocols, callsBelow_commit hrun⟩
      simp [callsBelow, hacquire, hcreate]
    · rw [if_pos herror] at hrun
      exact absurd (Exit.ok.inj (Prod.mk.inj hrun).1) herror
  · rw [if_pos herror] at hrun
    exact absurd (Exit.ok.inj (Prod.mk.inj hrun).1) herror

/-- The loop over the protocols. -/
theorem emits_startupProtocols (hnames : ProtocolNames env) (hashes : StaticHashes) :
    Emits (callsBelow belowStaticRoutes) (do
      let container ← lydNewPath env routingContainerYangPath
        controlPlaneProtocolsContainerYangPath none
      (startupProtocols env).foldlM (startupProtocol env hashes container) 0)
      (hashCalls env hashes) fun _ => True := by
  have honce : ((startupProtocols env).flatMap fun proto =>
      if proto.type = "ietf-routing:static" then hashCalls env hashes else []) =
        hashCalls env hashes := by
    simp [startupProtocols, routingBuildProtosMap, knownProtos]
  have hrouting : strPrefix belowStaticRoutes routingContainerYangPath = false := by
    simp only [belowStaticRoutes, staticRoutesNode, staticListNode, String.append_assoc]
    exact strPrefix_above (by simp)
  simp only [lydNewPath, bind_assoc, pure_bind]
  refine Silent.before (silent_outside rfl hrouting) fun _ => ?_
  rw [← honce]
  refine emits_foldlM (fun error _ proto hproto => ?_) trivial
  exact emits_startupProtocol hnames hashes error hproto

/-- A run of the export that returns 0, and whose first two calls succeed, makes
the calls for the routes it collected. -/
theorem callsBelow_load (hnames : ProtocolNames env) {s s' : RoutingState}
    (hopen : ∀ n < 2, env.lib (s.calls + n) = true)
    (hrun : (routingStartupLoadData env).run s = (.ok 0, s')) :
    ∃ hashes s₁ s₂, (routingStartupCollectStaticRoutes env).run s₁ = (.ok hashes, s₂) ∧
      callsBelow belowStaticRoutes s' = callsBelow belowStaticRoutes s ++ hashCalls env hashes := by
  obtain ⟨s₁, s₂, s₃, hfirst, hribs, hprotocols, hlast⟩ := runs_of_load hopen hrun
  have hribs' := (silent_startupRibs.of_ok ((Prog.exitCode_eq_zero (by decide)).mp hribs)).1
  have hopening : Silent (callsBelow belowStaticRoutes) (do
      checked env .srAcquireContext
      let _ ← call (.lyCtxGetModule ipv4UnicastRouting) (env.module ipv4UnicastRouting)
      let _ ← call (.lyCtxGetModule ipv6UnicastRouting) (env.module ipv6UnicastRouting)
      checked env .rtnlRouteReadTableNames
      checked env .rtnlRouteReadProtocolNames) := by
    have hnodes := nodesOnly_callsBelow belowStaticRoutes
    refine (silent_elsewhere rfl).bind fun _ => ?_
    refine (hnodes.call _ _ rfl).bind fun _ => ?_
    refine (hnodes.call _ _ rfl).bind fun _ => ?_
    exact (silent_elsewhere rfl).bind fun _ => silent_elsewhere rfl
  have hinner := Prog.run_of_status_ne hprotocols (by decide)
  replace hinner : ((do
      checked env .srAcquireContext
      let _ ← call (.lyCtxGetModule ipv4UnicastRouting) (env.module ipv4UnicastRouting)
      let _ ← call (.lyCtxGetModule ipv6UnicastRouting) (env.module ipv6UnicastRouting)
      checked env .rtnlRouteReadTableNames
      checked env .rtnlRouteReadProtocolNames) >>= fun _ => do
        let hashes ← routingStartupCollectStaticRoutes env
        let container ← lydNewPath env routingContainerYangPath
          controlPlaneProtocolsContainerYangPath none
        (startupProtocols env).foldlM (startupProtocol env hashes container) 0).run s₂ =
      (.ok 0, s₃) := by
    simp only [bind_assoc]
    exact hinner
  obtain ⟨_, t₁, hopened, hinner⟩ := Prog.bind_eq_ok hinner
  obtain ⟨hashes, t₂, hcollect, hinner⟩ := Prog.bind_eq_ok hinner
  refine ⟨hashes, t₁, t₂, hcollect, ?_⟩
  rw [hlast, ((emits_startupProtocols hnames hashes).of_ok hinner).1,
    ((nodesOnly_callsBelow _).collectStaticRoutes.of_ok hcollect).1, (hopening.of_ok hopened).1,
    hribs', hfirst]
  simp only [List.append_nil]

end Export

/-! ## the entries -/

section Entries

variable {env : RoutingEnv} {container : LydNode}

/-- The entry an export of a route leaves; a next hop of another kind than
`simple` has no leaves at the place of these. -/
def exportedEntry (env : RoutingEnv) (dst : NlAddr) (route : Route) : StaticRouteEntry where
  destinationPrefix := prefixText env dst
  nextHopAddress :=
    if route.nextHop.kind = .simple then route.nextHop.simple.addr.map env.nlAddr2str else none
  outgoingInterface := if route.nextHop.kind = .simple then route.nextHop.simple.ifName else none

theorem entryNextHop_inj {text text' : String}
    (h : entryNextHop container text = entryNextHop container text') : text = text' := by
  have hlist := congrArg String.toList h
  simp only [entryNextHop, String.toList_append, List.append_assoc] at hlist
  have hpath := List.append_cancel_left (List.append_cancel_left hlist)
  exact routeEntryPath_inj (String.toList_inj.mp (List.append_cancel_right hpath))

theorem store_elsewhere {entries : List StaticRouteEntry} {c : Call} {parent : LydNode}
    (hparent : c.parent? = some parent) (hne : parent ≠ container)
    (hnextHop : ∀ text, parent ≠ entryNextHop container text) :
    store container entries c = entries := by
  cases c with
  | lydNewPath parent' path value =>
      obtain rfl : parent' = parent := Option.some.inj hparent
      cases value with
      | none => exact if_neg hne
      | some value => rfl
  | lydNewTerm parent' module name value =>
      obtain rfl : parent' = parent := Option.some.inj hparent
      simp [store, hnextHop]
  | _ => rfl

theorem store_leaf {entries : List StaticRouteEntry} {entry : StaticRouteEntry}
    (h : ∀ other ∈ entries, other.destinationPrefix ≠ entry.destinationPrefix)
    (module name value : String) :
    store container (entries ++ [entry])
      (.lydNewTerm (entryNextHop container entry.destinationPrefix) module name value) =
        entries ++ [entry.set name value] := by
  have hothers : entries.map (fun other =>
      if entryNextHop container entry.destinationPrefix =
        entryNextHop container other.destinationPrefix then other.set name value else other) =
      entries := by
    refine (List.map_congr_left (g := id) fun other hother => if_neg fun heq => ?_).trans
      (List.map_id _)
    exact h other hother (entryNextHop_inj heq).symm
  rw [store, List.map_append, hothers, List.map_singleton, if_pos rfl]

theorem foldl_store_eq_self {entries : List StaticRouteEntry} {calls : List Call}
    (h : ∀ c ∈ calls, store container entries c = entries) :
    calls.foldl (store container) entries = entries := by
  induction calls with
  | nil => rfl
  | cons c calls ih =>
      rw [List.foldl_cons, h c List.mem_cons_self]
      exact ih fun c hc => h c (List.mem_cons_of_mem _ hc)

/-- A node below the container whose path ends in a key is not the node of a
next hop. -/
theorem store_key {entries : List StaticRouteEntry} {c : Call} {path : String}
    (hparent : c.parent? = some (container ++ "/" ++ path))
    (hend : (container ++ "/" ++ path).toList.getLast? = some ']') :
    store container entries c = entries := by
  refine store_elsewhere hparent ?_ fun text heq => ?_
  · intro heq
    have hlen := congrArg (fun s : String => s.toList.length) heq
    simp at hlen
  · rw [heq, entryNextHop, String.toList_append, List.getLast?_append] at hend
    have hchar : 'p' = ']' := Option.some.inj hend
    exact absurd hchar (by decide)

theorem getLast?_routeEntryPath (node text : String) :
    (node ++ routeEntryPath text).toList.getLast? = some ']' := by
  have hend : entryEnd.getLast? = some ']' := by simp [entryEnd]
  rw [String.toList_append, toList_routeEntryPath, List.getLast?_append, List.getLast?_append,
    List.getLast?_append, hend, Option.some_or, Option.some_or, Option.some_or]

theorem getLast?_listPath (node : String) (family : StartupFamily) (simple : RouteNextHopSimple) :
    (node ++ listPath family simple).toList.getLast? = some ']' := by
  rw [String.toList_append, List.getLast?_append, listPath, String.toList_append,
    List.getLast?_append]
  rfl

/-- What a next hop list leaves is not read. -/
theorem store_listCalls {family : StartupFamily} {entries : List StaticRouteEntry} {text : String}
    {simple : RouteNextHopSimple} {c : Call}
    (h : c ∈ leafCalls env family.module
      (entryNextHop container text ++ "/" ++ listPath family simple) simple) :
    store container entries c = entries := by
  have hpath : entryNextHop container text ++ "/" ++ listPath family simple =
      container ++ "/" ++ (routeEntryPath text ++ "/" ++ "next-hop" ++ "/" ++
        listPath family simple) := by
    simp only [entryNextHop, String.append_assoc]
  have hparent : c.parent? = some (entryNextHop container text ++ "/" ++
      listPath family simple) := by
    rcases List.mem_append.mp h with h | h
    · obtain ⟨addr, _, rfl⟩ := Option.map_eq_some_iff.mp (Option.mem_toList.mp h)
      rfl
    · obtain ⟨name, _, rfl⟩ := Option.map_eq_some_iff.mp (Option.mem_toList.mp h)
      rfl
  have hend := getLast?_listPath (entryNextHop container text ++ "/") family simple
  rw [hpath] at hparent hend
  exact store_key hparent hend

theorem foldl_store_leafCalls {entries : List StaticRouteEntry} {text : String}
    (h : ∀ other ∈ entries, other.destinationPrefix ≠ text) (module : String)
    (simple : RouteNextHopSimple) :
    (leafCalls env module (entryNextHop container text) simple).foldl (store container)
        (entries ++ [{ destinationPrefix := text }]) =
      entries ++ [{
        destinationPrefix := text
        nextHopAddress := simple.addr.map env.nlAddr2str
        outgoingInterface := simple.ifName }] := by
  have hleaf : ∀ entry : StaticRouteEntry, entry.destinationPrefix = text → ∀ name value,
      store container (entries ++ [entry])
        (.lydNewTerm (entryNextHop container text) module name value) =
          entries ++ [entry.set name value] := by
    rintro entry rfl name value
    exact store_leaf h module name value
  have haddress : ∀ (entry : StaticRouteEntry) value,
      entry.set "next-hop-address" value = { entry with nextHopAddress := some value } :=
    fun entry value => if_pos rfl
  have hinterface : ∀ (entry : StaticRouteEntry) value,
      entry.set "outgoing-interface" value = { entry with outgoingInterface := some value } :=
    fun entry value => (if_neg (by decide)).trans (if_pos rfl)
  obtain ⟨addr, ifindex, ifName⟩ := simple
  unfold leafCalls
  rw [List.foldl_append]
  cases addr with
  | none =>
      cases ifName with
      | none => rfl
      | some name =>
          simp only [Option.map_some, Option.map_none, Option.toList_some, Option.toList_none,
            List.foldl_cons, List.foldl_nil]
          rw [hleaf _ rfl, hinterface]
  | some addr =>
      cases ifName with
      | none =>
          simp only [Option.map_some, Option.map_none, Option.toList_some, Option.toList_none,
            List.foldl_cons, List.foldl_nil]
          rw [hleaf _ rfl, haddress]
      | some name =>
          simp only [Option.map_some, Option.toList_some, List.foldl_cons, List.foldl_nil]
          rw [hleaf _ rfl, haddress, hleaf _ rfl, hinterface]

/-- The calls for a bucket store the entry of its first route. -/
theorem foldl_store_bucketCalls {family : StartupFamily} {e : RouteListHashElement} {route : Route}
    (hhead : e.routesHead.head? = some route) {entries : List StaticRouteEntry}
    (h : ∀ other ∈ entries, other.destinationPrefix ≠ prefixText env e.pfx) :
    (bucketCalls env family container e).foldl (store container) entries =
      entries ++ [exportedEntry env e.pfx route] := by
  obtain ⟨routes, hroutes⟩ := List.head?_eq_some_iff.mp hhead
  have hcreate : store container entries
      (.lydNewPath container (routeEntryPath (prefixText env e.pfx)) none) =
        entries ++ [{ destinationPrefix := prefixText env e.pfx }] := by
    rw [store, if_pos rfl, entryText_routeEntryPath]
    rfl
  have hdescription : ∀ text, store container (entries ++ [{
      destinationPrefix := prefixText env e.pfx }]) (.lydNewTerm (container ++ "/" ++
        routeEntryPath (prefixText env e.pfx)) family.module "description" text) =
      entries ++ [{ destinationPrefix := prefixText env e.pfx }] :=
    fun text => store_key rfl (getLast?_routeEntryPath _ _)
  unfold bucketCalls
  rw [hroutes]
  simp only [List.foldl_cons, List.foldl_append, hcreate]
  have hopen : ∀ description : Option String, (description.map fun text =>
      Call.lydNewTerm (container ++ "/" ++ routeEntryPath (prefixText env e.pfx)) family.module
        "description" text).toList.foldl (store container)
        (entries ++ [{ destinationPrefix := prefixText env e.pfx }]) =
      entries ++ [{ destinationPrefix := prefixText env e.pfx }] := by
    intro description
    cases description with
    | none => rfl
    | some text => exact hdescription text
  rw [hopen]
  unfold nextHopCalls exportedEntry
  cases hkind : route.nextHop.kind with
  | simple => exact foldl_store_leafCalls h family.module route.nextHop.simple
  | none => rfl
  | special => rfl
  | list =>
      refine foldl_store_eq_self fun c hc => ?_
      obtain ⟨simple, _, hc⟩ := List.mem_flatMap.mp hc
      rcases List.mem_cons.mp hc with rfl | hc
      · rfl
      · exact store_listCalls hc

/-- The entries the export of a hash leaves, in the order of its buckets. -/
def hashEntries (env : RoutingEnv) (hash : List RouteListHashElement) : List StaticRouteEntry :=
  hash.filterMap fun e => e.routesHead.head?.map (exportedEntry env e.pfx)

theorem foldl_store_buckets {family : StartupFamily} {hash : List RouteListHashElement}
    (htexts : (hash.map fun e => prefixText env e.pfx).Nodup) {entries : List StaticRouteEntry}
    (h : ∀ other ∈ entries, ∀ e ∈ hash, other.destinationPrefix ≠ prefixText env e.pfx) :
    (hash.flatMap (bucketCalls env family container)).foldl (store container) entries =
      entries ++ hashEntries env hash := by
  induction hash generalizing entries with
  | nil => exact (List.append_nil _).symm
  | cons e hash ih =>
      obtain ⟨hnot, hnodup⟩ := List.nodup_cons.mp htexts
      have hrest : ∀ other ∈ entries, ∀ e ∈ hash, other.destinationPrefix ≠ prefixText env e.pfx :=
        fun other hother e he => h other hother e (List.mem_cons_of_mem _ he)
      rw [List.flatMap_cons, List.foldl_append, hashEntries]
      cases hhead : e.routesHead.head? with
      | none =>
          have hempty : bucketCalls env family container e = [] := by
            rw [bucketCalls, List.head?_eq_none_iff.mp hhead]
          rw [hempty, List.foldl_nil, ih hnodup hrest, List.filterMap_cons_none (by simp [hhead])]
          rfl
      | some route =>
          have hnew : ∀ other ∈ entries ++ [exportedEntry env e.pfx route],
              ∀ e ∈ hash, other.destinationPrefix ≠ prefixText env e.pfx := by
            intro other hother e' he'
            rcases List.mem_append.mp hother with hother | hother
            · exact hrest other hother e' he'
            · rw [List.mem_singleton.mp hother]
              exact fun heq => hnot (List.mem_map.mpr ⟨e', he', heq.symm⟩)
          rw [foldl_store_bucketCalls hhead fun other hother => h other hother e List.mem_cons_self,
            ih hnodup hnew, List.append_assoc,
            List.filterMap_cons_some (b := exportedEntry env e.pfx route) (by simp [hhead])]
          rfl

/-- The calls for a bucket stay below the container. -/
theorem parent_bucketCalls {family : StartupFamily} {e : RouteListHashElement} :
    ∀ c ∈ bucketCalls env family container e,
      ∃ parent, c.parent? = some parent ∧ strPrefix container parent := by
  have hself := strPrefix_self container
  have hroute := strPrefix_append (strPrefix_append hself "/")
    (routeEntryPath (prefixText env e.pfx))
  have hnode : strPrefix container (nextHopNode env container e) :=
    strPrefix_append (strPrefix_append hroute "/") "next-hop"
  have hleaves : ∀ (node : LydNode) (simple : RouteNextHopSimple), strPrefix container node →
      ∀ c ∈ leafCalls env family.module node simple,
        ∃ parent, c.parent? = some parent ∧ strPrefix container parent := by
    intro node simple h c hc
    rcases List.mem_append.mp hc with hc | hc
    · obtain ⟨addr, _, rfl⟩ := Option.map_eq_some_iff.mp (Option.mem_toList.mp hc)
      exact ⟨node, rfl, h⟩
    · obtain ⟨name, _, rfl⟩ := Option.map_eq_some_iff.mp (Option.mem_toList.mp hc)
      exact ⟨node, rfl, h⟩
  intro c hc
  unfold bucketCalls at hc
  cases hroutes : e.routesHead with
  | nil =>
      rw [hroutes] at hc
      cases hc
  | cons route routes =>
      rw [hroutes] at hc
      rcases List.mem_cons.mp hc with rfl | hc
      · exact ⟨container, rfl, hself⟩
      rcases List.mem_append.mp hc with hc | hc
      · obtain ⟨text, _, rfl⟩ := Option.map_eq_some_iff.mp (Option.mem_toList.mp hc)
        exact ⟨_, rfl, hroute⟩
      rcases List.mem_cons.mp hc with rfl | hc
      · exact ⟨_, rfl, hroute⟩
      unfold nextHopCalls at hc
      cases hkind : route.nextHop.kind with
      | none => simp [hkind] at hc
      | special => simp [hkind] at hc
      | simple =>
          rw [hkind] at hc
          exact hleaves _ _ hnode c hc
      | list =>
          rw [hkind] at hc
          obtain ⟨simple, _, hc⟩ := List.mem_flatMap.mp hc
          rcases List.mem_cons.mp hc with rfl | hc
          · exact ⟨_, rfl, hnode⟩
          · exact hleaves _ _ (strPrefix_append (strPrefix_append hnode "/") _) c hc

theorem store_otherContainer {family : StartupFamily} {other : LydNode}
    (hapart : ∀ path, strPrefix other (container ++ path) = false)
    {hash : List RouteListHashElement} {entries : List StaticRouteEntry} :
    (hash.flatMap (bucketCalls env family other)).foldl (store container) entries = entries := by
  refine foldl_store_eq_self fun c hc => ?_
  obtain ⟨e, _, hc⟩ := List.mem_flatMap.mp hc
  obtain ⟨parent, hparent, hbelow⟩ := parent_bucketCalls c hc
  refine store_elsewhere hparent ?_ fun text heq => ?_
  · intro heq
    have happ := hapart ""
    rw [String.append_empty, ← heq, hbelow] at happ
    cases happ
  · have happ := hapart ("/" ++ routeEntryPath text ++ "/" ++ "next-hop")
    rw [heq, entryNextHop] at hbelow
    simp only [← String.append_assoc] at happ
    rw [hbelow] at happ
    cases happ

/-- Only the calls below a node count for a container below it. -/
theorem storedEntries_filter {top : LydNode} (h : strPrefix top container) (calls : List Call) :
    storedEntries container (calls.filter (belowNode top)) = storedEntries container calls := by
  have hskip : ∀ entries c, belowNode top c = false → store container entries c = entries := by
    intro entries c hc
    cases hparent : c.parent? with
    | none => cases c <;> first | rfl | cases hparent
    | some parent =>
        rw [belowNode, hparent, Option.any_some] at hc
        refine store_elsewhere hparent ?_ fun text heq => ?_
        · rintro rfl
          rw [h] at hc
          cases hc
        · rw [heq, entryNextHop, strPrefix_append (strPrefix_append (strPrefix_append
            (strPrefix_append h _) _) _) _] at hc
          cases hc
  unfold storedEntries
  generalize ([] : List StaticRouteEntry) = entries
  induction calls generalizing entries with
  | nil => rfl
  | cons c calls ih =>
      cases hc : belowNode top c with
      | true => rw [List.filter_cons_of_pos hc, List.foldl_cons, List.foldl_cons, ih]
      | false =>
          rw [List.filter_cons_of_neg (by simp [hc]), List.foldl_cons, hskip entries c hc, ih]

theorem familyNode_apart {name name' : String} (h : ∀ path, strPrefix name (name' ++ path) = false)
    (path : String) : strPrefix (familyNode name) (familyNode name' ++ path) = false := by
  rw [familyNode, familyNode, String.append_assoc, String.append_assoc, String.append_assoc,
    strPrefix_cancel, strPrefix_cancel]
  exact h path

/-- The entries the export leaves are those of the hashes it collected. -/
theorem storedEntries_load (hnames : ProtocolNames env) {s s' : RoutingState} (hlog : s.log = [])
    (hopen : ∀ n < 2, env.lib (s.calls + n) = true)
    (hrun : (routingStartupLoadData env).run s = (.ok 0, s')) :
    ∃ hashes s₁ s₂, (routingStartupCollectStaticRoutes env).run s₁ = (.ok hashes, s₂) ∧
      ((hashes.ipv4.map fun e => prefixText env e.pfx).Nodup →
        storedEntries (familyNode "ipv4") s'.log = hashEntries env hashes.ipv4) ∧
      ((hashes.ipv6.map fun e => prefixText env e.pfx).Nodup →
        storedEntries (familyNode "ipv6") s'.log = hashEntries env hashes.ipv6) := by
  obtain ⟨hashes, s₁, s₂, hcollect, hcalls⟩ := callsBelow_load hnames hopen hrun
  rw [callsBelow, callsBelow, hlog, List.filter_nil, List.nil_append] at hcalls
  have hipv4 : ∀ path, strPrefix (familyNode "ipv6") (familyNode "ipv4" ++ path) = false := by
    refine familyNode_apart fun path => ?_
    rw [strPrefix, String.toList_append]
    rfl
  have hipv6 : ∀ path, strPrefix (familyNode "ipv4") (familyNode "ipv6" ++ path) = false := by
    refine familyNode_apart fun path => ?_
    rw [strPrefix, String.toList_append]
    rfl
  refine ⟨hashes, s₁, s₂, hcollect, fun htexts => ?_, fun htexts => ?_⟩
  · rw [← storedEntries_filter (strPrefix_familyNode "ipv4"), hcalls, storedEntries, hashCalls,
      List.foldl_append, foldl_store_buckets htexts (by simp),
      store_otherContainer hipv4, List.nil_append]
  · rw [← storedEntries_filter (strPrefix_familyNode "ipv6"), hcalls, storedEntries, hashCalls,
      List.foldl_append, store_otherContainer hipv6,
      foldl_store_buckets htexts (by simp), List.nil_append]

end Entries

end SysrepoInterfaces.Routing
