import SysrepoInterfaces.Routing.CallLog
import SysrepoInterfaces.Routing.Collect

/-!
# SysrepoInterfaces.Routing.RibKeys

The list keys of the RIBs.  The plugin tells RIBs apart by table and family;
the exported key knows two families, and calls every one but IPv4 `ipv6`.
-/

namespace SysrepoInterfaces.Routing

open CProg Keyed Trace

/-! ## keys -/

/-- The key in the list of a RIB the plugin knows by table and family. -/
def ribListKey (key : RibName × Nat) : String :=
  (if key.2 = AF_INET then "ipv4" else "ipv6") ++ "-" ++ key.1.text

theorem ribListKey_eq (key : RibName × Nat) :
    ribListKey key = ribFamilyName key.2 ++ "-" ++ key.1.text := rfl

/-- The list entry with a key. -/
def ribEntryPath (key : String) : String := ribListYangPath ++ "[name='" ++ key ++ "']"

/-- The container of its routes. -/
def ribRoutesPath (key : String) : String := ribListYangPath ++ "[name='" ++ key ++ "']/routes"

theorem ribEntryPath_ribListKey (rib : Rib) : ribEntryPath (ribListKey rib.key) =
    ribListYangPath ++ "[name='" ++ ribFamilyName rib.addressFamily ++ "-" ++ rib.name.text ++
      "']" := by
  simp only [ribEntryPath, ribListKey_eq, Rib.key, String.append_assoc]

theorem ribRoutesPath_ribListKey (rib : Rib) : ribRoutesPath (ribListKey rib.key) =
    ribListYangPath ++ "[name='" ++ ribFamilyName rib.addressFamily ++ "-" ++ rib.name.text ++
      "']/routes" := by
  simp only [ribRoutesPath, ribListKey_eq, Rib.key, String.append_assoc]

theorem ribEntryPath_inj {key key' : String} (h : ribEntryPath key = ribEntryPath key') :
    key = key' := by
  unfold ribEntryPath at h
  rw [← String.toList_inj] at h ⊢
  simpa using h

theorem ribRoutesPath_inj {key key' : String} (h : ribRoutesPath key = ribRoutesPath key') :
    key = key' := by
  unfold ribRoutesPath at h
  rw [← String.toList_inj] at h ⊢
  simpa using h

/-- The families the key knows. -/
def KnownFamily (af : Nat) : Prop := af = AF_INET ∨ af = AF_INET6

/-- The label of a known family determines it. -/
theorem family_inj {af af' : Nat} (haf : KnownFamily af) (haf' : KnownFamily af')
    (h : ribFamilyName af = ribFamilyName af') : af = af' := by
  rcases haf with rfl | rfl <;> rcases haf' with rfl | rfl
  · rfl
  · exact absurd h (by decide)
  · exact absurd h (by decide)
  · rfl

/-- A label has four characters, so a key falls into label and table. -/
theorem key_split {af af' : Nat} {name name' : String}
    (h : ribFamilyName af ++ "-" ++ name = ribFamilyName af' ++ "-" ++ name') :
    ribFamilyName af = ribFamilyName af' ∧ name = name' := by
  have hlength : ∀ af, (ribFamilyName af).toList.length = 4 := by
    intro af
    unfold ribFamilyName
    split <;> rfl
  rw [← String.toList_inj] at h
  simp only [String.toList_append, List.append_assoc] at h
  obtain ⟨hfamily, hrest⟩ := List.append_inj h ((hlength af).trans (hlength af').symm)
  exact ⟨String.toList_inj.mp hfamily, String.toList_inj.mp (List.append_cancel_left hrest)⟩

/-- Among known families the key of the list tells apart what the plugin tells
apart. -/
theorem ribListKey_inj {key key' : RibName × Nat} (haf : KnownFamily key.2)
    (haf' : KnownFamily key'.2) (h : ribListKey key = ribListKey key') : key = key' := by
  obtain ⟨⟨text, hfits⟩, af⟩ := key
  obtain ⟨⟨text', hfits'⟩, af'⟩ := key'
  obtain ⟨hfamily, hname⟩ := key_split h
  obtain rfl : text = text' := hname
  obtain rfl : af = af' := family_inj haf haf' hfamily
  rfl

theorem nodup_ribListKey {keys : List (RibName × Nat)} (hnd : keys.Nodup)
    (haf : ∀ key ∈ keys, KnownFamily key.2) : (keys.map ribListKey).Nodup :=
  (List.nodup_map_iff_inj_on hnd).mpr fun key hkey key' hkey' h =>
    ribListKey_inj (haf key hkey) (haf key' hkey') h

/-! ## the entries of the startup export -/

/-- The nodes created below `parent`, by their paths, of those without a value. -/
def nodeBelow (parent : LydNode) : Call → Option String
  | .lydNewPath node path none => if node = parent then some path else none
  | _ => none

/-- Whatever node lies deeper is not shown. -/
theorem hides_nodeBelow (parent : LydNode) :
    Hides (nodeBelow parent) fun node => parent.length < node.length where
  child node path h := by
    simp only [String.length_append]
    omega
  path node path value h := by
    have hne : node ≠ parent := by
      rintro rfl
      exact Nat.lt_irrefl _ h
    cases value <;> simp [nodeBelow, hne]
  address _ _ _ := rfl
  others c h := by cases c <;> first | rfl | cases h

theorem length_lt_child (parent : LydNode) (path : String) :
    parent.length < (parent ++ "/" ++ path).length := by
  simp only [String.length_append]
  have hslash : "/".length = 1 := rfl
  omega

section Exports

variable {env : RoutingEnv}

theorem emits_newNode (parent : LydNode) (path : String) :
    Emits (shownCalls (nodeBelow parent)) (lydNewPath env parent path none) [path]
      fun node => parent.length < node.length := by
  have hpath := @emits_checked _ env (nodeBelow parent)
    (.lydNewPath parent path none)
  have hshown : nodeBelow parent (.lydNewPath parent path none) = some path := if_pos rfl
  rw [hshown] at hpath
  unfold lydNewPath
  exact hpath.then fun _ _ => emits_pure (length_lt_child parent path)

/-- One entry for each RIB. -/
theorem emits_startupRib (ribsNode : LydNode) (rib : Rib) :
    Emits (shownCalls (nodeBelow ribsNode)) (startupRib env ribsNode rib)
      [ribEntryPath (ribListKey rib.key)] fun _ => True := by
  have hhides := hides_nodeBelow ribsNode
  unfold startupRib
  rw [← ribEntryPath_ribListKey]
  apply (emits_newNode ribsNode _).then
  intro ribNode hnode
  apply (hhides.newPath hnode _ _).bind
  intro _ _
  unfold startupRibDescription
  split
  · exact (hhides.newPath hnode _ _).then fun _ _ => emits_pure trivial
  · exact emits_pure trivial

/-- Everything of a route is deeper. -/
theorem silent_operRoute {parent : LydNode} (modules : UnicastModules) (af : Nat)
    {routesNode : LydNode} (hnode : parent.length < routesNode.length) (acc : Int × String)
    (route : Route) :
    Silent (shownCalls (nodeBelow parent)) (operRoute env modules af routesNode acc route) := by
  have hhides := hides_nodeBelow parent
  have hroute := @HidesNextHop.operRoute _ env _ _ hhides.nextHop modules af routesNode hnode acc
    route
  have hdeeper : parent.length < (routesNode ++ "/" ++ "routes/route").length :=
    hhides.child _ _ hnode
  have hterm : ∀ module name value, nodeBelow parent
      (.lydNewTerm (routesNode ++ "/" ++ "routes/route") module name value) = none :=
    fun _ _ _ => rfl
  have hshown : routeShown (nodeBelow parent) modules af (routesNode ++ "/" ++ "routes/route") acc.2
      route = [] := by
    simp [routeShown, hhides.path _ _ _ hdeeper, hterm]
  rw [hshown] at hroute
  exact hroute.results fun _ _ _ _ => trivial

/-- One `routes` container for each RIB, and everything of the RIB below it. -/
theorem emits_operRib (modules : UnicastModules) (parent : LydNode) (error : Int) (rib : Rib) :
    Emits (shownCalls (nodeBelow parent)) (operRib env modules parent error rib)
      [ribRoutesPath (ribListKey rib.key)] fun _ => True := by
  unfold operRib
  rw [← ribRoutesPath_ribListKey]
  apply (emits_newNode parent _).then
  intro routesNode hnode
  apply silent_foldlM
  intro error e
  unfold operBucket
  apply Silent.before
  · exact silent_foldlM (fun _ _ => silent_operRoute modules _ hnode _ _) _ _
  · exact fun _ => silent_pure _

end Exports

/-! ## the leaves of a RIB -/

/-- The leaves of the routes in the container of a RIB. -/
def routeLeaf (routesNode : LydNode) : Call → Option (String × String)
  | .lydNewPath node path (some value) =>
      if node = routesNode ++ "/" ++ "routes/route" ∧
          (path = "route-preference" ∨ path = "source-protocol") then some (path, value)
      else none
  | .lydNewTerm node _ name value =>
      if node = routesNode ++ "/" ++ "routes/route" ∧ name = "destination-prefix" then
        some (name, value)
      else none
  | _ => none

/-- Next hops have other leaves, wherever they are. -/
theorem hidesNextHop_routeLeaf (routesNode : LydNode) :
    HidesNextHop (routeLeaf routesNode) fun _ => True where
  child _ _ := id
  container _ _ _ := rfl
  interface node value _ := by cases value <;> simp [routeLeaf]
  address _ _ _ := by simp [routeLeaf]
  others c h := by cases c <;> first | rfl | cases h

/-- Whether the module with the leaves of a family is loaded. -/
def hasModule (env : RoutingEnv) (af : Nat) : Bool :=
  if af = AF_INET then env.module "ietf-ipv4-unicast-routing"
  else env.module "ietf-ipv6-unicast-routing"

/-- The leaves of a route to `dst`, which is written where its family has a
module. -/
def leavesOf (env : RoutingEnv) (af : Nat) (dst : NlAddr) (preference : Nat)
    (protocol : Option String) : List (String × String) :=
  [("route-preference", toString preference)] ++
    (if hasModule env af then
      [("destination-prefix", defaultPrefix af (prefixText env dst))] else []) ++
    (protocol.map fun protocol => ("source-protocol", protocol)).toList

/-- The leaves a kernel route is reported with. -/
def reportedLeaves (env : RoutingEnv) (route : RtnlRoute) : List (String × String) :=
  leavesOf env route.family route.dst route.priority
    (some (if route.protocol = RTPROT_STATIC then "ietf-routing:static" else "ietf-routing:direct"))

section Leaves

variable {env : RoutingEnv}

/-- The modules `routing_oper_get_rib_routes_cb` finds. -/
def foundModules (env : RoutingEnv) : UnicastModules :=
  ⟨env.module ipv4UnicastRouting, env.module ipv6UnicastRouting⟩

theorem isSome_forFamily {af : Nat} (haf : KnownFamily af) :
    ((foundModules env).forFamily af).isSome = hasModule env af := by
  have hipv4 : ipv4UnicastRouting = "ietf-ipv4-unicast-routing" := rfl
  have hipv6 : ipv6UnicastRouting = "ietf-ipv6-unicast-routing" := rfl
  have hne : AF_INET6 ≠ AF_INET := by decide
  rcases haf with rfl | rfl
  · cases h : env.module ipv4UnicastRouting <;>
      simp [UnicastModules.forFamily, foundModules, hasModule, ← hipv4, h, hne.symm]
  · cases h : env.module ipv6UnicastRouting <;>
      simp [UnicastModules.forFamily, foundModules, hasModule, ← hipv6, h, hne]

/-- A route writes its leaves into the container of its own RIB only. -/
theorem emits_routeLeaf {af : Nat} (haf : KnownFamily af) {dst : NlAddr} (route : Route)
    (target routesNode : LydNode) {acc : Int × String}
    (hbuffer : defaultPrefix af acc.2 = defaultPrefix af (prefixText env dst)) :
    Emits (shownCalls (routeLeaf target))
      (operRoute env (foundModules env) af routesNode acc route)
      (if routesNode = target then
        leavesOf env af dst route.preference route.metadata.sourceProtocol else [])
      fun acc => defaultPrefix af acc.2 = defaultPrefix af (prefixText env dst) := by
  have hroute := @HidesNextHop.operRoute _ env _ _ (hidesNextHop_routeLeaf target)
    (foundModules env) af routesNode trivial acc route
  have hnode : routesNode ++ "/" ++ "routes/route" = target ++ "/" ++ "routes/route" ↔
      routesNode = target := by simp
  have hmodule := @isSome_forFamily env af haf
  have hshown : routeShown (routeLeaf target) (foundModules env) af
      (routesNode ++ "/" ++ "routes/route") acc.2 route = if routesNode = target then
        leavesOf env af dst route.preference route.metadata.sourceProtocol else [] := by
    rw [routeShown, hbuffer, leavesOf, ← hmodule]
    by_cases h : routesNode = target
    · cases (foundModules env).forFamily af <;> cases route.metadata.sourceProtocol <;>
        simp [routeLeaf, h]
    · cases (foundModules env).forFamily af <;> cases route.metadata.sourceProtocol <;>
        simp [routeLeaf, hnode, h]
  rwa [hshown, hbuffer] at hroute

/-- The leaves of all routes of a RIB. -/
def ribLeaves (env : RoutingEnv) (rib : Rib) : List (String × String) :=
  (ribEntries rib).flatMap fun e => leavesOf env e.rib.2 e.destination e.preference e.sourceProtocol

theorem flatMap_ite {α β : Type} (p : Prop) [Decidable p] (f : α → List β) (xs : List α) :
    (xs.flatMap fun x => if p then f x else []) = if p then xs.flatMap f else [] := by
  by_cases h : p <;> simp [h]

theorem flatMap_ite_key {α : Type} {key : RibName × Nat} {ys : List α} {ribs : List Rib}
    (hnd : (ribs.map Rib.key).Nodup) (h : key ∈ ribs.map Rib.key) :
    (ribs.flatMap fun rib => if rib.key = key then ys else []) = ys := by
  induction ribs with
  | nil => simp at h
  | cons rib ribs ih =>
      rw [List.map_cons, List.nodup_cons] at hnd
      by_cases hkey : rib.key = key
      · have hrest : (ribs.flatMap fun rib => if rib.key = key then ys else []) = [] := by
          refine List.flatMap_eq_nil_iff.mpr fun rib' hrib' => if_neg fun h' => hnd.1 ?_
          rw [hkey, ← h']
          exact List.mem_map_of_mem hrib'
        rw [List.flatMap_cons, if_pos hkey, hrest, List.append_nil]
      · have hmem : key ∈ ribs.map Rib.key := by simpa [Ne.symm hkey] using h
        rw [List.flatMap_cons, if_neg hkey, ih hnd.2 hmem, List.nil_append]

theorem emits_ribLeaf (parent : LydNode) (key : RibName × Nat) (error : Int) {rib : Rib}
    (haf : KnownFamily rib.addressFamily) :
    Emits (shownCalls (routeLeaf (parent ++ "/" ++ ribRoutesPath (ribListKey key))))
      (operRib env (foundModules env) parent error rib)
      (if ribListKey rib.key = ribListKey key then ribLeaves env rib else []) fun _ => True := by
  generalize htarget : parent ++ "/" ++ ribRoutesPath (ribListKey key) = target
  have hsame : parent ++ "/" ++ ribRoutesPath (ribListKey rib.key) = target ↔
      ribListKey rib.key = ribListKey key := by
    rw [← htarget]
    constructor
    · intro h
      exact ribRoutesPath_inj (by simpa using h)
    · exact fun h => by rw [h]
  have hbucket : ∀ routesNode error e, Emits (shownCalls (routeLeaf target))
      (operBucket env (foundModules env) rib.addressFamily routesNode error e)
      (if routesNode = target then e.routesHead.flatMap fun route =>
        leavesOf env rib.addressFamily e.pfx route.preference route.metadata.sourceProtocol else [])
      fun _ => True := by
    intro routesNode error e
    unfold operBucket
    rw [← flatMap_ite]
    apply Emits.then (Q := fun acc => defaultPrefix rib.addressFamily acc.2 =
      defaultPrefix rib.addressFamily (prefixText env e.pfx))
    · exact emits_foldlM (fun _ hacc route _ => emits_routeLeaf haf route target routesNode hacc)
        rfl
    · exact fun _ _ => emits_pure trivial
  have hleaves : (rib.routesHead.flatMap fun e => if ribListKey rib.key = ribListKey key then
      e.routesHead.flatMap fun route => leavesOf env rib.addressFamily e.pfx route.preference
        route.metadata.sourceProtocol else []) =
      if ribListKey rib.key = ribListKey key then ribLeaves env rib else [] := by
    rw [flatMap_ite, ribLeaves, ribEntries, List.flatMap_assoc]
    simp only [List.flatMap_map, Route.entry]
    rfl
  have hpath := @emits_newPath _ env (routeLeaf target) (fun node => node = parent ++ "/" ++
    ribRoutesPath (ribListKey rib.key)) parent (ribRoutesPath (ribListKey rib.key)) none rfl rfl
  unfold operRib
  rw [← ribRoutesPath_ribListKey]
  apply hpath.before
  rintro _ rfl
  rw [← hleaves]
  refine emits_foldlM (fun error _ e _ => ?_) trivial
  have hone := hbucket (parent ++ "/" ++ ribRoutesPath (ribListKey rib.key)) error e
  simp only [hsame] at hone
  exact hone

end Leaves

/-! ## both exports -/

/-- The runs of `p` add a first part of `new` to what a filter shows, and all of
it where they return 0. -/
def Writes {τ : Type} (shown : Call → Option τ) (p : RoutingM Int) (new : List τ) : Prop :=
  ∀ s, ∃ added, shownCalls shown (p.run s).2 = shownCalls shown s ++ added ∧ added <+: new ∧
    ((p.run s).1 = .ok 0 → added = new)

theorem writes_status {τ : Type} {shown : Call → Option τ} {p : RoutingM Int} {new : List τ}
    {Q : Int → Prop} (h : Emits (shownCalls shown) p new Q) {code : Int} (hcode : code ≠ 0) :
    Writes shown (p.status code) new := by
  intro s
  obtain ⟨added, hadded, hpre, hok⟩ := h s
  rw [Prog.run_status]
  refine ⟨added, ?_, ?_⟩
  · split
    · next s' hrun => rwa [hrun] at hadded
    · exact hadded
  · refine ⟨hpre, fun hzero => ?_⟩
    split at hzero
    · cases hzero
      exact absurd rfl hcode
    · exact (hok 0 hzero).1

/-- The keys of the RIBs, as the exports write them. -/
def ribListKeys (env : RoutingEnv) : List String :=
  ((env.routes.map (ribKey env)).eraseDups).map ribListKey

theorem flatMap_key {env : RoutingEnv} {ribs : List Rib} (path : String → String)
    (hkeys : ribs.map Rib.key = (env.routes.map (ribKey env)).eraseDups) :
    (ribs.flatMap fun rib => [path (ribListKey rib.key)]) = (ribListKeys env).map path := by
  rw [ribListKeys, ← hkeys, List.map_map, List.map_map]
  exact List.map_eq_flatMap.symm

/-- The RIBs collected from the kernel's routes. -/
def collectedRibs (env : RoutingEnv) : List Rib := (routingCollectRibs env env.routes []).2

theorem key_collectedRibs (env : RoutingEnv) :
    (collectedRibs env).map Rib.key = (env.routes.map (ribKey env)).eraseDups := by
  obtain ⟨ribs, hcollect, hkeys, -⟩ := routingCollectRibs_nil env env.routes
  rw [collectedRibs, hcollect, hkeys]

theorem map_ribListKeys (env : RoutingEnv) (path : String → String) :
    (ribListKeys env).map path = (collectedRibs env).map fun rib => path (ribListKey rib.key) := by
  rw [← flatMap_key path (key_collectedRibs env)]
  exact List.map_eq_flatMap.symm

section Exports

variable {env : RoutingEnv}

/-- The startup export writes one entry for each key. -/
theorem writes_routingStartupLoadRibs (node : LydNode) :
    Writes (nodeBelow (node ++ "/" ++ ribsContainerYangPath)) (routingStartupLoadRibs env node)
      ((ribListKeys env).map ribEntryPath) := by
  obtain ⟨ribs, hcollect, hkeys, -⟩ := routingCollectRibs_nil env env.routes
  have hchecked : ∀ c, nodeBelow (node ++ "/" ++ ribsContainerYangPath) c = none →
      Silent (shownCalls (nodeBelow (node ++ "/" ++ ribsContainerYangPath))) (checked env c) :=
    fun c hc => silent_checked hc
  have hcontainer : Emits (shownCalls (nodeBelow (node ++ "/" ++ ribsContainerYangPath)))
      (lydNewPath env node ribsContainerYangPath none) []
      fun ribsNode => ribsNode = node ++ "/" ++ ribsContainerYangPath := by
    have hne : node ≠ node ++ "/" ++ ribsContainerYangPath := by
      intro h
      have hlength := length_lt_child node ribsContainerYangPath
      rw [← h] at hlength
      exact Nat.lt_irrefl _ hlength
    exact emits_newPath (if_neg hne) rfl
  refine writes_status (Q := fun _ => True) ?_ (by decide)
  rw [hcollect, ← flatMap_key ribEntryPath hkeys]
  refine Emits.then (Q := fun _ => True) ?_ fun _ _ => silent_pure 0
  apply (hchecked _ rfl).before
  intro _
  apply (hchecked _ rfl).before
  intro _
  apply (hchecked _ rfl).before
  intro _
  apply (hchecked _ rfl).before
  intro _
  apply (hchecked _ rfl).before
  intro _
  apply (hchecked _ rfl).before
  intro _
  simp only [ne_eq, not_true_eq_false, if_false]
  apply hcontainer.bind
  rintro _ rfl
  exact emits_forM fun rib _ => emits_startupRib _ rib

/-- The routes of a RIB, in the order of its hash. -/
def routesInOrder (env : RoutingEnv) (key : RibName × Nat) : List RtnlRoute :=
  (Multimap.pairs (Multimap.ofList ((env.routes.filter fun route => ribKey env route = key).map
    fun route => (route.dst, route)))).map Prod.snd

theorem routesInOrder_perm (env : RoutingEnv) (key : RibName × Nat) :
    (routesInOrder env key).Perm (env.routes.filter fun route => ribKey env route = key) := by
  have hpairs := (Multimap.pairs_ofList ((env.routes.filter fun route => ribKey env route = key).map
    fun route => (route.dst, route))).map Prod.snd
  rw [List.map_map] at hpairs
  exact hpairs.trans (List.Perm.of_eq (List.map_id _))

/-- A RIB that holds what was collected is reported with the leaves of its
kernel routes. -/
theorem ribLeaves_eq {n : Nat} {rib : Rib} (h : toMultimap rib.routesHead = Multimap.ofList
      (((collectedRoutes env env.links n env.routes).filter fun x => ribKey env x.1 = rib.key).map
        fun x => (x.1.dst, x.2))) :
    ribLeaves env rib = (routesInOrder env rib.key).flatMap (reportedLeaves env) := by
  -- the hash, with the kernel route beside each collected one
  obtain ⟨xs, hxs⟩ : ∃ xs, xs = (collectedRoutes env env.links n env.routes).filter
    fun x => ribKey env x.1 = rib.key := ⟨_, rfl⟩
  rw [← hxs] at h
  have hkernel : (env.routes.filter fun route => ribKey env route = rib.key) = xs.map Prod.fst := by
    conv_lhs => rw [← map_fst_collectedRoutes env env.links n env.routes]
    rw [List.filter_map, hxs]
    rfl
  have hroutes : (xs.map fun x => (x.1.dst, x.2)) =
      (xs.map fun x => (x.1.dst, x)).map (Prod.map id Prod.snd) := by
    rw [List.map_map]
    rfl
  have horder : ((xs.map Prod.fst).map fun route => (route.dst, route)) =
      (xs.map fun x => (x.1.dst, x)).map (Prod.map id Prod.fst) := by
    rw [List.map_map, List.map_map]
    rfl
  rw [ribLeaves, ribEntries_eq, h, hroutes, Multimap.pairs_ofList_map, routesInOrder, hkernel,
    horder, Multimap.pairs_ofList_map, List.map_map, List.map_map, List.flatMap_map,
    List.flatMap_map]
  refine List.flatMap_congr fun p hp => ?_
  have hp' := (Multimap.pairs_ofList _).mem_iff.mp hp
  obtain ⟨x, hx, rfl⟩ := List.mem_map.mp hp'
  rw [hxs] at hx
  obtain ⟨hcollected, hkey⟩ := List.mem_filter.mp hx
  obtain ⟨numbered, -, rfl⟩ := List.mem_map.mp hcollected
  have hfamily : rib.key.2 = numbered.2.family := (congrArg Prod.snd (of_decide_eq_true hkey)).symm
  show leavesOf env rib.key.2 _ _ _ = _
  rw [hfamily]
  rfl

/-- A run that collects the RIBs has one for each key, with its routes. -/
theorem ribs_of_run_routingCollectRoutes {s s' : RoutingState} {r : Int × List Rib}
    (hrun : (routingCollectRoutes env env.routes env.links []).run s = (.ok r, s')) :
    r.2.map Rib.key = (env.routes.map (ribKey env)).eraseDups ∧
      ∀ rib ∈ r.2, ribLeaves env rib =
        (routesInOrder env rib.key).flatMap (reportedLeaves env) := by
  obtain ⟨ribs, hkeys, hmaps, hcollects⟩ :=
    collects_routingCollectRoutes env env.links env.routes s
  by_cases hknown : RoutesKnown env env.links unicastHops s.freshRuns env.routes
  · obtain ⟨_, _, hdone, rfl, -⟩ := hcollects.done hknown
    cases hrun.symm.trans hdone
    constructor
    · rw [← hkeys, markActiveRoutes, List.map_map]
      rfl
    · intro rib hrib
      obtain ⟨rib, hold, rfl⟩ := List.mem_map.mp hrib
      rw [ribLeaves, ribEntries_markActiveRib]
      exact ribLeaves_eq (hmaps rib hold)
  · obtain ⟨s'', hcrash, -⟩ := hcollects.crash hknown
    cases hrun.symm.trans hcrash

/-- What the callback shows is what it shows for the RIBs it collected. -/
theorem writes_routingOperGetRibRoutesCb {τ : Type} {shown : Call → Option τ}
    (hothers : ∀ c : Call, c.parent? = none → shown c = none) {parent : LydNode}
    {out : Rib → List τ} {new : List τ}
    (hrib : ∀ error rib, KnownFamily rib.addressFamily →
      Emits (shownCalls shown) (operRib env (foundModules env) parent error rib) (out rib)
        fun _ => True)
    (hnew : ∀ ribs : List Rib, ribs.map Rib.key = (env.routes.map (ribKey env)).eraseDups →
      (∀ rib ∈ ribs, ribLeaves env rib = (routesInOrder env rib.key).flatMap (reportedLeaves env)) →
      ribs.flatMap out = new)
    (hknown : ∀ route ∈ env.routes, KnownFamily route.family) :
    Writes shown (routingOperGetRibRoutesCb env parent) new := by
  have hnodes := nodesOnly_shownCalls hothers
  have hcollect := Emits.results (hnodes.routingCollectRoutes env.routes env.links [])
    fun _ _ _ hrun => ribs_of_run_routingCollectRoutes hrun
  have htree : Emits (shownCalls shown) (operTree env (foundModules env) parent) new
      fun _ => True := by
    unfold operTree operOpen
    apply Silent.before
    · apply (hnodes.checked _ _ rfl).bind
      intro _
      apply (hnodes.checked _ _ rfl).bind
      intro _
      apply (hnodes.checked _ _ rfl).bind
      intro _
      apply (hnodes.checked _ _ rfl).bind
      intro _
      exact (hnodes.checked _ _ rfl).bind fun _ => hnodes.checked _ _ rfl
    intro _
    apply hcollect.before
    rintro ⟨error, ribsHead⟩ ⟨hkeys, hleaves⟩
    rw [← hnew ribsHead hkeys hleaves]
    simp only
    split
    · exact emits_fail
    · refine emits_foldlM (fun error _ rib hmem => hrib error rib ?_) trivial
      have hkey : rib.key ∈ env.routes.map (ribKey env) := by
        rw [← mem_eraseDups, ← hkeys]
        exact List.mem_map_of_mem hmem
      obtain ⟨route, hroute, he⟩ := List.mem_map.mp hkey
      have hfamily : route.family = rib.addressFamily := congrArg Prod.snd he
      rw [← hfamily]
      exact hknown route hroute
  refine writes_status (Q := fun _ => True) ?_ (by decide)
  apply (hnodes.call _ _ rfl).before
  intro _
  refine Emits.before (Q := fun ipv4 => ipv4 = env.module ipv4UnicastRouting) ?_ ?_
  · exact (hnodes.call _ _ rfl).results fun _ _ _ h => (Exit.ok.inj (Prod.mk.inj h).1).symm
  rintro _ rfl
  refine Emits.before (Q := fun ipv6 => ipv6 = env.module ipv6UnicastRouting) ?_ ?_
  · exact (hnodes.call _ _ rfl).results fun _ _ _ h => (Exit.ok.inj (Prod.mk.inj h).1).symm
  rintro _ rfl
  apply htree.then
  intro error _
  split
  · exact emits_fail
  · exact silent_pure _

theorem others_nodeBelow (parent : LydNode) (c : Call) (h : c.parent? = none) :
    nodeBelow parent c = none := (hides_nodeBelow parent).others c h

end Exports

/-! ## the RIBs of a dump -/

/-- The keys of the RIBs are unambiguous: distinct RIBs have distinct ones, a
RIB called `ipv6` has the routes of that family alone, either export creates the
entries with these keys, none of them twice, and the routes reported under the
key of a RIB are its own. -/
structure RibKeysUnambiguous (env : RoutingEnv) : Prop where
  distinct : ((collectedRibs env).map fun rib => ribListKey rib.key).Nodup
  labelled : ∀ rib ∈ collectedRibs env, (∃ table, ribListKey rib.key = "ipv6-" ++ table) →
    ∀ route ∈ env.routes, ribKey env route = rib.key → route.family = AF_INET6
  startup : ∀ node, Writes (nodeBelow (node ++ "/" ++ ribsContainerYangPath))
    (routingStartupLoadRibs env node)
    ((collectedRibs env).map fun rib => ribEntryPath (ribListKey rib.key))
  startupOnce : ((collectedRibs env).map fun rib => ribEntryPath (ribListKey rib.key)).Nodup
  operational : ∀ parent, Writes (nodeBelow parent) (routingOperGetRibRoutesCb env parent)
    ((collectedRibs env).map fun rib => ribRoutesPath (ribListKey rib.key))
  operationalOnce : ((collectedRibs env).map fun rib => ribRoutesPath (ribListKey rib.key)).Nodup
  reported : ∀ parent, ∀ rib ∈ collectedRibs env, ∃ routes : List RtnlRoute,
    routes.Perm (env.routes.filter fun route => ribKey env route = rib.key) ∧
      Writes (routeLeaf (parent ++ "/" ++ ribRoutesPath (ribListKey rib.key)))
        (routingOperGetRibRoutesCb env parent) (routes.flatMap (reportedLeaves env))

/-- Every route has a RIB of its table and family. -/
theorem exists_rib_of_mem {env : RoutingEnv} {route : RtnlRoute} (hroute : route ∈ env.routes) :
    ∃ rib ∈ collectedRibs env, rib.key = ribKey env route := by
  have hmem : ribKey env route ∈ (collectedRibs env).map Rib.key := by
    rw [key_collectedRibs, mem_eraseDups]
    exact List.mem_map_of_mem hroute
  exact List.mem_map.mp hmem

theorem nodup_ribListKeys {env : RoutingEnv}
    (hknown : ∀ route ∈ env.routes, KnownFamily route.family) : (ribListKeys env).Nodup := by
  apply nodup_ribListKey (nodup_eraseDups _)
  intro key hkey
  rw [mem_eraseDups] at hkey
  obtain ⟨route, hroute, rfl⟩ := List.mem_map.mp hkey
  exact hknown route hroute

/-- Below the key of a RIB the callback writes the leaves of its routes. -/
theorem writes_reported {env : RoutingEnv}
    (hknown : ∀ route ∈ env.routes, KnownFamily route.family) (parent : LydNode)
    {key : RibName × Nat} (hkey : key ∈ env.routes.map (ribKey env)) :
    Writes (routeLeaf (parent ++ "/" ++ ribRoutesPath (ribListKey key)))
      (routingOperGetRibRoutesCb env parent)
      ((routesInOrder env key).flatMap (reportedLeaves env)) := by
  have hinj : ∀ key' ∈ env.routes.map (ribKey env), ribListKey key' = ribListKey key →
      key' = key := by
    intro key' hkey' h
    obtain ⟨route, hroute, rfl⟩ := List.mem_map.mp hkey
    obtain ⟨route', hroute', rfl⟩ := List.mem_map.mp hkey'
    exact ribListKey_inj (hknown route' hroute') (hknown route hroute) h
  apply writes_routingOperGetRibRoutesCb (hidesNextHop_routeLeaf _).others
    (fun error rib haf => emits_ribLeaf parent key error haf) _ hknown
  intro ribs hkeys hleaves
  -- of all the RIBs only the one with the key has something to show
  have hmem : ∀ rib ∈ ribs, rib.key ∈ env.routes.map (ribKey env) := by
    intro rib hrib
    rw [← mem_eraseDups, ← hkeys]
    exact List.mem_map_of_mem hrib
  have hown : ∀ rib ∈ ribs,
      (if ribListKey rib.key = ribListKey key then ribLeaves env rib else []) =
      if rib.key = key then (routesInOrder env key).flatMap (reportedLeaves env) else [] := by
    intro rib hrib
    by_cases h : rib.key = key
    · rw [if_pos (by rw [h]), if_pos h, hleaves rib hrib, h]
    · rw [if_neg fun he => h (hinj _ (hmem rib hrib) he), if_neg h]
  rw [List.flatMap_congr hown]
  have hnd : (ribs.map Rib.key).Nodup := by
    rw [hkeys]
    exact nodup_eraseDups _
  have hin : key ∈ ribs.map Rib.key := by
    rw [hkeys, mem_eraseDups]
    exact hkey
  exact flatMap_ite_key hnd hin

/-- The keys are unambiguous exactly when the dump has no route of a family
other than IPv4 and IPv6. -/
theorem ribKeysUnambiguous_iff (env : RoutingEnv) :
    RibKeysUnambiguous env ↔ ∀ route ∈ env.routes, KnownFamily route.family := by
  constructor
  · intro h route hroute
    obtain ⟨rib, hrib, hkey⟩ := exists_rib_of_mem hroute
    have hfamily : rib.key.2 = route.family := congrArg Prod.snd hkey
    by_cases hinet : route.family = AF_INET
    · exact .inl hinet
    · -- any other family is labelled as IPv6
      have hlabel : ribListKey rib.key = "ipv6-" ++ rib.key.1.text := by
        rw [ribListKey, hfamily, if_neg hinet]
        rfl
      exact .inr (h.labelled rib hrib ⟨_, hlabel⟩ route hroute hkey.symm)
  · intro hknown
    have hnd := nodup_ribListKeys hknown
    constructor
    case distinct =>
      have hkeys := map_ribListKeys env id
      rw [List.map_id] at hkeys
      exact hkeys ▸ hnd
    case labelled =>
      rintro rib _ ⟨table, hlabel⟩ route hroute hkey
      have hfamily : route.family = rib.key.2 := congrArg Prod.snd hkey
      rcases hknown route hroute with hinet | hinet6
      · rw [ribListKey, ← hfamily, if_pos hinet, ← String.toList_inj] at hlabel
        simp at hlabel
      · exact hinet6
    case startup =>
      intro node
      rw [← map_ribListKeys env ribEntryPath]
      exact writes_routingStartupLoadRibs node
    case startupOnce =>
      rw [← map_ribListKeys env ribEntryPath]
      exact hnd.map fun _ _ => ribEntryPath_inj
    case operational =>
      intro parent
      rw [← map_ribListKeys env ribRoutesPath]
      exact writes_routingOperGetRibRoutesCb (others_nodeBelow parent)
        (fun error rib _ => emits_operRib _ parent error rib)
        (fun ribs hkeys _ => flatMap_key ribRoutesPath hkeys) hknown
    case operationalOnce =>
      rw [← map_ribListKeys env ribRoutesPath]
      exact hnd.map fun _ _ => ribRoutesPath_inj
    case reported =>
      intro parent rib hrib
      have hkey : rib.key ∈ env.routes.map (ribKey env) := by
        rw [← mem_eraseDups, ← key_collectedRibs]
        exact List.mem_map_of_mem hrib
      exact ⟨_, routesInOrder_perm env rib.key, writes_reported hknown parent hkey⟩

/-- `RTNL_FAMILY_IPMR` and `RTNL_FAMILY_IP6MR` of the kernel: multicast
routes, which a dump for `AF_UNSPEC` has as well. -/
def rtnlFamilyIpmr : Nat := 128

def rtnlFamilyIp6mr : Nat := 129

/-- A multicast route; they are kept in the default table. -/
def multicastRoute (family : Nat) : RtnlRoute :=
  { rtnlRouteAlloc { family, bits := 0, prefixLen := 0 } with table := RT_TABLE_DEFAULT }

/-- A dump with multicast routes of both families. -/
def multicastEnv : RoutingEnv :=
  { sampleEnv with routes := [multicastRoute rtnlFamilyIpmr, multicastRoute rtnlFamilyIp6mr] }

theorem multicastRoutes_same_key : ¬ RibKeysUnambiguous multicastEnv := by
  intro h
  exact absurd h.distinct (by decide)

end SysrepoInterfaces.Routing
