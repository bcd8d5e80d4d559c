import SysrepoInterfaces.Lib.Paired
import SysrepoInterfaces.Routing.PrefixText

/-!
# SysrepoInterfaces.Routing.StartupMirror

The loops that export the IPv4 and the IPv6 static routes at startup, side by
side.  Both make the same calls for a route, in their own module and below
their own container, until they come to a next hop list.
-/

namespace SysrepoInterfaces.Routing

open CProg Interfaces

/-! ## paths -/

/-- Where a reader of a data path stands: among the names, or in a predicate
`[key="text"]` or `[key=number]`. -/
inductive PathState where
  | names
  | key
  | value
  | number
  | quoted
  | closed
deriving DecidableEq, Repr

def PathState.next : PathState → Char → Option PathState
  | .names, c => if c = '[' then some .key else if c = ']' ∨ c = '"' then none else some .names
  | .key, c =>
      if c = '=' then some .value else if c = '[' ∨ c = ']' ∨ c = '"' then none else some .key
  | .value, c => if c = '"' then some .quoted else if c.isDigit then some .number else none
  | .number, c => if c = ']' then some .names else if c.isDigit then some .number else none
  | .quoted, c => if c = '"' then some .closed else some .quoted
  | .closed, c => if c = ']' then some .names else none

/-- Every predicate of the path is one, and is closed. -/
def wellFormedPath (path : String) : Bool :=
  path.toList.foldlM PathState.next .names = some .names

/-- Paths that are the same but for what stands in quotes, which `R` relates. -/
inductive PathMirrors (R : String → String → Prop) : String → String → Prop where
  | plain (path : String) (hplain : '"' ∉ path.toList) : PathMirrors R path path
  | quoted {before text text' after after' : String} (hbefore : '"' ∉ before.toList)
      (htext : '"' ∉ text.toList) (htext' : '"' ∉ text'.toList) (hR : R text text')
      (hafter : PathMirrors R after after') :
      PathMirrors R (before ++ "\"" ++ text ++ "\"" ++ after)
        (before ++ "\"" ++ text' ++ "\"" ++ after')

/-! ## calls -/

/-- The path a call gives a node, where it gives a path. -/
def Call.path? : Call → Option String
  | .lydNewPath _ path _ => some path
  | .lydNewAny _ _ path => some path
  | _ => none

/-- The path of an element of a next hop list, which holds its index. -/
def Call.nextHopPath? : Call → Option String
  | .lydNewAny _ _ path => some path
  | _ => none

/-- Nodes at the same place below their containers. -/
def NodeMirrors (R : String → String → Prop) (container container' node node' : LydNode) : Prop :=
  ∃ path path', node = container ++ path ∧ node' = container' ++ path' ∧ PathMirrors R path path'

/-- The same call in either family; `R` relates the texts of the addresses. -/
inductive CallMirrors (R : String → String → Prop) (family family' : StartupFamily)
    (container container' : LydNode) : Call → Call → Prop where
  | path {parent parent' : LydNode} {path path' : String}
      (hparent : NodeMirrors R container container' parent parent')
      (hpath : PathMirrors R path path') (value : Option String) :
      CallMirrors R family family' container container' (.lydNewPath parent path value)
        (.lydNewPath parent' path' value)
  | inner {parent parent' : LydNode}
      (hparent : NodeMirrors R container container' parent parent') (name : String) :
      CallMirrors R family family' container container' (.lydNewInner parent family.module name)
        (.lydNewInner parent' family'.module name)
  | term {parent parent' : LydNode}
      (hparent : NodeMirrors R container container' parent parent') {name : String}
      (hname : name ≠ "next-hop-address") (value : String) :
      CallMirrors R family family' container container'
        (.lydNewTerm parent family.module name value)
        (.lydNewTerm parent' family'.module name value)
  | address {parent parent' : LydNode}
      (hparent : NodeMirrors R container container' parent parent') {value value' : String}
      (hvalue : R value value') :
      CallMirrors R family family' container container'
        (.lydNewTerm parent family.module "next-hop-address" value)
        (.lydNewTerm parent' family'.module "next-hop-address" value')
  | any {parent parent' : LydNode}
      (hparent : NodeMirrors R container container' parent parent') {path path' : String}
      (hpath : PathMirrors R path path') :
      CallMirrors R family family' container container' (.lydNewAny parent family.module path)
        (.lydNewAny parent' family'.module path')

/-- The calls a run from `s` makes. -/
def written {α : Type} (p : RoutingM α) (s : RoutingState) : List Call :=
  (p.run s).2.log.drop s.log.length

/-! ## lists of routes -/

/-- The loop of a family. -/
def startupRoutes (env : RoutingEnv) (family : StartupFamily) (container : LydNode)
    (routes : List RouteListHashElement) (error : Int) : RoutingM Int :=
  routes.foldlM (startupBucket env family container) error

theorem startupStaticRoutes_eq (env : RoutingEnv) (hashes : StaticHashes) (cppListNode : LydNode)
    (error : Int) : startupStaticRoutes env hashes cppListNode error = (do
      let staticRoutesNode ← lydNewPath env cppListNode "static-routes" none
      let ipv4Node ← lydNewInner env staticRoutesNode ipv4UnicastRouting "ipv4"
      let ipv6Node ← lydNewInner env staticRoutesNode ipv6UnicastRouting "ipv6"
      let error ← startupRoutes env startupIpv4 ipv4Node hashes.ipv4 error
      startupRoutes env startupIpv6 ipv6Node hashes.ipv6 error) := rfl

/-- The same next hop; the texts of the gateways are related. -/
structure NextHopMirrors (R : String → String → Prop) (nlAddr2str : NlAddr → String)
    (nh nh' : RouteNextHopSimple) : Prop where
  addr : Option.Rel R (nh.addr.map nlAddr2str) (nh'.addr.map nlAddr2str)
  ifindex : nh.ifindex = nh'.ifindex
  ifName : nh.ifName = nh'.ifName

/-- The same route; a member of the next hop matters under its kind. -/
structure RouteMirrors (R : String → String → Prop) (nlAddr2str : NlAddr → String)
    (route route' : Route) : Prop where
  description : route.metadata.description = route'.metadata.description
  kind : route.nextHop.kind = route'.nextHop.kind
  simple : route.nextHop.kind = .simple →
    NextHopMirrors R nlAddr2str route.nextHop.simple route'.nextHop.simple
  list : route.nextHop.kind = .list →
    List.Forall₂ (NextHopMirrors R nlAddr2str) route.nextHop.listHead route'.nextHop.listHead

/-- Elements of two hashes that correspond: they have routes, and the first ones
are the same, for prefixes with related texts. -/
def BucketMirrors (R : String → String → Prop) (env : RoutingEnv)
    (e e' : RouteListHashElement) : Prop :=
  R (prefixText env e.pfx) (prefixText env e'.pfx) ∧
    ∃ route older route' older', e.routesHead = route :: older ∧ e'.routesHead = route' :: older' ∧
      RouteMirrors R env.nlAddr2str route route'

/-- The loops mirror each other whatever calls fail: they make the same calls,
with well-formed predicates in the paths, and within a route every next hop of
a list has a path of its own. -/
structure StartupMirrored (R : String → String → Prop) (env : RoutingEnv)
    (ipv4Node ipv6Node : LydNode) (ipv4 ipv6 : List RouteListHashElement) : Prop where
  sameCalls : ∀ lib error error' s,
    List.Forall₂ (CallMirrors R startupIpv4 startupIpv6 ipv4Node ipv6Node)
      (written (startupRoutes { env with lib := lib } startupIpv4 ipv4Node ipv4 error) s)
      (written (startupRoutes { env with lib := lib } startupIpv6 ipv6Node ipv6 error') s)
  wellFormed : ∀ lib error s c,
    c ∈ written (startupRoutes { env with lib := lib } startupIpv4 ipv4Node ipv4 error) s ∨
      c ∈ written (startupRoutes { env with lib := lib } startupIpv6 ipv6Node ipv6 error) s →
    ∀ path ∈ c.path?, wellFormedPath path = true
  ownIndex : ∀ lib error s,
    (∀ e ∈ ipv4, ((written (startupRoutes { env with lib := lib } startupIpv4 ipv4Node [e] error)
      s).filterMap Call.nextHopPath?).Nodup) ∧
    (∀ e ∈ ipv6, ((written (startupRoutes { env with lib := lib } startupIpv6 ipv6Node [e] error)
      s).filterMap Call.nextHopPath?).Nodup)

/-- The route that is exported for a prefix has no next hop list, or an empty one. -/
def RouteListHashElement.withoutList (e : RouteListHashElement) : Prop :=
  ∀ route ∈ e.routesHead.head?, route.nextHop.kind = .list → route.nextHop.listHead = []

/-! ## texts without quotes -/

/-- `nl_addr2str` writes no quote. -/
def PrintsNoQuote (env : RoutingEnv) : Prop := ∀ addr, '"' ∉ (env.nlAddr2str addr).toList

section Paths

variable {R : String → String → Prop} {env : RoutingEnv}

theorem quote_notMem_prefixText (hquote : PrintsNoQuote env) (pfx : NlAddr) :
    '"' ∉ (prefixText env pfx).toList := by
  unfold prefixText
  dsimp only
  split
  · exact hquote pfx
  · have hdigits : '"' ∉ (toString pfx.prefixLen).toList := notMem_toString (by decide) _
    simp only [String.toList_append, List.mem_append, hquote pfx, hdigits, or_false, false_or]
    decide

/-- What stands in quotes may be anything else. -/
theorem foldlM_quoted {text : List Char} (htext : '"' ∉ text) :
    text.foldlM PathState.next .quoted = some .quoted := by
  induction text with
  | nil => rfl
  | cons c text ih =>
      rw [List.mem_cons, not_or] at htext
      rw [List.foldlM_cons, PathState.next, if_neg (Ne.symm htext.1)]
      exact ih htext.2

/-- A name and one predicate. -/
theorem wellFormedPath_key {name text : String}
    (hname : name.toList.foldlM PathState.next .names = some .value)
    (htext : '"' ∉ text.toList) : wellFormedPath (name ++ "\"" ++ text ++ "\"" ++ "]") = true := by
  have hopen : "\"".toList.foldlM PathState.next .value = some .quoted := by decide
  have hclose : "\"".toList.foldlM PathState.next .quoted = some .closed := by decide
  have hend : "]".toList.foldlM PathState.next .closed = some .names := by decide
  rw [wellFormedPath]
  simp only [String.toList_append, List.foldlM_append, hname, Option.bind_eq_bind, Option.bind_some,
    hopen, foldlM_quoted htext, hclose, hend, decide_true]

/-- The path the IPv4 loop builds for an element of a list closes a bracket that
was not opened. -/
theorem wellFormedPath_ipv4_list (index : String) :
    wellFormedPath (startupIpv4.nextHopPath ++ index) = false := by
  have hbad : startupIpv4.nextHopPath.toList.foldlM PathState.next .names = none := by decide
  simp [wellFormedPath, String.toList_append, List.foldlM_append, hbad]

/-- Further names below a node. -/
theorem PathMirrors.child {path path' : String} (h : PathMirrors R path path') {name : String}
    (hname : '"' ∉ name.toList) : PathMirrors R (path ++ name) (path' ++ name) := by
  induction h with
  | plain path hplain => exact .plain _ (by simp [hplain, hname])
  | quoted hbefore htext htext' hR _ ih =>
      simpa only [String.append_assoc] using PathMirrors.quoted hbefore htext htext' hR ih

end Paths

/-! ## the loops in step -/

/-- A call that is the same in either family, with a well-formed path, and not
for an element of a next hop list. -/
structure PlainCall (R : String → String → Prop) (container container' : LydNode) (c c' : Call) :
    Prop where
  mirrors : CallMirrors R startupIpv4 startupIpv6 container container' c c'
  path : ∀ path ∈ c.path?, wellFormedPath path = true
  path' : ∀ path ∈ c'.path?, wellFormedPath path = true
  nextHopPath : c.nextHopPath? = none
  nextHopPath' : c'.nextHopPath? = none

/-- Two runs in step: as many calls were made, and the same ones since the logs
were `log` and `log'`. -/
def InStep (R : String → String → Prop) (container container' : LydNode) (log log' : List Call)
    (s s' : RoutingState) : Prop :=
  s.calls = s'.calls ∧ ∃ new new', s.log = log ++ new ∧ s'.log = log' ++ new' ∧
    List.Forall₂ (PlainCall R container container') new new'

section InStep

variable {R : String → String → Prop} {env : RoutingEnv} {container container' : LydNode}
  {log log' : List Call}

theorem paired_checked {c c' : Call} (h : PlainCall R container container' c c') :
    Prog.Paired (InStep R container container' log log') (checked env c) (checked env c')
      fun _ _ => True := by
  rintro s s' ⟨hcalls, new, new', hlog, hlog', hnew⟩
  rw [run_checked, run_checked, ← hcalls]
  refine ⟨⟨rfl, new ++ [c], new' ++ [c'], ?_, ?_, ?_⟩, ?_⟩
  · rw [hlog, List.append_assoc]
  · rw [hlog', List.append_assoc]
  · exact List.rel_append hnew (.cons h .nil)
  · cases env.lib s.calls <;> exact trivial

theorem paired_leaf {node node' : LydNode} (hnode : NodeMirrors R container container' node node')
    {name : String} (hname : name ≠ "next-hop-address") (value : Option String) :
    Prog.Paired (InStep R container container' log log')
      (startupLeaf env node startupIpv4.module name value)
      (startupLeaf env node' startupIpv6.module name value) fun _ _ => True := by
  cases value with
  | none => exact Prog.paired_pure trivial
  | some value => exact paired_checked ⟨.term hnode hname value, nofun, nofun, rfl, rfl⟩

theorem paired_address {node node' : LydNode}
    (hnode : NodeMirrors R container container' node node') {value value' : Option String}
    (hvalue : Option.Rel R value value') :
    Prog.Paired (InStep R container container' log log')
      (startupLeaf env node startupIpv4.module "next-hop-address" value)
      (startupLeaf env node' startupIpv6.module "next-hop-address" value') fun _ _ => True := by
  cases hvalue with
  | none => exact Prog.paired_pure trivial
  | some hR => exact paired_checked ⟨.address hnode hR, nofun, nofun, rfl, rfl⟩

/-- Without a list the switch over the kind does the same. -/
theorem paired_nextHop {node node' : LydNode}
    (hnode : NodeMirrors R container container' node node') {route route' : Route}
    (hroute : RouteMirrors R env.nlAddr2str route route')
    (hlist : route.nextHop.kind = .list → route.nextHop.listHead = []) (error error' : Int) :
    Prog.Paired (InStep R container container' log log')
      (startupNextHop env startupIpv4 node route.nextHop error)
      (startupNextHop env startupIpv6 node' route'.nextHop error') fun _ _ => True := by
  have hkind := hroute.kind
  unfold startupNextHop
  rw [← hkind]
  cases h : route.nextHop.kind with
  | none => exact Prog.paired_pure trivial
  | simple =>
      have hsimple := hroute.simple h
      refine (paired_address hnode hsimple.addr).bind fun _ _ _ => ?_
      rw [← hsimple.ifName]
      exact (paired_leaf hnode (by decide) _).bind fun _ _ _ => Prog.paired_pure trivial
  | special => exact Prog.paired_pure trivial
  | list =>
      have hnil' : route'.nextHop.listHead = [] := by
        have hsame := hroute.list h
        rw [hlist h] at hsame
        exact List.forall₂_nil_left_iff.mp hsame
      simp only [hlist h, hnil', List.foldlM_nil]
      exact Prog.paired_pure trivial

/-- The path of a route, with its quotes apart. -/
theorem routeEntryPath_eq (text : String) :
    routeEntryPath text = "route[destination-prefix=" ++ "\"" ++ text ++ "\"" ++ "]" := by
  have hopen : "route[destination-prefix=\"" = "route[destination-prefix=" ++ "\"" := rfl
  have hclose : "\"]" = "\"" ++ "]" := rfl
  unfold routeEntryPath
  rw [hopen, hclose]
  simp only [String.append_assoc]

theorem pathMirrors_route (hquote : PrintsNoQuote env) {pfx pfx' : NlAddr}
    (hR : R (prefixText env pfx) (prefixText env pfx')) :
    PathMirrors R (routeEntryPath (prefixText env pfx))
      (routeEntryPath (prefixText env pfx')) := by
  rw [routeEntryPath_eq, routeEntryPath_eq]
  exact .quoted (by decide) (quote_notMem_prefixText hquote pfx)
    (quote_notMem_prefixText hquote pfx') hR (.plain "]" (by decide))

theorem wellFormedPath_route (hquote : PrintsNoQuote env) (pfx : NlAddr) :
    wellFormedPath (routeEntryPath (prefixText env pfx)) = true := by
  rw [routeEntryPath_eq]
  exact wellFormedPath_key (by decide) (quote_notMem_prefixText hquote pfx)

/-- The node of a route. -/
theorem nodeMirrors_route (hquote : PrintsNoQuote env) {pfx pfx' : NlAddr}
    (hR : R (prefixText env pfx) (prefixText env pfx')) :
    NodeMirrors R container container'
      (container ++ "/" ++ routeEntryPath (prefixText env pfx))
      (container' ++ "/" ++ routeEntryPath (prefixText env pfx')) := by
  rw [routeEntryPath_eq, routeEntryPath_eq]
  have hbefore : '"' ∉ "/route[destination-prefix=".toList := by decide
  refine ⟨_, _, ?_, ?_, .quoted hbefore (quote_notMem_prefixText hquote pfx)
    (quote_notMem_prefixText hquote pfx') hR (.plain "]" (by decide))⟩
  · simp only [String.append_assoc]
    rfl
  · simp only [String.append_assoc]
    rfl

/-- A node below another one. -/
theorem NodeMirrors.child {node node' : LydNode} (h : NodeMirrors R container container' node node')
    {name : String} (hname : '"' ∉ name.toList) :
    NodeMirrors R container container' (node ++ "/" ++ name) (node' ++ "/" ++ name) := by
  obtain ⟨path, path', rfl, rfl, hpath⟩ := h
  refine ⟨path ++ "/" ++ name, path' ++ "/" ++ name, ?_, ?_, ?_⟩
  · simp only [String.append_assoc]
  · simp only [String.append_assoc]
  · exact (hpath.child (by decide)).child hname

theorem paired_bucket (hquote : PrintsNoQuote env) {e e' : RouteListHashElement}
    (he : BucketMirrors R env e e') (hlist : e.withoutList) (error error' : Int) :
    Prog.Paired (InStep R container container' log log')
      (startupBucket env startupIpv4 container error e)
      (startupBucket env startupIpv6 container' error' e') fun _ _ => True := by
  obtain ⟨hR, route, older, route', older', hhead, hhead', hroute⟩ := he
  have hcontainer : NodeMirrors R container container' container container' :=
    ⟨"", "", String.append_empty.symm, String.append_empty.symm, .plain "" (by decide)⟩
  have hnode : NodeMirrors R container container'
      (container ++ "/" ++ routeEntryPath (prefixText env e.pfx))
      (container' ++ "/" ++ routeEntryPath (prefixText env e'.pfx)) := nodeMirrors_route hquote hR
  unfold startupBucket
  rw [hhead, hhead']
  simp only [lydNewPath, lydNewInner, bind_assoc, pure_bind]
  have hentry : PlainCall R container container'
      (.lydNewPath container (routeEntryPath (prefixText env e.pfx)) none)
      (.lydNewPath container' (routeEntryPath (prefixText env e'.pfx)) none) := by
    refine ⟨.path hcontainer (pathMirrors_route hquote hR) none, ?_, ?_, rfl, rfl⟩
    · rintro path hpath
      rw [← Option.some.inj hpath]
      exact wellFormedPath_route hquote e.pfx
    · rintro path hpath
      rw [← Option.some.inj hpath]
      exact wellFormedPath_route hquote e'.pfx
  refine (paired_checked hentry).bind fun _ _ _ => ?_
  rw [← hroute.description]
  refine (paired_leaf hnode (by decide) _).bind fun _ _ _ => ?_
  refine (paired_checked ⟨.inner hnode "next-hop", nofun, nofun, rfl, rfl⟩).bind fun _ _ _ => ?_
  exact paired_nextHop (hnode.child (by decide)) hroute (hlist route (by rw [hhead]; rfl)) _ _

/-- Runs of the loops over corresponding lists without next hop lists. -/
theorem forall₂_written (hquote : PrintsNoQuote env) {ipv4 ipv6 : List RouteListHashElement}
    (hsame : List.Forall₂ (BucketMirrors R env) ipv4 ipv6)
    (hlist : ∀ e ∈ ipv4, e.withoutList) (container container' : LydNode) (lib : Nat → Bool)
    (error error' : Int) (s : RoutingState) : List.Forall₂ (PlainCall R container container')
      (written (startupRoutes { env with lib := lib } startupIpv4 container ipv4 error) s)
      (written (startupRoutes { env with lib := lib } startupIpv6 container' ipv6 error') s) := by
  have hrounds := (List.forall₂_and_left ipv4 ipv6).mpr ⟨hlist, hsame⟩
  have hpaired : Prog.Paired (InStep R container container' s.log s.log)
      (startupRoutes { env with lib := lib } startupIpv4 container ipv4 error)
      (startupRoutes { env with lib := lib } startupIpv6 container' ipv6 error')
      fun _ _ => True := by
    refine Prog.paired_foldlM hrounds (fun _ _ _ _ _ he => ?_) trivial
    exact @paired_bucket R { env with lib := lib } _ _ _ _ hquote _ _ he.2 he.1 _ _
  obtain ⟨⟨-, new, new', hlog, hlog', hnew⟩, -⟩ :=
    hpaired s s ⟨rfl, [], [], by simp, by simp, .nil⟩
  rw [written, written, hlog, hlog', List.drop_left, List.drop_left]
  exact hnew

end InStep

/-! ## a list breaks the IPv4 path -/

section Lists

variable {env : RoutingEnv} {c : Call}

/-- What was called stays in the log. -/
theorem ends_logged {α : Type} {p : RoutingM α} (h : Prog.Ends (fun _ => True) p fun _ _ => True)
    (hgrows : Prog.Within LogGrows p) :
    Prog.Ends (fun s => c ∈ s.log) p fun _ s => c ∈ s.log := by
  intro s hs
  obtain ⟨a, s', hrun, -⟩ := h s trivial
  have hlog := hgrows s
  rw [hrun] at hlog
  exact ⟨a, s', hrun, hlog.mem hs⟩

theorem grows_startupBucket (family : StartupFamily) (container : LydNode) (error : Int)
    (e : RouteListHashElement) :
    Prog.Within LogGrows (startupBucket env family container error e) := by
  intro s
  by_cases hroutes : e.routesHead = []
  · unfold startupBucket
    rw [hroutes]
    exact List.prefix_refl s.log
  · exact (List.prefix_append _ _).trans (startupBucket_entry family container error hroutes s)

variable (hlib : ∀ n, env.lib n = true)

include hlib

theorem ends_checked (c : Call) :
    Prog.Ends (fun _ => True) (checked env c) fun _ s => c ∈ s.log := by
  intro s _
  refine ⟨(), _, by rw [run_checked, hlib s.calls]; rfl, ?_⟩
  simp

theorem ends_startupLeaf (node : LydNode) (module name : String) (value : Option String) :
    Prog.Ends (fun _ => True) (startupLeaf env node module name value) fun _ _ => True := by
  cases value with
  | none => exact Prog.ends_pure fun _ _ => trivial
  | some value => exact (ends_checked hlib _).weaken (fun _ h => h) fun _ _ _ => trivial

/-- One element of a list, with the call for its node. -/
theorem ends_startupListNextHop (family : StartupFamily) (nhNode : LydNode)
    (simple : RouteNextHopSimple) :
    Prog.Ends (fun _ => True) (startupListNextHop env family nhNode simple) fun _ s =>
      .lydNewAny nhNode family.module (family.nextHopPath ++ toString simple.ifindex ++ "]") ∈
        s.log := by
  unfold startupListNextHop lydNewAny
  simp only [bind_assoc, pure_bind]
  rw [if_neg (by omega)]
  refine (ends_checked hlib _).bind fun _ => ?_
  refine (ends_logged (ends_startupLeaf hlib _ _ _ _) (grows_startupLeaf _ _ _ _)).bind fun _ => ?_
  refine (ends_logged (ends_startupLeaf hlib _ _ _ _) (grows_startupLeaf _ _ _ _)).bind fun _ => ?_
  exact Prog.ends_pure fun _ h => h

theorem ends_startupNextHop (family : StartupFamily) (nhNode : LydNode) (nextHop : RouteNextHop)
    (error : Int) :
    Prog.Ends (fun _ => True) (startupNextHop env family nhNode nextHop error) fun _ _ => True := by
  unfold startupNextHop
  cases nextHop.kind with
  | none => exact Prog.ends_pure fun _ _ => trivial
  | simple =>
      refine (ends_startupLeaf hlib _ _ _ _).bind fun _ => ?_
      exact (ends_startupLeaf hlib _ _ _ _).bind fun _ => Prog.ends_pure fun _ _ => trivial
  | special => exact Prog.ends_pure fun _ _ => trivial
  | list =>
      refine Prog.ends_foldlM fun _ simple _ => ?_
      exact (ends_startupListNextHop hlib family nhNode simple).weaken (fun _ h => h)
        fun _ _ _ => trivial

/-- The first element of a list, and the others after it. -/
theorem ends_startupNextHop_list (family : StartupFamily) (nhNode : LydNode)
    {nextHop : RouteNextHop} (hkind : nextHop.kind = .list) {simple : RouteNextHopSimple}
    {rest : List RouteNextHopSimple} (hlist : nextHop.listHead = simple :: rest) (error : Int) :
    Prog.Ends (fun _ => True) (startupNextHop env family nhNode nextHop error) fun _ s =>
      .lydNewAny nhNode family.module (family.nextHopPath ++ toString simple.ifindex ++ "]") ∈
        s.log := by
  unfold startupNextHop
  rw [hkind]
  simp only [hlist, List.foldlM_cons]
  refine (ends_startupListNextHop hlib family nhNode simple).bind fun _ => ?_
  refine Prog.ends_foldlM fun _ simple' _ => ends_logged ?_ (grows_startupListNextHop _ _ _)
  exact (ends_startupListNextHop hlib family nhNode simple').weaken (fun _ h => h)
    fun _ _ _ => trivial

omit hlib in
/-- The node of the next hop of a bucket. -/
def nextHopNode (env : RoutingEnv) (container : LydNode) (e : RouteListHashElement) : LydNode :=
  container ++ "/" ++ routeEntryPath (prefixText env e.pfx) ++ "/" ++ "next-hop"

/-- A bucket comes to its end as its next hop does. -/
theorem ends_startupBucket_of {family : StartupFamily} {container : LydNode} {error : Int}
    {e : RouteListHashElement} {route : Route} {older : List Route}
    (hhead : e.routesHead = route :: older) {post : RoutingState → Prop}
    (hnextHop : Prog.Ends (fun _ => True)
      (startupNextHop env family (nextHopNode env container e) route.nextHop error)
      fun _ => post) :
    Prog.Ends (fun _ => True) (startupBucket env family container error e) fun _ => post := by
  unfold startupBucket lydNewPath lydNewInner
  rw [hhead]
  simp only [bind_assoc, pure_bind]
  refine ((ends_checked hlib _).weaken (fun _ h => h) fun _ _ _ => trivial).bind fun _ => ?_
  refine (ends_startupLeaf hlib _ _ _ _).bind fun _ => ?_
  exact ((ends_checked hlib _).weaken (fun _ h => h) fun _ _ _ => trivial).bind fun _ => hnextHop

theorem ends_startupBucket (family : StartupFamily) (container : LydNode) (error : Int)
    {e : RouteListHashElement} (hroutes : e.routesHead ≠ []) :
    Prog.Ends (fun _ => True) (startupBucket env family container error e) fun _ _ => True := by
  obtain ⟨route, older, hhead⟩ := List.exists_cons_of_ne_nil hroutes
  exact ends_startupBucket_of hlib hhead (ends_startupNextHop hlib _ _ _ _)

/-- A list comes up among the calls of the whole loop. -/
theorem ends_startupRoutes_list (family : StartupFamily) (container : LydNode)
    {routes : List RouteListHashElement} (hroutes : ∀ e ∈ routes, e.routesHead ≠ [])
    {e : RouteListHashElement} (he : e ∈ routes) (hlist : ¬ e.withoutList) (error : Int) :
    ∃ simple : RouteNextHopSimple, Prog.Ends (fun _ => True)
      (startupRoutes env family container routes error) fun _ s =>
        .lydNewAny (nextHopNode env container e) family.module
          (family.nextHopPath ++ toString simple.ifindex ++ "]") ∈ s.log := by
  simp only [RouteListHashElement.withoutList, not_forall] at hlist
  obtain ⟨route, hhead, hkind, hne⟩ := hlist
  obtain ⟨older, hhead⟩ := List.head?_eq_some_iff.mp hhead
  obtain ⟨simple, rest, hlist⟩ := List.exists_cons_of_ne_nil hne
  refine ⟨simple, ?_⟩
  obtain ⟨before, after, rfl⟩ := List.append_of_mem he
  unfold startupRoutes
  simp only [List.foldlM_append, List.foldlM_cons]
  refine (Prog.ends_foldlM fun error e he =>
    ends_startupBucket hlib family container error (hroutes e (by simp [he]))).bind fun error => ?_
  refine (ends_startupBucket_of hlib hhead
    (ends_startupNextHop_list hlib _ _ hkind hlist _)).bind fun error => ?_
  exact Prog.ends_foldlM fun error e he => ends_logged
    (ends_startupBucket hlib family container error (hroutes e (by simp [he])))
    (grows_startupBucket family container error e)

end Lists

/-! ## when the loops mirror each other -/

section Mirrored

variable {R : String → String → Prop} {env : RoutingEnv} {ipv4 ipv6 : List RouteListHashElement}

/-- Calls that are in step are not for elements of a list. -/
theorem nextHopPaths_eq_nil {container container' : LydNode} {calls calls' : List Call}
    (h : List.Forall₂ (PlainCall R container container') calls calls') :
    calls.filterMap Call.nextHopPath? = [] ∧ calls'.filterMap Call.nextHopPath? = [] := by
  constructor
  · refine List.filterMap_eq_nil_iff.mpr fun c hc => ?_
    obtain ⟨c', -, hplain⟩ := exists_of_forall₂_left h hc
    exact hplain.nextHopPath
  · refine List.filterMap_eq_nil_iff.mpr fun c' hc' => ?_
    obtain ⟨c, -, hplain⟩ := exists_of_forall₂_right h hc'
    exact hplain.nextHopPath'

theorem startupMirrored_of_withoutList (hquote : PrintsNoQuote env)
    (hsame : List.Forall₂ (BucketMirrors R env) ipv4 ipv6) (ipv4Node ipv6Node : LydNode)
    (hlist : ∀ e ∈ ipv4, e.withoutList) : StartupMirrored R env ipv4Node ipv6Node ipv4 ipv6 where
  sameCalls := by
    intro lib error error' s
    have hcalls := forall₂_written hquote hsame hlist ipv4Node ipv6Node lib error error' s
    exact hcalls.imp fun _ _ hplain => hplain.mirrors
  wellFormed := by
    intro lib error s c hc
    have hcalls := forall₂_written hquote hsame hlist ipv4Node ipv6Node lib error error s
    rcases hc with hc | hc
    · obtain ⟨c', -, hplain⟩ := exists_of_forall₂_left hcalls hc
      exact hplain.path
    · obtain ⟨c', -, hplain⟩ := exists_of_forall₂_right hcalls hc
      exact hplain.path'
  ownIndex := by
    intro lib error s
    -- a route and the one that corresponds to it, each on its own
    have hone : ∀ e e', e ∈ ipv4 → BucketMirrors R env e e' →
        List.Forall₂ (PlainCall R ipv4Node ipv6Node)
          (written (startupRoutes { env with lib := lib } startupIpv4 ipv4Node [e] error) s)
          (written (startupRoutes { env with lib := lib } startupIpv6 ipv6Node [e'] error) s) := by
      intro e e' he hmirrors
      refine forall₂_written hquote (.cons hmirrors .nil) ?_ ipv4Node ipv6Node lib error error s
      rintro _ hmem
      rw [List.mem_singleton.mp hmem]
      exact hlist e he
    constructor
    · intro e he
      obtain ⟨e', -, hmirrors⟩ := exists_of_forall₂_left hsame he
      rw [(nextHopPaths_eq_nil (hone e e' he hmirrors)).1]
      exact List.nodup_nil
    · intro e' he'
      obtain ⟨e, he, hmirrors⟩ : ∃ e ∈ ipv4, BucketMirrors R env e e' :=
        exists_of_forall₂_right hsame he'
      rw [(nextHopPaths_eq_nil (hone e e' he hmirrors)).2]
      exact List.nodup_nil

/-- The loops mirror each other exactly when no route that is exported has a
next hop list. -/
theorem startupMirrored_iff (hquote : PrintsNoQuote env)
    (hsame : List.Forall₂ (BucketMirrors R env) ipv4 ipv6) (ipv4Node ipv6Node : LydNode) :
    StartupMirrored R env ipv4Node ipv6Node ipv4 ipv6 ↔ ∀ e ∈ ipv4, e.withoutList := by
  constructor
  · intro h e he
    by_contra hlist
    have hroutes : ∀ e ∈ ipv4, e.routesHead ≠ [] := by
      intro e he
      obtain ⟨e', -, -, route, older, -, -, hhead, -⟩ := exists_of_forall₂_left hsame he
      rw [hhead]
      exact List.cons_ne_nil route older
    -- every call succeeds, so the list is reached
    obtain ⟨simple, hends⟩ := @ends_startupRoutes_list { env with lib := fun _ => true }
      (fun _ => rfl) startupIpv4 ipv4Node ipv4 hroutes e he hlist 0
    obtain ⟨error, s, hrun, hcall⟩ := hends {} trivial
    have hwritten := h.wellFormed (fun _ => true) 0 {} _ (.inl (by rw [written, hrun]; exact hcall))
    have hgood := hwritten _ rfl
    rw [String.append_assoc, wellFormedPath_ipv4_list] at hgood
    cases hgood
  · exact startupMirrored_of_withoutList hquote hsame ipv4Node ipv6Node

end Mirrored

theorem printsNoQuote_ipv4Str : PrintsNoQuote ipv4StrEnv := by
  have hdigits : ∀ n : Nat, '"' ∉ (toString n).toList := notMem_toString (by decide)
  have hquad : ∀ octets, '"' ∉ (dottedQuad octets).toList := by
    intro octets
    unfold dottedQuad
    simp only [String.toList_append, List.mem_append, hdigits, false_or, or_false]
    decide
  intro addr
  simp only [ipv4StrEnv, ipv4Str]
  split_ifs
  · decide
  · exact hquad _
  · simp only [String.toList_append, List.mem_append, hdigits, hquad, false_or, or_false]
    decide

/-- The same bucket in either family. -/
theorem bucketMirrors_refl (env : RoutingEnv) {e : RouteListHashElement} {route : Route}
    {older : List Route} (hhead : e.routesHead = route :: older) :
    BucketMirrors (· = ·) env e e := by
  have hnextHop : ∀ nh, NextHopMirrors (· = ·) env.nlAddr2str nh nh := by
    intro nh
    refine ⟨?_, rfl, rfl⟩
    cases nh.addr <;> constructor
    rfl
  refine ⟨rfl, route, older, route, older, hhead, hhead, rfl, rfl, fun _ => hnextHop _, fun _ => ?_⟩
  exact List.forall₂_same.mpr fun nh _ => hnextHop nh

/-- A route with two gateways behind eth0. -/
def multipathBucket : RouteListHashElement where
  pfx := addr4 0x0a000000 8
  routesHead := [{ nextHop := { kind := .list, listHead := [
    { addr := addr4 0xc0000201 32, ifindex := 2, ifName := "eth0" },
    { addr := addr4 0xc0000202 32, ifindex := 2, ifName := "eth0" }] } }]

/-- A bucket whose exported route came after one with a next hop list. -/
def replacedBucket : RouteListHashElement where
  pfx := addr4 0xac100000 12
  routesHead :=
    { nextHop := { kind := .simple, simple := { addr := addr4 0xc0000201 32, ifindex := 2 } } } ::
      multipathBucket.routesHead

theorem startupMirrored_iff_bucketOf :
    StartupMirrored (· = ·) ipv4StrEnv "ipv4" "ipv6"
      [bucketOf (addr4 0x0a000000 8), replacedBucket]
      [bucketOf (addr4 0x0a000000 8), replacedBucket] := by
  refine (startupMirrored_iff printsNoQuote_ipv4Str
    (.cons (bucketMirrors_refl _ rfl) (.cons (bucketMirrors_refl _ rfl) .nil)) "ipv4" "ipv6").mpr ?_
  simp only [List.forall_mem_cons, List.not_mem_nil, false_implies, implies_true, and_true]
  exact ⟨by simp [RouteListHashElement.withoutList, bucketOf],
    by simp [RouteListHashElement.withoutList, replacedBucket]⟩

/-- The path of the IPv4 loop has a bracket too many. -/
theorem multipath_not_mirrored :
    ¬ StartupMirrored (· = ·) ipv4StrEnv "ipv4" "ipv6" [multipathBucket] [multipathBucket] := by
  intro h
  have hpath := h.wellFormed (fun _ => true) 0 {} (.lydNewAny
    "ipv4/route[destination-prefix=\"10.0.0.0/8\"]/next-hop" ipv4UnicastRouting
    "next-hop/next-hop-list]/next-hop[index=2]") (.inl (by decide +kernel)) _ rfl
  exact absurd hpath (by decide)

end SysrepoInterfaces.Routing
