import SysrepoInterfaces.Routing.ExportCalls

/-!
# SysrepoInterfaces.Routing.OperStatus

What `routing_oper_get_rib_routes_cb` returns, for every cache and every
outcome of its calls: the checked calls on its path are counted, and the value
`error` is left with is traced through the loops.
-/

namespace SysrepoInterfaces.Routing

open CProg Counted Keyed

variable {env : RoutingEnv}

/-! ## one route -/

/-- 1 for the leaves of a family the module of which was found. -/
def familyLeaf (modules : UnicastModules) (af : Nat) : Nat :=
  if (modules.forFamily af).isSome then 1 else 0

theorem exact_operNextHopAddress (modules : UnicastModules) (af : Nat) (node : LydNode)
    (addr : Option NlAddr) :
    exportLedger.Exact env.lib (operNextHopAddress env modules af node addr)
      (gatewayCalls (familyLeaf modules af) addr) fun _ => True := by
  unfold operNextHopAddress gatewayCalls familyLeaf
  cases addr with
  | none => exact Ledger.exact_pure trivial
  | some addr =>
      cases modules.forFamily af with
      | none => exact Ledger.exact_pure trivial
      | some module => exact exact_checked _

/-- The text of a path is never empty, so `snprintf` never returns 0 for it. -/
theorem length_path_ne_zero (front : String) (ifindex : Nat) :
    ((front ++ toString ifindex ++ "]").length : Int) ≠ 0 := by
  have hbracket : "]".length = 1 := rfl
  rw [String.length_append, hbracket]
  omega

/-- An element of a list leaves the length of its path in `error`. -/
theorem exact_operListNextHop (modules : UnicastModules) (af : Nat) (nhNode : LydNode)
    {simple : RouteNextHopSimple} (hlink : (env.links simple.ifindex).isSome) :
    exportLedger.Exact env.lib (operListNextHop env modules af nhNode simple)
      (2 + gatewayCalls (familyLeaf modules af) simple.addr) fun error => error ≠ 0 := by
  have hlength : exportLedger.Exact env.lib (pure
      (("next-hop/next-hop-list/next-hop[index=" ++ toString simple.ifindex ++ "]").length : Int)) 0
      fun error => error ≠ 0 := Ledger.exact_pure (length_path_ne_zero _ _)
  have hcount : 2 + gatewayCalls (familyLeaf modules af) simple.addr =
      0 + (1 + (1 + (gatewayCalls (familyLeaf modules af) simple.addr + 0))) := by omega
  rw [hcount]
  refine (exact_rtnlLinkGetName hlink).bind fun ifName _ => ?_
  rw [if_neg (by omega)]
  refine (exact_lydNewPath _ _ _).bind fun _ _ => (exact_lydNewPath _ _ _).bind fun _ _ => ?_
  exact (exact_operNextHopAddress modules af _ _).bind fun _ _ => hlength

/-- The switch over the kind of next hop: a list leaves `error` positive. -/
theorem exact_operNextHop (modules : UnicastModules) (af : Nat) (nhNode : LydNode)
    {nextHop : RouteNextHop} (h : Exportable env nextHop) (error : Int) :
    exportLedger.Exact env.lib (operNextHop env modules af nhNode nextHop error)
      (exportedCalls (familyLeaf modules af) nextHop)
      fun error' => error' ≠ 0 ↔ error ≠ 0 ∨ nextHop.kind = .list := by
  rw [operNextHop, exportedCalls]
  cases hkind : nextHop.kind with
  | none => exact Ledger.exact_pure (by simp)
  | special => exact Ledger.exact_pure (by simp)
  | simple =>
      have hcount : 1 + gatewayCalls (familyLeaf modules af) nextHop.simple.addr =
          0 + (1 + (gatewayCalls (familyLeaf modules af) nextHop.simple.addr + 0)) := by omega
      show exportLedger.Exact env.lib _
        (1 + gatewayCalls (familyLeaf modules af) nextHop.simple.addr) _
      rw [hcount]
      refine (exact_rtnlLinkGetName (h.simple hkind).1).bind fun ifName _ => ?_
      refine (exact_lydNewPath _ _ _).bind fun _ _ => ?_
      refine (exact_operNextHopAddress modules af _ _).bind fun _ _ => ?_
      exact Ledger.exact_pure (by simp)
  | list =>
      have hround : ∀ simple ∈ nextHop.listHead,
          exportLedger.Exact env.lib (operListNextHop env modules af nhNode simple)
            (2 + gatewayCalls (familyLeaf modules af) simple.addr) fun error' => error' ≠ 0 :=
        fun simple hsimple =>
          exact_operListNextHop modules af nhNode (h.list hkind simple hsimple).1
      have hloop := Ledger.exact_foldlM_last hround (h.listNonempty hkind) error
      exact hloop.imp rfl fun _ hne => by simp [hne]

theorem exact_operDestination (modules : UnicastModules) (af : Nat) (node : LydNode)
    (prefixBuffer : String) :
    exportLedger.Exact env.lib (operDestination env modules af node prefixBuffer)
      (familyLeaf modules af) fun _ => True := by
  rw [operDestination, familyLeaf]
  cases modules.forFamily af with
  | none => exact Ledger.exact_pure trivial
  | some module => exact (exact_checked _).bind fun _ _ => Ledger.exact_pure trivial

def activeCalls (active : Bool) : Nat := if active then 1 else 0

theorem exact_operActive (node : LydNode) (active : Bool) :
    exportLedger.Exact env.lib (operActive env node active) (activeCalls active)
      fun _ => True := by
  cases active with
  | false => exact Ledger.exact_pure trivial
  | true => exact (exact_lydNewPath _ _ _).bind fun _ _ => Ledger.exact_pure trivial

/-- The calls for a route, its `active` leaf aside. -/
def operRouteCalls (modules : UnicastModules) (af : Nat) (nextHop : RouteNextHop) : Nat :=
  4 + familyLeaf modules af + exportedCalls (familyLeaf modules af) nextHop

theorem exact_operRoute (modules : UnicastModules) (af : Nat) (routesNode : LydNode) {route : Route}
    (h : Exportable env route.nextHop) (acc : Int × String) :
    exportLedger.Exact env.lib (operRoute env modules af routesNode acc route)
      (operRouteCalls modules af route.nextHop + activeCalls route.metadata.active)
      fun acc' => acc'.1 ≠ 0 ↔ acc.1 ≠ 0 ∨ route.nextHop.kind = .list := by
  have hcount : operRouteCalls modules af route.nextHop + activeCalls route.metadata.active =
      1 + (1 + (1 + (exportedCalls (familyLeaf modules af) route.nextHop +
        (familyLeaf modules af + (1 + (activeCalls route.metadata.active + 0)))))) := by
    rw [operRouteCalls]
    omega
  rw [hcount]
  refine (exact_lydNewPath _ _ _).bind fun _ _ => (exact_lydNewPath _ _ _).bind fun _ _ => ?_
  refine (exact_lydNewPath _ _ _).bind fun _ _ => ?_
  refine (exact_operNextHop modules af _ h acc.1).bind fun error herror => ?_
  refine (exact_operDestination modules af _ _).bind fun _ _ => ?_
  refine (exact_lydNewPath _ _ _).bind fun _ _ => (exact_operActive _ _).bind fun _ _ => ?_
  exact Ledger.exact_pure herror

/-! ## the loops -/

/-- What a loop leaves in `error`: it is set by the rounds that meet `P`. -/
def SetBy {β : Type} (P : β → Prop) (error : Int) (done : List β) (error' : Int) : Prop :=
  error' ≠ 0 ↔ error ≠ 0 ∨ ∃ b ∈ done, P b

theorem setBy_nil {β : Type} (P : β → Prop) (error : Int) : SetBy P error [] error := by
  simp [SetBy]

theorem SetBy.concat {β : Type} {P : β → Prop} {error error' error'' : Int} {done : List β} {b : β}
    (h : SetBy P error done error') (hb : error'' ≠ 0 ↔ error' ≠ 0 ∨ P b) :
    SetBy P error (done ++ [b]) error'' := by
  rw [SetBy] at h ⊢
  rw [hb, h]
  simp [or_assoc]

/-- The calls for a bucket. -/
def operBucketCalls (modules : UnicastModules) (af : Nat) (e : RouteListHashElement) : Nat :=
  (e.routesHead.map fun route =>
    operRouteCalls modules af route.nextHop + activeCalls route.metadata.active).sum

/-- A bucket with a route that has a list of next hops. -/
def RouteListHashElement.HasList (e : RouteListHashElement) : Prop :=
  ∃ route ∈ e.routesHead, route.nextHop.kind = .list

theorem exact_operBucket (modules : UnicastModules) (af : Nat) (routesNode : LydNode)
    {e : RouteListHashElement} (h : ∀ route ∈ e.routesHead, Exportable env route.nextHop)
    (error : Int) :
    exportLedger.Exact env.lib (operBucket env modules af routesNode error e)
      (operBucketCalls modules af e) fun error' => error' ≠ 0 ↔ error ≠ 0 ∨ e.HasList := by
  have hround : ∀ (done : List Route) (acc : Int × String), ∀ route ∈ e.routesHead,
      SetBy (fun route => route.nextHop.kind = .list) error done acc.1 →
      exportLedger.Exact env.lib (operRoute env modules af routesNode acc route)
        (operRouteCalls modules af route.nextHop + activeCalls route.metadata.active)
        fun acc' => SetBy (fun route => route.nextHop.kind = .list) error (done ++ [route])
          acc'.1 := by
    intro done acc route hroute hacc
    exact (exact_operRoute modules af routesNode (h route hroute) acc).imp rfl
      fun _ => hacc.concat
  have hstart : SetBy (fun route : Route => route.nextHop.kind = .list) error []
      (error, prefixText env e.pfx).1 := setBy_nil _ _
  rw [← Nat.add_zero (operBucketCalls modules af e)]
  refine (Ledger.exact_foldlM hround hstart).bind fun acc hacc => ?_
  exact Ledger.exact_pure hacc

/-- The calls for a RIB. -/
def operRibCalls (modules : UnicastModules) (rib : Rib) : Nat :=
  1 + (rib.routesHead.map (operBucketCalls modules rib.addressFamily)).sum

/-- A RIB with a route that has a list of next hops. -/
def Rib.HasList (rib : Rib) : Prop := ∃ e ∈ rib.routesHead, e.HasList

theorem exact_operRib (modules : UnicastModules) (parent : LydNode) {rib : Rib}
    (h : ∀ e ∈ rib.routesHead, ∀ route ∈ e.routesHead, Exportable env route.nextHop)
    (error : Int) :
    exportLedger.Exact env.lib (operRib env modules parent error rib) (operRibCalls modules rib)
      fun error' => error' ≠ 0 ↔ error ≠ 0 ∨ rib.HasList := by
  refine (exact_lydNewPath _ _ _).bind fun routesNode _ => ?_
  have hround : ∀ (done : List RouteListHashElement) (error' : Int), ∀ e ∈ rib.routesHead,
      SetBy RouteListHashElement.HasList error done error' →
      exportLedger.Exact env.lib (operBucket env modules rib.addressFamily routesNode error' e)
        (operBucketCalls modules rib.addressFamily e)
        fun error'' => SetBy RouteListHashElement.HasList error (done ++ [e]) error'' := by
    intro done error' e he herror
    exact (exact_operBucket modules rib.addressFamily routesNode (h e he) error').imp rfl
      fun _ => herror.concat
  exact Ledger.exact_foldlM hround (setBy_nil _ _)

theorem exact_operRibs (modules : UnicastModules) (parent : LydNode) {ribs : List Rib}
    (h : ∀ rib ∈ ribs, ∀ e ∈ rib.routesHead, ∀ route ∈ e.routesHead, Exportable env route.nextHop) :
    exportLedger.Exact env.lib (ribs.foldlM (operRib env modules parent) 0)
      (ribs.map (operRibCalls modules)).sum fun error => error ≠ 0 ↔ ∃ rib ∈ ribs, rib.HasList := by
  have hround : ∀ (done : List Rib) (error : Int), ∀ rib ∈ ribs, SetBy Rib.HasList 0 done error →
      exportLedger.Exact env.lib (operRib env modules parent error rib) (operRibCalls modules rib)
        fun error' => SetBy Rib.HasList 0 (done ++ [rib]) error' := by
    intro done error rib hrib herror
    exact (exact_operRib modules parent (h rib hrib) error).imp rfl fun _ => herror.concat
  refine (Ledger.exact_foldlM hround (setBy_nil Rib.HasList 0)).imp rfl fun error herror => ?_
  simpa [SetBy] using herror

/-! ## the active route of a bucket -/

theorem prefIndex_lt {routes : List Route} (h : routes ≠ []) :
    prefIndex routes < routes.length := by
  have hfold : ∀ (l : List (Route × Nat)) (pref : Nat × Nat) (n : Nat), pref.1 < n →
      (∀ x ∈ l, x.2 < n) → (l.foldl (fun (pref : Nat × Nat) (iter : Route × Nat) =>
        if iter.1.preference < pref.2 then (iter.2, iter.1.preference) else pref) pref).1 < n := by
    intro l
    induction l with
    | nil => exact fun _ _ h _ => h
    | cons x l ih =>
        intro pref n hpref hl
        rw [List.foldl_cons]
        have hx := hl x List.mem_cons_self
        have hrest := fun y hy => hl y (List.mem_cons_of_mem _ hy)
        split
        · exact ih _ n hx hrest
        · exact ih _ n hpref hrest
  cases routes with
  | nil => exact absurd rfl h
  | cons first routes =>
      refine hfold _ _ _ (Nat.zero_lt_succ _) fun x hx => ?_
      exact (List.mem_zipIdx hx).2.1.trans_eq (by simp)

/-- A change that costs one more at one place. -/
theorem sum_map_modify {α : Type} {f : α → α} {g : α → Nat} {xs : List α} {i : Nat}
    (hi : i < xs.length) (hg : ∀ x ∈ xs, g (f x) = g x + 1) :
    ((xs.modify i f).map g).sum = (xs.map g).sum + 1 := by
  induction xs generalizing i with
  | nil => simp at hi
  | cons x xs ih =>
      cases i with
      | zero =>
          have hx := hg x List.mem_cons_self
          simp only [List.modify_zero_cons, List.map_cons, List.sum_cons, hx]
          omega
      | succ i =>
          have hxs := ih (by simpa using hi) fun y hy => hg y (List.mem_cons_of_mem _ hy)
          simp only [List.modify_succ_cons, List.map_cons, List.sum_cons, hxs]
          omega

/-- A bucket of inactive routes gets one active route. -/
theorem activeCalls_markActive {routes : List Route} (hne : routes ≠ [])
    (hinactive : ∀ route ∈ routes, route.metadata.active = false) :
    ((markActive routes).map fun route => activeCalls route.metadata.active).sum = 1 := by
  have hzero : (routes.map fun route => activeCalls route.metadata.active).sum = 0 := by
    refine List.sum_eq_zero fun n hn => ?_
    obtain ⟨route, hroute, rfl⟩ := List.mem_map.mp hn
    simp [hinactive route hroute, activeCalls]
  have hstep : ∀ route ∈ routes, activeCalls (routeSetActive route true).metadata.active =
      activeCalls route.metadata.active + 1 := by
    intro route hroute
    simp [hinactive route hroute, activeCalls, routeSetActive]
  rw [markActive, sum_map_modify (prefIndex_lt hne) hstep, hzero]

/-! ## counted over the cache -/

/-- The calls for a route in a RIB, its `active` leaf aside. -/
def operEntryCalls (modules : UnicastModules) (entry : RouteEntry) : Nat :=
  operRouteCalls modules entry.rib.2 entry.nextHop

theorem sum_map_flatMap {α β : Type} (f : α → List β) (g : β → Nat) (xs : List α) :
    ((xs.flatMap f).map g).sum = (xs.map fun x => ((f x).map g).sum).sum := by
  rw [List.map_flatMap, List.flatMap, List.sum_flatten, List.map_map]
  rfl

/-- The calls for a RIB by its entries. -/
theorem operRibCalls_eq (modules : UnicastModules) (rib : Rib) :
    operRibCalls modules rib = 1 + (rib.routesHead.map fun e =>
      (e.routesHead.map fun route => activeCalls route.metadata.active).sum).sum +
        ((ribEntries rib).map (operEntryCalls modules)).sum := by
  have hbucket : ∀ e ∈ rib.routesHead, operBucketCalls modules rib.addressFamily e =
      (e.routesHead.map fun route => activeCalls route.metadata.active).sum +
        ((e.routesHead.map fun route => route.entry rib.key e.pfx).map
          (operEntryCalls modules)).sum := by
    intro e _
    rw [operBucketCalls, List.sum_map_add, List.map_map, Nat.add_comm]
    rfl
  rw [operRibCalls, List.map_congr_left hbucket, List.sum_map_add, ribEntries, sum_map_flatMap,
    Nat.add_assoc]

/-- The buckets of collected RIBs: routes filed, all inactive, at least one. -/
theorem bucket_of_toMultimap {xs : List (NlAddr × Route)} {head : List RouteListHashElement}
    (h : toMultimap head = Multimap.ofList xs) {e : RouteListHashElement} (he : e ∈ head) :
    e.routesHead = ((xs.filter fun x => x.1 = e.pfx).map Prod.snd).reverse ∧ e.routesHead ≠ [] := by
  have hmem : (e.pfx, e.routesHead) ∈ Multimap.ofList xs := by
    rw [← h]
    exact List.mem_map_of_mem he
  have hroutes : e.routesHead = ((xs.filter fun x => x.1 = e.pfx).map Prod.snd).reverse :=
    Multimap.snd_of_mem_ofList hmem
  refine ⟨hroutes, ?_⟩
  have hkey : e.pfx ∈ xs.map Prod.fst := by
    rw [← mem_eraseDups, ← Multimap.keys_ofList]
    exact List.mem_map_of_mem hmem
  obtain ⟨x, hx, hxe⟩ := List.mem_map.mp hkey
  rw [hroutes]
  intro hnil
  have hfilter : x ∈ xs.filter fun x => x.1 = e.pfx := List.mem_filter.mpr ⟨hx, by simpa using hxe⟩
  simp only [List.reverse_eq_nil_iff, List.map_eq_nil_iff] at hnil
  rw [hnil] at hfilter
  cases hfilter

/-- The RIBs the cache is collected into. -/
def cacheRibs (env : RoutingEnv) : List (RibName × Nat) := (env.routes.map (ribKey env)).eraseDups

/-- The destinations of one of them. -/
def cacheDestinations (env : RoutingEnv) (key : RibName × Nat) : List NlAddr :=
  ((env.routes.filter fun route => ribKey env route = key).map RtnlRoute.dst).eraseDups

/-- The checked calls that build the tree: one for each RIB, one for the active
route of each destination, and those for the routes. -/
def operTreeCalls (env : RoutingEnv) (modules : UnicastModules) : Nat :=
  ((cacheRibs env).map fun key => 1 + (cacheDestinations env key).length).sum +
    ((numberedRoutes unicastHops 0 env.routes).map fun p =>
      4 + familyLeaf modules p.2.family +
        nexthopCalls env (familyLeaf modules p.2.family) p.1 (unicastHops p.2)).sum

/-- RIBs that hold the collected routes of the cache, none of them active. -/
structure CollectedRibs (env : RoutingEnv) (ribs : List Rib) : Prop where
  keys : ribs.map Rib.key = cacheRibs env
  maps : ∀ rib ∈ ribs, toMultimap rib.routesHead = Multimap.ofList
    (((collectedRoutes env env.links 0 env.routes).filter fun x =>
      ribKey env x.1 = rib.key).map fun x => (x.1.dst, x.2))

theorem CollectedRibs.perm {ribs : List Rib} (h : CollectedRibs env ribs) :
    (ribs.flatMap ribEntries).Perm
      ((collectedRoutes env env.links 0 env.routes).map (filedEntry env)) := by
  have hkeys : ribs.map Rib.key =
      ((collectedRoutes env env.links 0 env.routes).map fun x => ribKey env x.1).eraseDups := by
    rw [h.keys, cacheRibs]
    conv_lhs => rw [← map_fst_collectedRoutes env env.links 0 env.routes, List.map_map]
    rfl
  exact flatMap_ribEntries_perm hkeys h.maps

theorem CollectedRibs.length_routesHead {ribs : List Rib} (h : CollectedRibs env ribs) {rib : Rib}
    (hrib : rib ∈ ribs) : rib.routesHead.length = (cacheDestinations env rib.key).length := by
  have hpfx := map_pfx_eq (h.maps rib hrib)
  have hdst : ((collectedRoutes env env.links 0 env.routes).filter fun x =>
      ribKey env x.1 = rib.key).map (fun x => x.1.dst) =
      (env.routes.filter fun route => ribKey env route = rib.key).map RtnlRoute.dst := by
    conv_rhs => rw [← map_fst_collectedRoutes env env.links 0 env.routes, List.filter_map,
      List.map_map]
    rfl
  rw [hdst] at hpfx
  rw [cacheDestinations, ← hpfx, List.length_map]

/-- In each bucket one route becomes active. -/
theorem CollectedRibs.activeCalls {ribs : List Rib} (h : CollectedRibs env ribs) {rib : Rib}
    (hrib : rib ∈ ribs) {e : RouteListHashElement} (he : e ∈ rib.routesHead) :
    ((markActive e.routesHead).map fun route => activeCalls route.metadata.active).sum = 1 := by
  obtain ⟨hroutes, hne⟩ := bucket_of_toMultimap (h.maps rib hrib) he
  refine activeCalls_markActive hne fun route hroute => ?_
  rw [hroutes, List.mem_reverse, List.mem_map] at hroute
  obtain ⟨x, hx, rfl⟩ := hroute
  obtain ⟨y, hy, rfl⟩ := List.mem_map.mp (List.mem_filter.mp hx).1
  obtain ⟨p, -, rfl⟩ := List.mem_map.mp (List.mem_filter.mp hy).1
  rfl

theorem CollectedRibs.operTreeCalls_eq {ribs : List Rib} (h : CollectedRibs env ribs)
    (modules : UnicastModules) :
    ((markActiveRoutes ribs).map (operRibCalls modules)).sum = operTreeCalls env modules := by
  have hactive : ∀ rib ∈ ribs, ((markActiveRib rib).routesHead.map fun e =>
      (e.routesHead.map fun route => Routing.activeCalls route.metadata.active).sum).sum =
      (cacheDestinations env rib.key).length := by
    intro rib hrib
    have hone : ∀ e ∈ rib.routesHead, ((markActive e.routesHead).map fun route =>
        Routing.activeCalls route.metadata.active).sum = 1 := fun e he => h.activeCalls hrib he
    rw [markActiveRib, List.map_map, ← h.length_routesHead hrib]
    refine (congrArg List.sum (List.map_congr_left hone)).trans ?_
    simp
  have hribs : ∀ rib ∈ ribs, operRibCalls modules (markActiveRib rib) =
      (1 + (cacheDestinations env rib.key).length) +
        ((ribEntries (markActiveRib rib)).map (operEntryCalls modules)).sum := by
    intro rib hrib
    rw [operRibCalls_eq, hactive rib hrib]
  have hentries : (((markActiveRoutes ribs).flatMap ribEntries).map (operEntryCalls modules)).sum =
      ((numberedRoutes unicastHops 0 env.routes).map fun p =>
        4 + familyLeaf modules p.2.family +
          nexthopCalls env (familyLeaf modules p.2.family) p.1 (unicastHops p.2)).sum := by
    rw [ribEntries_markActiveRoutes, (h.perm.map (operEntryCalls modules)).sum_eq, List.map_map,
      collectedRoutes, List.map_map]
    refine congrArg List.sum (List.map_congr_left fun p _ => ?_)
    show 4 + familyLeaf modules p.2.family + exportedCalls (familyLeaf modules p.2.family)
      (collectedRoute env env.links p.1 p.2).nextHop = _
    rw [exportedCalls_collectedRoute]
  rw [operTreeCalls, ← hentries, sum_map_flatMap, markActiveRoutes, List.map_map, List.map_map,
    ← h.keys, List.map_map, ← List.sum_map_add]
  exact congrArg List.sum (List.map_congr_left hribs)

/-! ## the whole callback -/

/-- Every entry of the collected RIBs can be exported when the links are
known. -/
theorem CollectedRibs.exportable {ribs : List Rib} (h : CollectedRibs env ribs)
    (hknown : RoutesKnown env env.links unicastHops 0 env.routes) :
    ∀ rib ∈ markActiveRoutes ribs, ∀ e ∈ rib.routesHead, ∀ route ∈ e.routesHead,
      Exportable env route.nextHop := by
  intro rib hrib e he route hroute
  have hentry : route.entry rib.key e.pfx ∈ (markActiveRoutes ribs).flatMap ribEntries :=
    List.mem_flatMap.mpr ⟨rib, hrib, List.mem_flatMap.mpr ⟨e, he, List.mem_map_of_mem hroute⟩⟩
  rw [ribEntries_markActiveRoutes, h.perm.mem_iff] at hentry
  obtain ⟨x, hx, hxe⟩ := List.mem_map.mp hentry
  obtain ⟨p, hp, rfl⟩ := List.mem_map.mp hx
  have hnext : (collectedRoute env env.links p.1 p.2).nextHop = route.nextHop :=
    congrArg RouteEntry.nextHop hxe
  rw [← hnext]
  exact exportable_collectedRoute (hknown p hp)

/-- Some route is exported with a list of next hops. -/
def OperList (env : RoutingEnv) : Prop :=
  ∃ p ∈ numberedRoutes unicastHops 0 env.routes, HasList env p.1 (unicastHops p.2)

theorem CollectedRibs.hasList {ribs : List Rib} (h : CollectedRibs env ribs) :
    (∃ rib ∈ markActiveRoutes ribs, rib.HasList) ↔ OperList env := by
  have hentries : (∃ rib ∈ markActiveRoutes ribs, rib.HasList) ↔
      ∃ entry ∈ (markActiveRoutes ribs).flatMap ribEntries, entry.nextHop.kind = .list := by
    simp only [Rib.HasList, RouteListHashElement.HasList, ribEntries, List.mem_flatMap,
      List.mem_map]
    constructor
    · rintro ⟨rib, hrib, e, he, route, hroute, hkind⟩
      exact ⟨_, ⟨rib, hrib, e, he, route, hroute, rfl⟩, hkind⟩
    · rintro ⟨_, ⟨rib, hrib, e, he, route, hroute, rfl⟩, hkind⟩
      exact ⟨rib, hrib, e, he, route, hroute, hkind⟩
  have hroutes : (∃ entry ∈ (collectedRoutes env env.links 0 env.routes).map (filedEntry env),
      entry.nextHop.kind = .list) ↔ OperList env := by
    simp only [OperList, collectedRoutes, List.mem_map, exists_exists_and_eq_and]
    refine exists_congr fun p => and_congr_right fun _ => ?_
    exact kind_collectedRoute p.1 p.2
  rw [hentries, ribEntries_markActiveRoutes, ← hroutes]
  exact exists_congr fun entry => and_congr_left fun _ => h.perm.mem_iff

theorem exact_operOpen (env : RoutingEnv) :
    exportLedger.Exact env.lib (operOpen env) 6 fun _ => True := by
  show exportLedger.Exact env.lib (operOpen env) (1 + (1 + (1 + (1 + (1 + 1))))) fun _ => True
  refine (exact_checked _).bind fun _ _ => (exact_checked _).bind fun _ _ => ?_
  refine (exact_checked _).bind fun _ _ => (exact_checked _).bind fun _ _ => ?_
  exact (exact_checked _).bind fun _ _ => exact_checked _

/-- Collecting the routes and filling the tree with them. -/
theorem exports_operTree (modules : UnicastModules) (parent : LydNode) {s : RoutingState}
    (hruns : s.freshRuns = 0) :
    Exports env (operTree env modules parent) s (6 + operTreeCalls env modules)
      (RoutesKnown env env.links unicastHops 0 env.routes)
      (RoutesFail env unicastHops 0 env.routes) fun error => error ≠ 0 ↔ OperList env := by
  refine exports_exact_bind (exact_operOpen env) fun _ s₁ _ _ hruns₁ => ?_
  obtain ⟨ribs, hkeys, hmaps, hcollect⟩ := collects_routingCollectRoutes env env.links env.routes s₁
  rw [hruns₁, hruns] at hmaps hcollect
  have hribs : CollectedRibs env ribs := ⟨hkeys, hmaps⟩
  refine exports_collects_bind hcollect fun r hknown hr => ?_
  obtain rfl := hr
  have hexact := exact_operRibs modules parent (hribs.exportable hknown)
  rw [hribs.operTreeCalls_eq] at hexact
  exact hexact.imp rfl fun error herror => herror.trans hribs.hasList

/-- 0 is returned exactly when no call failed. -/
def StatusExact (r : Exit Int × RoutingState) : Prop := r.1 = .ok 0 ↔ r.2.failed = false

instance (r : Exit Int × RoutingState) : Decidable (StatusExact r) :=
  inferInstanceAs (Decidable (r.1 = .ok 0 ↔ r.2.failed = false))

/-- A run that comes to its end with `error ≠ 0` for a reason of its own is
exact when that reason and the unchecked failures coincide. -/
theorem statusExact_status {p : RoutingM Int} {known list fails : Prop} {calls : Nat}
    (hp : Exports env p {} calls known fails fun error => error ≠ 0 ↔ list) {code : Int}
    (hcode : code ≠ 0) :
    StatusExact ((Prog.status code do
      let error ← p
      if error ≠ 0 then Prog.fail else return error).run {}) ↔
      ¬ (AllGood env.lib 0 calls ∧ known) ∨ (list ↔ fails) := by
  rw [Prog.run_status, Prog.run_bind]
  by_cases hgood : AllGood env.lib 0 calls ∧ known
  · obtain ⟨error, s', hrun, herror, -, hfailed⟩ := hp.done hgood.1 hgood.2
    have hfails : s'.failed = true ↔ fails := by simpa using hfailed
    rw [hrun, ← herror, ← hfails]
    by_cases hzero : error = 0
    · simp [hzero, StatusExact, hgood]
    · simp [hzero, StatusExact, hgood, hcode]
  · obtain ⟨x, s', hrun, hx, hfailed⟩ := hp.stop hgood
    rw [hrun]
    cases x with
    | ok a => exact absurd rfl (hx a)
    | error => simp [StatusExact, hgood, hcode, hfailed]
    | crash => simp [StatusExact, hgood, hfailed]

/-- The modules, as `ly_ctx_get_module` returned them. -/
def operModules (env : RoutingEnv) : UnicastModules :=
  ⟨env.module ipv4UnicastRouting, env.module ipv6UnicastRouting⟩

/-- The checked calls on the path of `routing_oper_get_rib_routes_cb`. -/
def operCalls (env : RoutingEnv) : Nat := 6 + operTreeCalls env (operModules env)

/-- A call that `routing_oper_get_rib_routes_cb` makes without looking at its
result fails. -/
def OperUnchecked (env : RoutingEnv) : Prop :=
  env.acquired = false ∨ env.module ipv4UnicastRouting = false ∨
    env.module ipv6UnicastRouting = false ∨ RoutesFail env unicastHops 0 env.routes

/-- The callback returns `SR_ERR_OK` exactly on the runs without a failed call
when some checked call fails, a link is missing, or a list of next hops is
exported just when an unchecked call failed. -/
theorem statusExact_routingOperGetRibRoutesCb (env : RoutingEnv) (parent : LydNode) :
    StatusExact ((routingOperGetRibRoutesCb env parent).run {}) ↔
      (∃ i < operCalls env, env.lib i = false) ∨
        ¬ RoutesKnown env env.links unicastHops 0 env.routes ∨
          (OperList env ↔ OperUnchecked env) := by
  have htree : Exports env (do
      let _ ← call .srAcquireContext env.acquired
      let ipv4 ← call (.lyCtxGetModule ipv4UnicastRouting) (env.module ipv4UnicastRouting)
      let ipv6 ← call (.lyCtxGetModule ipv6UnicastRouting) (env.module ipv6UnicastRouting)
      operTree env ⟨ipv4, ipv6⟩ parent) {} (operCalls env)
      (RoutesKnown env env.links unicastHops 0 env.routes)
      (OperUnchecked env) fun error => error ≠ 0 ↔ OperList env := by
    refine exports_call_bind fun s₁ _ hruns₁ => exports_call_bind fun s₂ _ hruns₂ => ?_
    refine exports_call_bind fun s₃ _ hruns₃ => ?_
    exact exports_operTree (operModules env) parent (hruns₃.trans (hruns₂.trans hruns₁))
  have hcb : routingOperGetRibRoutesCb env parent = Prog.status SR_ERR_CALLBACK_FAILED (do
      let error ← (do
        let _ ← call .srAcquireContext env.acquired
        let ipv4 ← call (.lyCtxGetModule ipv4UnicastRouting) (env.module ipv4UnicastRouting)
        let ipv6 ← call (.lyCtxGetModule ipv6UnicastRouting) (env.module ipv6UnicastRouting)
        operTree env ⟨ipv4, ipv6⟩ parent)
      if error ≠ 0 then Prog.fail else return error) := by
    simp only [routingOperGetRibRoutesCb, bind_assoc]
  have hcalls := @not_allGood env.lib 0 (operCalls env)
  simp only [Nat.zero_add] at hcalls
  rw [hcb, statusExact_status htree (by decide), ← hcalls, not_and_or, or_assoc]

end SysrepoInterfaces.Routing
