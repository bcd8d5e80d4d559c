import SysrepoInterfaces.Routing.Apply
import SysrepoInterfaces.Routing.Batches

/-!
# SysrepoInterfaces.Routing.Refinement

Do the kernel's static routes follow the datastore?  A change that succeeds
installs one route for each prefix that appeared, with its gateway and without
its interface, removes those of the prefixes that vanished, and leaves the
prefixes that stayed as they were.
-/

namespace SysrepoInterfaces.Routing

open CProg Keyed

/-! ## routes of a batch -/

/-- The next hop of a batch route: a gateway or nothing. -/
def gatewayNextHop : Option NlAddr → RouteNextHop
  | none => {}
  | some gw => { kind := .simple, simple := { addr := some gw } }

/-- The route of a batch with the gateway `g`. -/
structure HasGateway (g : Option NlAddr) (route : Route) : Prop where
  preference : route.preference = 0
  nextHop : route.nextHop = gatewayNextHop g

/-- The gateway leaves of an entry that are recorded. -/
def LeafChange.SetsGateway (l : LeafChange) : Prop := l.Recorded ∧ l.leaf = .nextHopAddress

theorem hasGateway_write {env : RoutingEnv} {l : LeafChange} {f : Route → Route}
    (hr : l.Recorded) (hf : l.write env = .ok f) {g : Option NlAddr} {route : Route}
    (h : HasGateway g route) :
    ∃ g', HasGateway g' (f route) ∧
      (¬ l.SetsGateway ∧ g' = g ∨ l.SetsGateway ∧ env.nlAddrParse l.value = g' ∧ g' ≠ none) := by
  rw [LeafChange.write] at hf
  cases hleaf : l.leaf with
  | description =>
      rw [hleaf] at hf
      obtain rfl := Exit.ok.inj hf
      exact ⟨g, ⟨h.preference, h.nextHop⟩, .inl ⟨by simp [LeafChange.SetsGateway, hleaf], rfl⟩⟩
  | outgoingInterface => exact absurd hleaf hr.2
  | nextHopAddress =>
      rw [hleaf] at hf
      obtain ⟨gw, hgw, hf⟩ := Exit.bind_eq_ok.mp hf
      obtain rfl := Exit.ok.inj hf
      refine ⟨some gw, ⟨h.preference, ?_⟩,
        .inr ⟨⟨hr, hleaf⟩, nlAddrParse_eq_ok.mp hgw, by simp⟩⟩
      show routeNextHopSetSimpleGateway route.nextHop (some gw) = gatewayNextHop (some gw)
      rw [h.nextHop]
      cases g <;> rfl

/-- Recording leaves leaves a gateway or nothing behind: the one from before
when none of them sets it, and else one that a leaf has set. -/
theorem hasGateway_writeAll {env : RoutingEnv} {ls : List LeafChange} {f : Route → Route}
    (hf : writeAll env ls = .ok f) {g : Option NlAddr} {route : Route} (h : HasGateway g route) :
    ∃ g', HasGateway g' (f route) ∧
      ((∀ l ∈ ls, ¬ l.SetsGateway) ∧ g' = g ∨
        ∃ l ∈ ls, l.SetsGateway ∧ env.nlAddrParse l.value = g' ∧ g' ≠ none) := by
  induction ls generalizing f g route with
  | nil =>
      obtain rfl := Exit.ok.inj hf
      exact ⟨g, h, .inl ⟨by simp, rfl⟩⟩
  | cons l ls ih =>
      rw [writeAll] at hf
      by_cases hr : l.Recorded
      · rw [if_pos hr] at hf
        obtain ⟨f₁, hf₁, hf⟩ := Exit.bind_eq_ok.mp hf
        obtain ⟨f₂, hf₂, hf⟩ := Exit.bind_eq_ok.mp hf
        obtain rfl := Exit.ok.inj hf
        obtain ⟨g₁, h₁, hg₁⟩ := hasGateway_write hr hf₁ h
        obtain ⟨g₂, h₂, hg₂⟩ := ih hf₂ h₁
        refine ⟨g₂, h₂, ?_⟩
        rcases hg₂ with ⟨hno, rfl⟩ | ⟨l', hl', hset⟩
        · rcases hg₁ with ⟨hl, rfl⟩ | hset
          · exact .inl ⟨List.forall_mem_cons.mpr ⟨hl, hno⟩, rfl⟩
          · exact .inr ⟨l, List.mem_cons_self, hset⟩
        · exact .inr ⟨l', List.mem_cons_of_mem _ hl', hset⟩
      · rw [if_neg hr] at hf
        obtain ⟨g', h', hg'⟩ := ih hf h
        refine ⟨g', h', ?_⟩
        rcases hg' with ⟨hno, rfl⟩ | ⟨l', hl', hset⟩
        · exact .inl ⟨List.forall_mem_cons.mpr ⟨fun hset => hr hset.1, hno⟩, rfl⟩
        · exact .inr ⟨l', List.mem_cons_of_mem _ hl', hset⟩

/-! ## the batches of a change stream -/

/-- One route under each of the prefixes `ps`, in that order, with a gateway
that `P` allows for the prefix. -/
structure Holds (P : NlAddr → Option NlAddr → Prop) (ps : List NlAddr)
    (routes : List RouteListHashElement) : Prop where
  keys : routes.map RouteListHashElement.pfx = ps
  single : ∀ e ∈ routes, ∃ route g, e.routesHead = [route] ∧ HasGateway g route ∧ P e.pfx g

theorem Holds.adjust {P : NlAddr → Option NlAddr → Prop} {ps : List NlAddr}
    {routes : List RouteListHashElement} (h : Holds P ps routes) {f : Route → Route}
    (hf : ∀ p g route, HasGateway g route → P p g → ∃ g', HasGateway g' (f route) ∧ P p g')
    (addr : NlAddr) :
    Holds P ps (Keyed.adjust RouteListHashElement.pfx addr
      (fun e => { e with routesHead := modifyHead f e.routesHead }) routes) := by
  constructor
  · rw [map_adjust (by intro e; rfl), h.keys]
  · intro e he
    rcases mem_adjust he with hold | ⟨x, hx, rfl⟩
    · exact h.single e hold
    · obtain ⟨route, g, hroutes, hg, hP⟩ := h.single x (mem_of_lookup hx)
      obtain ⟨g', hg', hP'⟩ := hf x.pfx g route hg hP
      exact ⟨f route, g', by simp [hroutes, modifyHead], hg', hP'⟩

/-- A new prefix, with the leaves written to its route. -/
theorem Holds.open {P : NlAddr → Option NlAddr → Prop} {ps : List NlAddr}
    {routes : List RouteListHashElement} (h : Holds P ps routes) {f : Route → Route} {p : NlAddr}
    (hp : p ∉ ps) (hf : ∃ g, HasGateway g (f {}) ∧ P p g) :
    Holds P (ps ++ [p]) (Keyed.adjust RouteListHashElement.pfx p
      (fun e => { e with routesHead := modifyHead f e.routesHead })
      (routeListHashPush routes p {})) := by
  have hnot : p ∉ routes.map RouteListHashElement.pfx := by rwa [h.keys]
  have hpush : routeListHashPush routes p {} = routes ++ [⟨p, [{}]⟩] := by
    rw [routeListHashPush, routeListHashGet, lookup_eq_none_iff.mpr hnot]
    rfl
  rw [hpush, adjust_append_of_not_mem _ hnot]
  obtain ⟨g, hg, hP⟩ := hf
  constructor
  · simp [h.keys, Keyed.adjust]
  · intro e he
    rcases List.mem_append.mp he with he | he
    · exact h.single e he
    · simp only [Keyed.adjust, if_true, List.mem_singleton] at he
      exact ⟨f {}, g, by rw [he]; rfl, hg, he ▸ hP⟩

section Stream

variable {text : NlAddr → String} {old new : StaticRoutes}

theorem leaf_of_leafDiff {leaf : RouteLeaf} {v w : Option String} {l : LeafChange}
    (h : leafDiff leaf v w = some l) : l.leaf = leaf := by
  rw [leafDiff.eq_def] at h
  split at h
  · cases h
  · rw [← Option.some.inj h]
  · rw [← Option.some.inj h]
  · split at h
    · cases h
    · rw [← Option.some.inj h]

theorem mem_leafDiffs {c c' : Option RouteConfig} {l : LeafChange} :
    l ∈ leafDiffs text c c' ↔ leafDiff l.leaf (c.bind fun x => x.leafValue text l.leaf)
      (c'.bind fun x => x.leafValue text l.leaf) = some l := by
  rw [leafDiffs, List.mem_filterMap]
  constructor
  · rintro ⟨leaf, -, h⟩
    rw [leaf_of_leafDiff h]
    exact h
  · intro h
    exact ⟨l.leaf, by cases l.leaf <;> simp, h⟩

/-- The gateway leaf of an entry that appears. -/
theorem gateway_of_created {c : RouteConfig} {l : LeafChange}
    (h : l ∈ leafDiffs text none (some c)) (hset : l.SetsGateway) :
    ∃ gw, c.nextHopAddress = some gw ∧ l.value = text gw := by
  rw [mem_leafDiffs, hset.2] at h
  cases hgw : c.nextHopAddress with
  | none => simp [RouteConfig.leafValue, hgw, leafDiff] at h
  | some gw =>
      simp only [Option.bind_none, Option.bind_some, RouteConfig.leafValue, hgw, Option.map_some,
        leafDiff, Option.some.injEq] at h
      exact ⟨gw, rfl, by rw [← h]⟩

theorem exists_gateway_of_created {c : RouteConfig} {gw : NlAddr}
    (h : c.nextHopAddress = some gw) :
    ∃ l ∈ leafDiffs text none (some c), l.SetsGateway := by
  refine ⟨⟨.nextHopAddress, .created, text gw⟩, mem_leafDiffs.mpr ?_, ⟨.inl rfl, nofun⟩, rfl⟩
  simp [RouteConfig.leafValue, h, leafDiff]

/-- An entry that keeps its gateway has no gateway leaf. -/
theorem not_setsGateway_of_kept {c c' : RouteConfig} {l : LeafChange}
    (heq : c.nextHopAddress = c'.nextHopAddress) (h : l ∈ leafDiffs text (some c) (some c')) :
    ¬ l.SetsGateway := by
  intro hset
  rw [mem_leafDiffs, hset.2] at h
  cases hgw : c'.nextHopAddress <;> simp [RouteConfig.leafValue, heq, hgw, leafDiff] at h

/-- The prefixes that appear. -/
def appeared (old : StaticRoutes) (ps : List NlAddr) : List NlAddr :=
  ps.filter fun p => (old p).isNone

/-- The prefixes that vanish. -/
def vanished (new : StaticRoutes) (ps : List NlAddr) : List NlAddr :=
  ps.filter fun p => (new p).isNone

/-- No entry that stays changes its gateway. -/
def GatewaysKept (old new : StaticRoutes) : Prop :=
  ∀ p c c', old p = some c → new p = some c' → c.nextHopAddress = c'.nextHopAddress

/-- The gateway a new route has to have, unless a kept entry interferes. -/
def NewGateway (old new : StaticRoutes) (p : NlAddr) (g : Option NlAddr) : Prop :=
  GatewaysKept old new → g = (new p).bind RouteConfig.nextHopAddress

/-- What the loop knows of the two batches. -/
structure BatchesHold (old new : StaticRoutes) (ns ds : List NlAddr) (b : Batches) : Prop where
  new : Holds (NewGateway old new) ns b.newRoutes
  delete : Holds (fun _ _ => True) ds b.deleteRoutes

/-- An entry that appears opens a route with its gateway. -/
theorem BatchesHold.appear {env : RoutingEnv}
    (hparse : ∀ a b, env.nlAddrParse (text a) = some b → b = a) {ns ds : List NlAddr}
    {b b' : Batches} {p : NlAddr} {e : EntryChange} (h : BatchesHold old new ns ds b)
    (he : IsEntryDiff text old new p e) (hold : old p = none) (hp : p ∉ ns)
    (hrun : e.toChanges.foldlM (staticRoutesStep env) b = .ok b') :
    BatchesHold old new (ns ++ [p]) ds b' := by
  have hkind : e.kind = .whole .new := by rw [he.kind, hold]; rfl
  obtain ⟨addr, ha, hl⟩ := collect_whole hkind hrun
  obtain rfl : addr = p := hparse p addr (he.dest ▸ ha)
  rw [leaves_eq (b := b.openRoute .new addr) rfl] at hl
  obtain ⟨f, hf, hb'⟩ := Exit.bind_eq_ok.mp hl
  obtain rfl := Exit.ok.inj hb'
  obtain ⟨c, hc⟩ : ∃ c, new addr = some c :=
    Option.ne_none_iff_exists'.mp (he.present.resolve_left fun h => h hold)
  have hmem : ∀ l, l ∈ e.leaves ↔ l ∈ leafDiffs text none (some c) := fun l => by
    rw [he.leaves.mem_iff, hold, hc]
  obtain ⟨g, hg, hcase⟩ := hasGateway_writeAll hf (⟨rfl, rfl⟩ : HasGateway none {})
  refine ⟨h.new.open hp ⟨g, hg, fun _ => ?_⟩, h.delete⟩
  rw [hc, Option.bind_some]
  rcases hcase with ⟨hno, rfl⟩ | ⟨l, hl, hset, hval, hsome⟩
  · cases hgw : c.nextHopAddress with
    | none => rfl
    | some gw =>
        obtain ⟨l, hl, hset⟩ : ∃ l ∈ leafDiffs text none (some c), l.SetsGateway :=
          exists_gateway_of_created hgw
        exact absurd hset (hno l ((hmem l).mpr hl))
  · obtain ⟨gw, hgw, hlval⟩ := gateway_of_created ((hmem l).mp hl) hset
    obtain ⟨g', rfl⟩ := Option.ne_none_iff_exists'.mp hsome
    rw [hgw, hparse gw g' (hlval ▸ hval)]

/-- An entry that vanishes opens a route to delete. -/
theorem BatchesHold.vanish {env : RoutingEnv}
    (hparse : ∀ a b, env.nlAddrParse (text a) = some b → b = a) {ns ds : List NlAddr}
    {b b' : Batches} {p : NlAddr} {e : EntryChange} (h : BatchesHold old new ns ds b)
    (he : IsEntryDiff text old new p e) (hold : old p ≠ none) (hnew : new p = none) (hp : p ∉ ds)
    (hrun : e.toChanges.foldlM (staticRoutesStep env) b = .ok b') :
    BatchesHold old new ns (ds ++ [p]) b' := by
  obtain ⟨c, hc⟩ := Option.ne_none_iff_exists'.mp hold
  have hkind : e.kind = .whole .delete := by rw [he.kind, hc, hnew]; rfl
  obtain ⟨addr, ha, hl⟩ := collect_whole hkind hrun
  obtain rfl : addr = p := hparse p addr (he.dest ▸ ha)
  rw [leaves_eq (b := b.openRoute .delete addr) rfl] at hl
  obtain ⟨f, hf, hb'⟩ := Exit.bind_eq_ok.mp hl
  obtain rfl := Exit.ok.inj hb'
  obtain ⟨g, hg, -⟩ := hasGateway_writeAll hf (⟨rfl, rfl⟩ : HasGateway none {})
  exact ⟨h.new, h.delete.open hp ⟨g, hg, trivial⟩⟩

/-- An entry that stays opens nothing; if its gateway changes, some route of
the batches may end up with it. -/
theorem BatchesHold.keep {env : RoutingEnv} {ns ds : List NlAddr} {b b' : Batches} {p : NlAddr}
    {e : EntryChange} (h : BatchesHold old new ns ds b) (he : IsEntryDiff text old new p e)
    (hold : old p ≠ none) (hnew : new p ≠ none)
    (hrun : e.toChanges.foldlM (staticRoutesStep env) b = .ok b') :
    BatchesHold old new ns ds b' := by
  obtain ⟨c, hc⟩ := Option.ne_none_iff_exists'.mp hold
  obtain ⟨c', hc'⟩ := Option.ne_none_iff_exists'.mp hnew
  have hkind : e.kind = .kept := by rw [he.kind, hc, hc']; rfl
  rw [EntryChange.toChanges, hkind] at hrun
  cases hb : b.routesHead with
  | none =>
      have hno : ∀ l ∈ e.leaves, ¬ l.Recorded := fun l hl hr => by
        have := (exists_leaves_iff.mp ⟨b', hrun⟩).1 ⟨l, hl, hr⟩
        simp [hb] at this
      exact leaves_of_not_recorded hno hrun ▸ h
  | some head =>
      obtain ⟨batch, addr⟩ := head
      rw [leaves_eq hb] at hrun
      obtain ⟨f, hf, hb'⟩ := Exit.bind_eq_ok.mp hrun
      obtain rfl := Exit.ok.inj hb'
      cases batch with
      | new =>
          refine ⟨h.new.adjust (fun q g route hg hq => ?_) addr, h.delete⟩
          obtain ⟨g', hg', hcase⟩ := hasGateway_writeAll hf hg
          refine ⟨g', hg', fun hkept => ?_⟩
          rcases hcase with ⟨-, rfl⟩ | ⟨l, hl, hset, -⟩
          · exact hq hkept
          · rw [he.leaves.mem_iff, hc, hc'] at hl
            exact absurd hset (not_setsGateway_of_kept (hkept p c c' hc hc') hl)
      | delete =>
          refine ⟨h.new, h.delete.adjust (fun q g route hg _ => ?_) addr⟩
          obtain ⟨g', hg', -⟩ := hasGateway_writeAll hf hg
          exact ⟨g', hg', trivial⟩

/-- The batches a change stream leads to. -/
theorem BatchesHold.collect {env : RoutingEnv}
    (hparse : ∀ a b, env.nlAddrParse (text a) = some b → b = a) {ps : List NlAddr}
    {es : List EntryChange} (hes : List.Forall₂ (IsEntryDiff text old new) ps es)
    {ns ds : List NlAddr} {b b' : Batches} (h : BatchesHold old new ns ds b)
    (hns : (ns ++ appeared old ps).Nodup) (hds : (ds ++ vanished new ps).Nodup)
    (hrun : (toStream es).foldlM (staticRoutesStep env) b = .ok b') :
    BatchesHold old new (ns ++ appeared old ps) (ds ++ vanished new ps) b' := by
  induction hes generalizing ns ds b with
  | nil =>
      obtain rfl := Exit.ok.inj hrun
      simpa [appeared, vanished] using h
  | @cons p e ps es he hes ih =>
      rw [toStream_cons, List.foldlM_append] at hrun
      obtain ⟨b₁, h₁, h₂⟩ := Exit.bind_eq_ok.mp hrun
      cases hold : old p with
      | none =>
          have hnew : new p ≠ none := he.present.resolve_left fun h => h hold
          have happ : appeared old (p :: ps) = p :: appeared old ps := by simp [appeared, hold]
          have hvan : vanished new (p :: ps) = vanished new ps := by simp [vanished, hnew]
          rw [happ] at hns ⊢
          rw [hvan] at hds ⊢
          have hp : p ∉ ns := fun hmem =>
            (List.nodup_append.mp hns).2.2 p hmem p List.mem_cons_self rfl
          have hstep := h.appear hparse he hold hp h₁
          rw [← List.singleton_append, ← List.append_assoc] at hns ⊢
          exact ih hstep hns hds h₂
      | some c =>
          have hsome : old p ≠ none := by simp [hold]
          have happ : appeared old (p :: ps) = appeared old ps := by simp [appeared, hold]
          rw [happ] at hns ⊢
          cases hnew : new p with
          | none =>
              have hvan : vanished new (p :: ps) = p :: vanished new ps := by simp [vanished, hnew]
              rw [hvan] at hds ⊢
              have hp : p ∉ ds := fun hmem =>
                (List.nodup_append.mp hds).2.2 p hmem p List.mem_cons_self rfl
              have hstep := h.vanish hparse he hsome hnew hp h₁
              rw [← List.singleton_append, ← List.append_assoc] at hds ⊢
              exact ih hstep hns hds h₂
          | some c' =>
              have hvan : vanished new (p :: ps) = vanished new ps := by simp [vanished, hnew]
              rw [hvan] at hds ⊢
              exact ih (h.keep he hsome (by simp [hnew]) h₁) hns hds h₂

end Stream

/-! ## the routing table -/

/-- The routes the add requests of a batch ask for. -/
def addedRoutes (env : RoutingEnv) (routes : List RouteListHashElement) : List RtnlRoute :=
  routes.flatMap fun e => e.routesHead.map (newRoute env e.pfx)

/-- The routes the delete requests of a batch name. -/
def deletedRoutes (routes : List RouteListHashElement) : List RtnlRoute :=
  routes.flatMap fun e => e.routesHead.map (oldRoute e.pfx)

theorem batchPlan_eq (env : RoutingEnv) (b : Batches) :
    batchPlan env b = (addedRoutes env b.newRoutes).map Request.routeAdd ++
      (deletedRoutes b.deleteRoutes).map Request.routeDelete := by
  simp [batchPlan, addedRoutes, deletedRoutes, List.map_flatMap, Function.comp_def]

theorem isStatic_addedRoutes {env : RoutingEnv} {routes : List RouteListHashElement}
    {r : RtnlRoute} (h : r ∈ addedRoutes env routes) : r.isStatic := by
  obtain ⟨e, -, hr⟩ := List.mem_flatMap.mp h
  obtain ⟨route, -, rfl⟩ := List.mem_map.mp hr
  rfl

section Table

variable {env : RoutingEnv} {stored : RtnlRoute → RtnlRoute} (hkernel : CarriesOut env stored)

include hkernel

/-- The kernel has the routes it was asked to add. -/
theorem CarriesOut.staticRoutes_adds {routes : List RtnlRoute} (h : ∀ r ∈ routes, r.isStatic)
    (table : List RtnlRoute) :
    staticRoutes ((routes.map Request.routeAdd).foldl env.carryOut table) =
      staticRoutes table ++ routes.map stored := by
  induction routes generalizing table with
  | nil => simp
  | cons r routes ih =>
      rw [List.forall_mem_cons] at h
      rw [List.map_cons, List.foldl_cons, ih h.2, hkernel.add table r h.1, List.map_cons,
        List.append_assoc]
      rfl

/-- A delete request takes the main-table static route of its prefix. -/
theorem CarriesOut.staticRoutes_routeDelete (table : List RtnlRoute) {p : NlAddr} {route : Route}
    (hpref : route.preference = 0) :
    staticRoutes (env.carryOut table (.routeDelete (oldRoute p route))) =
      (staticRoutes table).eraseP fun r => r.dst = p :=
  hkernel.delete table (oldRoute p route) rfl hpref

theorem CarriesOut.staticRoutes_deletes {ps : List NlAddr} {routes : List RouteListHashElement}
    (h : Holds (fun _ _ => True) ps routes) (table : List RtnlRoute) :
    staticRoutes (((deletedRoutes routes).map Request.routeDelete).foldl env.carryOut table) =
      eraseKeys RtnlRoute.dst ps (staticRoutes table) := by
  obtain ⟨rfl, hsingle⟩ := h
  induction routes generalizing table with
  | nil => rfl
  | cons e routes ih =>
      obtain ⟨route, g, hroutes, hg, -⟩ := hsingle e List.mem_cons_self
      have hcons : deletedRoutes (e :: routes) = oldRoute e.pfx route :: deletedRoutes routes := by
        simp [deletedRoutes, hroutes]
      rw [hcons, List.map_cons, List.foldl_cons,
        ih _ (fun e he => hsingle e (List.mem_cons_of_mem _ he)),
        hkernel.staticRoutes_routeDelete table hg.preference]
      rfl

theorem CarriesOut.map_dst_stored (routes : List RtnlRoute) :
    (routes.map stored).map RtnlRoute.dst = routes.map RtnlRoute.dst := by
  rw [List.map_map]
  exact List.map_congr_left fun route _ => hkernel.dst route

theorem CarriesOut.lookup_stored (p : NlAddr) (routes : List RtnlRoute) :
    lookup RtnlRoute.dst p (routes.map stored) = (lookup RtnlRoute.dst p routes).map stored := by
  simp only [lookup_map, hkernel.dst]

end Table

theorem dst_addedRoutes {P : NlAddr → Option NlAddr → Prop} {env : RoutingEnv}
    {ps : List NlAddr} {routes : List RouteListHashElement} (h : Holds P ps routes) :
    (addedRoutes env routes).map RtnlRoute.dst = ps := by
  obtain ⟨rfl, hsingle⟩ := h
  induction routes with
  | nil => rfl
  | cons e routes ih =>
      obtain ⟨route, g, hroutes, -⟩ := hsingle e List.mem_cons_self
      rw [addedRoutes, List.flatMap_cons, hroutes, List.map_append, ← addedRoutes,
        ih fun e he => hsingle e (List.mem_cons_of_mem _ he)]
      rfl

/-- The next hops of an added route: its gateway, never an interface. -/
def gatewayNexthops (g : Option NlAddr) : List RtnlNexthop :=
  g.toList.map fun gw => { gateway := some gw }

theorem lookup_addedRoutes {P : NlAddr → Option NlAddr → Prop} (env : RoutingEnv)
    {ps : List NlAddr} {routes : List RouteListHashElement} (h : Holds P ps routes)
    (hnd : ps.Nodup) {p : NlAddr} (hp : p ∈ ps) :
    ∃ r g, lookup RtnlRoute.dst p (addedRoutes env routes) = some r ∧
      r.nexthops = gatewayNexthops g ∧ P p g := by
  obtain ⟨e, he, rfl⟩ := List.mem_map.mp (h.keys.symm ▸ hp)
  obtain ⟨route, g, hroutes, hg, hP⟩ := h.single e he
  have hmem : newRoute env e.pfx route ∈ addedRoutes env routes :=
    List.mem_flatMap.mpr ⟨e, he, by simp [hroutes]⟩
  have hlook : lookup RtnlRoute.dst e.pfx (addedRoutes env routes) = some _ :=
    lookup_of_mem (by rwa [dst_addedRoutes h]) hmem
  refine ⟨_, g, hlook, ?_, hP⟩
  show requestNexthops route.nextHop = _
  rw [hg.nextHop]
  cases g <;> rfl

/-! ## following the datastore -/

/-- What the change does not carry over: a kept prefix whose next hop changes,
and a new prefix with an outgoing interface. -/
def Followed (ifindexOf : String → Nat) (old new : StaticRoutes) : Prop :=
  (∀ p c c', old p = some c → new p = some c' → c.nexthops ifindexOf = c'.nexthops ifindexOf) ∧
    ∀ p c', old p = none → new p = some c' → c'.outgoingInterface = none

theorem gateway_of_nexthops_eq {ifindexOf : String → Nat} {c c' : RouteConfig}
    (h : c.nexthops ifindexOf = c'.nexthops ifindexOf) : c.nextHopAddress = c'.nextHopAddress := by
  rw [RouteConfig.nexthops, RouteConfig.nexthops] at h
  split at h
  · next hc =>
      split at h
      · next hc' => rw [hc.1, hc'.1]
      · cases h
  · split at h
    · cases h
    · simpa using (List.cons.inj h).1 |> RtnlNexthop.mk.inj |>.2

/-- A next hop without an interface is that of an added route. -/
theorem nexthops_eq_gatewayNexthops_iff {ifindexOf : String → Nat} {c : RouteConfig}
    {g : Option NlAddr} :
    gatewayNexthops g = c.nexthops ifindexOf ↔
      c.outgoingInterface = none ∧ g = c.nextHopAddress := by
  obtain ⟨description, outgoingInterface, nextHopAddress⟩ := c
  cases g <;> cases outgoingInterface <;> cases nextHopAddress <;>
    simp [gatewayNexthops, RouteConfig.nexthops]

section Run

variable {env : RoutingEnv} {text : NlAddr → String} {ifindexOf : String → Nat}
  {old new : StaticRoutes} {es : List EntryChange} {xpath : String} {s s' : RoutingState}
  {stored : RtnlRoute → RtnlRoute}

/-- The static routes after a run that returned 0: the old ones and those of
the prefixes that appeared, less those of the prefixes that vanished. -/
theorem staticRoutes_of_run (hkernel : CarriesOut env stored)
    (hparse : ∀ a b, env.nlAddrParse (text a) = some b → b = a)
    {ps : List NlAddr} (hps : ps.Nodup) (hes : List.Forall₂ (IsEntryDiff text old new) ps es)
    (hrun : (applyStaticRoutesChanges env xpath (toStream es)).run s = (.ok 0, s')) :
    ∃ routes, Holds (NewGateway old new) (appeared old ps) routes ∧
      staticRoutes s'.table = eraseKeys RtnlRoute.dst (vanished new ps)
        (staticRoutes s.table ++ (addedRoutes env routes).map stored) := by
  have hreq : (applyStaticRoutesChanges env xpath (toStream es)).require.run s = (.ok (), s') := by
    rw [Prog.run_require, hrun]
    rfl
  obtain ⟨b, hb⟩ := collected_of_apply_ok hreq
  have hholds : BatchesHold old new ([] ++ appeared old ps) ([] ++ vanished new ps) b :=
    BatchesHold.collect hparse hes (b := {}) ⟨⟨rfl, by simp⟩, ⟨rfl, by simp⟩⟩
      (hps.filter _) (hps.filter _) hb
  refine ⟨b.newRoutes, hholds.new, ?_⟩
  have htable := (follows_applyStaticRoutesChanges env xpath (toStream es)).server_eq hreq
  rw [staticRoutesPlan, hb] at htable
  show staticRoutes ((kernel env).server s') = _
  rw [htable]
  show staticRoutes ((batchPlan env b).foldl env.carryOut s.table) = _
  rw [batchPlan_eq, List.foldl_append, hkernel.staticRoutes_deletes hholds.delete,
    hkernel.staticRoutes_adds fun r => isStatic_addedRoutes]
  rfl

theorem lookup_eq_none_of_represents {table : List RtnlRoute} {config : StaticRoutes} {p : NlAddr}
    (hrep : Represents ifindexOf table config) :
    lookup RtnlRoute.dst p (staticRoutes table) = none ↔ config p = none := by
  have h := hrep.nexthops p
  constructor
  · intro hnone
    rw [hnone] at h
    simpa using h.symm
  · intro hnone
    rw [hnone] at h
    simpa using h

/-- The table after a run that returned 0, prefix by prefix. -/
theorem lookup_of_run (hkernel : CarriesOut env stored)
    (hparse : ∀ a b, env.nlAddrParse (text a) = some b → b = a)
    (hdiff : IsDiff text old new es) (hrep : Represents ifindexOf s.table old)
    (hrun : (applyStaticRoutesChanges env xpath (toStream es)).run s = (.ok 0, s')) :
    ((staticRoutes s'.table).map RtnlRoute.dst).Nodup ∧
    ∀ p, (new p = none → lookup RtnlRoute.dst p (staticRoutes s'.table) = none) ∧
      (∀ c c', old p = some c → new p = some c' →
        (lookup RtnlRoute.dst p (staticRoutes s'.table)).map RtnlRoute.nexthops =
          some (c.nexthops ifindexOf)) ∧
      (∀ c', old p = none → new p = some c' → ∃ g, NewGateway old new p g ∧
        (lookup RtnlRoute.dst p (staticRoutes s'.table)).map RtnlRoute.nexthops =
          some (gatewayNexthops g)) := by
  obtain ⟨ps, hps, hcover, hes⟩ := hdiff
  obtain ⟨routes, hroutes, htable⟩ := staticRoutes_of_run hkernel hparse hps hes hrun
  have hkeys : ((staticRoutes s.table ++ (addedRoutes env routes).map stored).map
      RtnlRoute.dst).Nodup := by
    rw [List.map_append, hkernel.map_dst_stored, dst_addedRoutes hroutes]
    refine List.nodup_append.mpr ⟨hrep.unique, hps.filter _, ?_⟩
    rintro p hp q hq rfl
    have hnone : old p = none := by simpa [appeared] using (List.mem_filter.mp hq).2
    exact lookup_eq_none_iff.mp ((lookup_eq_none_of_represents hrep).mpr hnone) hp
  have hlook : ∀ p, lookup RtnlRoute.dst p (staticRoutes s'.table) =
      if p ∈ vanished new ps then none else
        (lookup RtnlRoute.dst p (staticRoutes s.table)).or
          ((lookup RtnlRoute.dst p (addedRoutes env routes)).map stored) := fun p => by
    rw [htable, lookup_eraseKeys _ hkeys, lookup_append, hkernel.lookup_stored]
  refine ⟨htable ▸ nodup_eraseKeys _ hkeys, fun p => ⟨?_, ?_, ?_⟩⟩
  · intro hnew
    rw [hlook]
    split
    · rfl
    · next hvan =>
        -- neither before nor after: the prefix has no entry change
        have hnot : p ∉ ps := fun hp => hvan (List.mem_filter.mpr ⟨hp, by simp [hnew]⟩)
        have hold : old p = none := by
          by_contra hold
          exact hnot (hcover p (hnew ▸ hold))
        rw [(lookup_eq_none_of_represents hrep).mpr hold, Option.none_or, Option.map_eq_none_iff,
          lookup_eq_none_iff, dst_addedRoutes hroutes]
        exact fun hp => hnot (List.mem_filter.mp hp).1
  · intro c c' hold hnew
    have hvan : p ∉ vanished new ps := fun hp => by
      have := (List.mem_filter.mp hp).2
      simp [hnew] at this
    have hrep' := hrep.nexthops p
    rw [hold, Option.map_some] at hrep'
    obtain ⟨r, hr, hnh⟩ := Option.map_eq_some_iff.mp hrep'
    rw [hlook, if_neg hvan, hr, Option.some_or, Option.map_some, hnh]
  · intro c' hold hnew
    have hvan : p ∉ vanished new ps := fun hp => by
      have := (List.mem_filter.mp hp).2
      simp [hnew] at this
    have hp : p ∈ appeared old ps :=
      List.mem_filter.mpr ⟨hcover p (by simp [hold, hnew]), by simp [hold]⟩
    obtain ⟨r, g, hr, hnh, hg⟩ := lookup_addedRoutes env hroutes (hps.filter _) hp
    refine ⟨g, hg, ?_⟩
    rw [hlook, if_neg hvan, (lookup_eq_none_of_represents hrep).mpr hold, Option.none_or, hr,
      Option.map_some, Option.map_some, hkernel.nexthops, hnh]

end Run

/-- A change that returns 0 takes the kernel from the old configuration to the
new one exactly when every prefix that stays keeps its next hop and no new
prefix has an outgoing interface. -/
theorem represents_after_change_iff (env : RoutingEnv) (stored : RtnlRoute → RtnlRoute)
    (hkernel : CarriesOut env stored) (text : NlAddr → String) (ifindexOf : String → Nat)
    (hparse : ∀ a b, env.nlAddrParse (text a) = some b → b = a)
    (old new : StaticRoutes) (es : List EntryChange) (hdiff : IsDiff text old new es)
    (xpath : String) (s s' : RoutingState) (hrep : Represents ifindexOf s.table old)
    (hrun : (applyStaticRoutesChanges env xpath (toStream es)).run s = (.ok 0, s')) :
    Represents ifindexOf s'.table new ↔ Followed ifindexOf old new := by
  obtain ⟨hunique, hlook⟩ := lookup_of_run hkernel hparse hdiff hrep hrun
  constructor
  · intro h
    constructor
    · intro p c c' hold hnew
      have hkept := (hlook p).2.1 c c' hold hnew
      rw [h.nexthops p, hnew] at hkept
      exact (Option.some.inj hkept).symm
    · intro p c' hold hnew
      obtain ⟨g, -, hadded⟩ := (hlook p).2.2 c' hold hnew
      rw [h.nexthops p, hnew] at hadded
      exact (nexthops_eq_gatewayNexthops_iff.mp (Option.some.inj hadded).symm).1
  · rintro ⟨hkept, hadded⟩
    refine ⟨hunique, fun p => ?_⟩
    cases hnew : new p with
    | none => rw [(hlook p).1 hnew]; rfl
    | some c' =>
        cases hold : old p with
        | none =>
            obtain ⟨g, hg, hmap⟩ := (hlook p).2.2 c' hold hnew
            have hgw : g = c'.nextHopAddress := by
              have := hg fun q c c' hc hc' => gateway_of_nexthops_eq (hkept q c c' hc hc')
              rwa [hnew, Option.bind_some] at this
            rw [hmap, Option.map_some,
              nexthops_eq_gatewayNexthops_iff.mpr ⟨hadded p c' hold hnew, hgw⟩]
        | some c =>
            rw [(hlook p).2.1 c c' hold hnew, Option.map_some, hkept p c c' hold hnew]

/-! ## two changes -/

theorem sampleEnv_parse (a b : NlAddr)
    (h : sampleEnv.nlAddrParse (sampleEnv.nlAddr2str a) = some b) : b = a := by
  have hnames : ∀ x ∈ sampleAddrs, ∀ y ∈ sampleAddrs, x.1 = y.1 → x.2 = y.2 := by decide
  have hnone : ∀ x ∈ sampleAddrs, x.1 ≠ "none" := by decide
  obtain ⟨y, hy, rfl⟩ := Option.map_eq_some_iff.mp h
  have hmem := List.mem_of_find?_eq_some hy
  have hname : y.1 = ((sampleAddrs.find? fun x => x.2 = a).map Prod.fst).getD "none" := by
    have hname : y.1 = sampleEnv.nlAddr2str a := by simpa using List.find?_some hy
    exact hname
  cases hx : sampleAddrs.find? fun x => x.2 = a with
  | none =>
      rw [hx] at hname
      exact absurd hname (hnone y hmem)
  | some x =>
      rw [hx] at hname
      have hxa : x.2 = a := by simpa using List.find?_some hx
      exact (hnames y hmem x (List.mem_of_find?_eq_some hx) hname).trans hxa

theorem staticRoutes_append (table routes : List RtnlRoute) :
    staticRoutes (table ++ routes) = staticRoutes table ++ staticRoutes routes :=
  List.filter_append ..

theorem carriesOut_keepAs {env : RoutingEnv} {stored : RtnlRoute → RtnlRoute}
    (h : env.carryOut = keepAs stored)
    (hstored : ∀ route, (stored route).isStatic = route.isStatic ∧
      (stored route).dst = route.dst ∧ (stored route).nexthops = route.nexthops) :
    CarriesOut env stored where
  add table route hstatic := by
    have hkept : (stored route).isStatic = true := by rw [(hstored route).1, hstatic]
    rw [h, keepAs, staticRoutes_append]
    simp [staticRoutes, hkept]
  dst route := (hstored route).2.1
  nexthops route := (hstored route).2.2
  delete table pattern hstatic _ := by
    simp only [RtnlRoute.isStatic, Bool.and_eq_true, decide_eq_true_eq] at hstatic
    rw [h, staticRoutes, staticRoutes, List.eraseP_filter, keepAs]
    congr 2
    funext r
    simp [RtnlRoute.isStatic, hstatic.1, hstatic.2, Bool.and_comm, Bool.and_assoc]

theorem carriesOut_sampleEnv : CarriesOut sampleEnv id :=
  carriesOut_keepAs rfl fun _ => ⟨rfl, rfl, rfl⟩

/-- The configuration with one route. -/
def oneRoute (p : NlAddr) (c : RouteConfig) : StaticRoutes :=
  fun q => if q = p then some c else none

def createdStream : List EntryChange :=
  [.ofWhole .new "10.0.0.0/8" [⟨.nextHopAddress, .created, "192.0.2.1"⟩]
    (operation_of_created .nextHopAddress "192.0.2.1")]

def createdState : RoutingState :=
  ((applyStaticRoutesChanges sampleEnv "/p" (toStream createdStream)).run {}).2

/-- A new route with a gateway reaches the kernel. -/
theorem represents_after_create : Represents (fun _ => 2) createdState.table
    (oneRoute (addr4 0x0a000000 8) { nextHopAddress := some (addr4 0xc0000201 32) }) := by
  refine (represents_after_change_iff sampleEnv id carriesOut_sampleEnv
    sampleEnv.nlAddr2str (fun _ => 2) sampleEnv_parse (fun _ => none) _ createdStream
    ⟨[addr4 0x0a000000 8], by decide, ?_, ?_⟩ "/p" {} createdState ⟨by decide, fun p => rfl⟩
    (Prod.ext (by decide) rfl)).mpr ⟨nofun, ?_⟩
  · intro p hp
    by_contra hne
    rw [List.mem_singleton] at hne
    exact hp (by simp [oneRoute, hne])
  · exact .cons ⟨.inr (by simp [oneRoute]), by decide, rfl, by decide⟩ .nil
  · intro p c' _ hc'
    rw [oneRoute] at hc'
    split at hc'
    · rw [← Option.some.inj hc']
    · cases hc'

def modifiedStream : List EntryChange :=
  [.ofKept "10.0.0.0/8" [⟨.nextHopAddress, .modified, "192.0.2.9"⟩]]

def modifiedState : RoutingState :=
  ((applyStaticRoutesChanges sampleEnv "/p" (toStream modifiedStream)).run createdState).2

/-- A new gateway for an existing route is reported as applied and is not. -/
theorem modified_gateway_not_represented :
    let before := oneRoute (addr4 0x0a000000 8) { nextHopAddress := some (addr4 0xc0000201 32) }
    let after := oneRoute (addr4 0x0a000000 8) { nextHopAddress := some (addr4 0xc0000209 32) }
    IsDiff sampleEnv.nlAddr2str before after modifiedStream ∧
      Represents (fun _ => 2) createdState.table before ∧
      (applyStaticRoutesChanges sampleEnv "/p" (toStream modifiedStream)).run createdState =
        (.ok 0, modifiedState) ∧
      ¬ Represents (fun _ => 2) modifiedState.table after := by
  refine ⟨⟨[addr4 0x0a000000 8], by decide, ?_, ?_⟩, ⟨by decide, ?_⟩, Prod.ext (by decide) rfl, ?_⟩
  · intro p hp
    by_contra hne
    rw [List.mem_singleton] at hne
    exact hp (by simp [oneRoute, hne])
  · exact .cons ⟨.inr (by simp [oneRoute]), by decide, rfl, by decide⟩ .nil
  · intro p
    rw [show staticRoutes createdState.table = [newRoute sampleEnv (addr4 0x0a000000 8)
      { nextHop := gatewayNextHop (some (addr4 0xc0000201 32)) }] by decide, lookup_cons, oneRoute]
    by_cases hp : p = addr4 0x0a000000 8
    · subst hp
      decide
    · rw [if_neg hp, if_neg fun h => hp h.symm]
      rfl
  · intro h
    exact absurd (h.nexthops (addr4 0x0a000000 8)) (by decide)

end SysrepoInterfaces.Routing
