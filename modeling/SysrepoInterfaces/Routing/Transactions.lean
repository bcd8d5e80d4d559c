import SysrepoInterfaces.Routing.Refinement

/-!
# SysrepoInterfaces.Routing.Transactions

Runs of transactions on the routing module.  sysrepo asks the plugin first, with
the event `change`; when the plugin and every other subscriber agree the new
configuration becomes the running one and the event `done` copies it to the
startup datastore, else the running configuration stays and the plugin may get
the event `abort`.  Whether the kernel and the startup datastore keep up depends
on each transaction alone.
-/

namespace SysrepoInterfaces.Routing

open CProg Keyed Requests

section Passes

variable {text : NlAddr → String} {ifindexOf : String → Nat} {old new : StaticRoutes}

/-! ## the two passes of a change -/

/-- The configuration between the passes: the IPv4 routes are the new ones. -/
def halfway (old new : StaticRoutes) : StaticRoutes := fun p =>
  if p.family = AF_INET then new p else old p

theorem halfway_eq (old new : StaticRoutes) (p : NlAddr) :
    p.family = AF_INET ∧ halfway old new p = new p ∨
      p.family ≠ AF_INET ∧ halfway old new p = old p := by
  by_cases hp : p.family = AF_INET
  · exact .inl ⟨hp, if_pos hp⟩
  · exact .inr ⟨hp, if_neg hp⟩

theorem leafDiffs_self (c : Option RouteConfig) : leafDiffs text c c = [] := by
  have hleaf : ∀ leaf (v : Option String), leafDiff leaf v v = none := by
    intro leaf v
    cases v <;> simp [leafDiff]
  rw [leafDiffs, List.filterMap_eq_nil_iff]
  intro leaf _
  exact hleaf leaf _

/-- A change stream is one between any two configurations that look the same
where it changes something, and that do not differ where it changes nothing. -/
theorem IsDiff.congr {old' new' : StaticRoutes} {es : List EntryChange}
    (h : IsDiff text old new es)
    (hsame : ∀ p, old' p = old p ∧ new' p = new p ∨
      old p = new p ∧ old' p = new' p ∧ (old p ≠ none → old' p ≠ none)) :
    IsDiff text old' new' es := by
  obtain ⟨ps, hnodup, hcover, hes⟩ := h
  refine ⟨ps, hnodup, ?_, hes.imp ?_⟩
  · intro p hne
    rcases hsame p with ⟨hold, hnew⟩ | ⟨_, heq, _⟩
    · rw [hold, hnew] at hne
      exact hcover p hne
    · exact absurd heq hne
  · intro p e he
    rcases hsame p with ⟨hold, hnew⟩ | ⟨heq, heq', hsome⟩
    · refine ⟨?_, he.dest, ?_, ?_⟩
      · rw [hold, hnew]
        exact he.present
      · rw [hold, hnew]
        exact he.kind
      · rw [hold, hnew]
        exact he.leaves
    · have hne : old p ≠ none := he.present.elim id fun hnew => heq ▸ hnew
      obtain ⟨c, hc⟩ := Option.ne_none_iff_exists'.mp hne
      obtain ⟨c', hc'⟩ := Option.ne_none_iff_exists'.mp (hsome hne)
      refine ⟨.inl (hsome hne), he.dest, ?_, ?_⟩
      · rw [he.kind, ← heq, ← heq', hc, hc']
        rfl
      · have hleaves := he.leaves
        rw [← heq, leafDiffs_self] at hleaves
        rw [← heq', leafDiffs_self]
        exact hleaves

/-- What the kernel has under a prefix after a change: nothing when the prefix
is gone, the old next hop when it stayed, and a gateway when it is new. -/
structure ShowsPrefix (ifindexOf : String → Nat) (old new : StaticRoutes) (table : List RtnlRoute)
    (p : NlAddr) : Prop where
  gone : new p = none → lookup RtnlRoute.dst p (staticRoutes table) = none
  kept : ∀ c c', old p = some c → new p = some c' →
    (lookup RtnlRoute.dst p (staticRoutes table)).map RtnlRoute.nexthops =
      some (c.nexthops ifindexOf)
  added : ∀ c', old p = none → new p = some c' → ∃ g, NewGateway old new p g ∧
    (lookup RtnlRoute.dst p (staticRoutes table)).map RtnlRoute.nexthops =
      some (gatewayNexthops g)

theorem nexthops_gateway (ifindexOf : String → Nat) (g : Option NlAddr) :
    RouteConfig.nexthops ifindexOf { nextHopAddress := g } = gatewayNexthops g :=
  (nexthops_eq_gatewayNexthops_iff.mpr ⟨rfl, rfl⟩).symm

/-- What a table shows is the representation of some configuration. -/
theorem ShowsPrefix.exists_config {table : List RtnlRoute} {p : NlAddr}
    (h : ShowsPrefix ifindexOf old new table p) :
    ∃ x : Option RouteConfig,
      (lookup RtnlRoute.dst p (staticRoutes table)).map RtnlRoute.nexthops =
        x.map (RouteConfig.nexthops ifindexOf) ∧
      (new p = none → x = none) ∧
      (∀ c c', old p = some c → new p = some c' → x = some c) ∧
      ∀ c', old p = none → new p = some c' → ∃ g, NewGateway old new p g ∧
        x = some { nextHopAddress := g } := by
  cases hnew : new p with
  | none => exact ⟨none, by rw [h.gone hnew]; rfl, fun _ => rfl, nofun, nofun⟩
  | some c' =>
      cases hold : old p with
      | some c =>
          refine ⟨some c, h.kept c c' hold hnew, nofun, ?_, nofun⟩
          exact fun _ _ hc _ => hc
      | none =>
          obtain ⟨g, hg, hmap⟩ := h.added c' hold hnew
          refine ⟨some { nextHopAddress := g }, ?_, nofun, nofun, fun _ _ _ => ⟨g, hg, rfl⟩⟩
          rw [hmap, Option.map_some, nexthops_gateway]

theorem GatewaysKept.halfway (h : GatewaysKept old new) : GatewaysKept old (halfway old new) := by
  intro p c c' hold hmid
  rcases halfway_eq old new p with ⟨_, heq⟩ | ⟨_, heq⟩
  · exact h p c c' hold (heq ▸ hmid)
  · rw [heq, hold] at hmid
    rw [Option.some.inj hmid]

variable {env : RoutingEnv} {stored : RtnlRoute → RtnlRoute} {es es' : List EntryChange}
  {xpath xpath' : String} {s s₁ s' : RoutingState}

/-- The table after both passes returned 0, prefix by prefix. -/
theorem shows_of_passes (hkernel : CarriesOut env stored)
    (hparse : ∀ a b, env.nlAddrParse (text a) = some b → b = a)
    (hdiff : IsDiff text old (halfway old new) es) (hdiff' : IsDiff text (halfway old new) new es')
    (hrep : Represents ifindexOf s.table old)
    (hrun : (applyStaticRoutesChanges env xpath (toStream es)).run s = (.ok 0, s₁))
    (hrun' : (applyStaticRoutesChanges env xpath' (toStream es')).run s₁ = (.ok 0, s')) :
    ((staticRoutes s'.table).map RtnlRoute.dst).Nodup ∧
      ∀ p, ShowsPrefix ifindexOf old new s'.table p := by
  obtain ⟨hnodup, hfirst⟩ := lookup_of_run hkernel hparse hdiff hrep hrun
  have hshows : ∀ p, ShowsPrefix ifindexOf old (halfway old new) s₁.table p := fun p =>
    ⟨(hfirst p).1, (hfirst p).2.1, (hfirst p).2.2⟩
  -- what the kernel has after the first pass, as a configuration
  choose has hhas hgone hkept hadded using fun p => (hshows p).exists_config
  have hrep₁ : Represents ifindexOf s₁.table has := ⟨hnodup, hhas⟩
  let goal : StaticRoutes := fun p => if p.family = AF_INET then has p else new p
  have hgoal : ∀ p, p.family = AF_INET ∧ halfway old new p = new p ∧ goal p = has p ∨
      p.family ≠ AF_INET ∧ has p = old p ∧ goal p = new p := by
    intro p
    rcases halfway_eq old new p with ⟨hp, heq⟩ | ⟨hp, heq⟩
    · exact .inl ⟨hp, heq, if_pos hp⟩
    · refine .inr ⟨hp, ?_, if_neg hp⟩
      cases hold : old p with
      | none => exact hgone p (heq.trans hold)
      | some c => exact hkept p c c hold (heq.trans hold)
  have hdiff₁ : IsDiff text has goal es' := by
    refine hdiff'.congr fun p => ?_
    rcases hgoal p with ⟨_, hmid, heq⟩ | ⟨hp, hold, heq⟩
    · refine .inr ⟨hmid, heq.symm, fun hne hnone => ?_⟩
      obtain ⟨c', hc'⟩ := Option.ne_none_iff_exists'.mp hne
      cases hold : old p with
      | none =>
          obtain ⟨g, _, hg⟩ := hadded p c' hold hc'
          rw [hg] at hnone
          cases hnone
      | some c =>
          rw [hkept p c c' hold hc'] at hnone
          cases hnone
    · exact .inl ⟨hold.trans (if_neg hp).symm, heq⟩
  obtain ⟨hnodup', hsecond⟩ := lookup_of_run hkernel hparse hdiff₁ hrep₁ hrun'
  refine ⟨hnodup', fun p => ⟨?_, ?_, ?_⟩⟩
  · intro hnone
    refine (hsecond p).1 ?_
    rcases hgoal p with ⟨_, hmid, heq⟩ | ⟨_, _, heq⟩
    · exact heq.trans (hgone p (hmid.trans hnone))
    · exact heq.trans hnone
  · intro c c' hold hnew
    rcases hgoal p with ⟨_, hmid, heq⟩ | ⟨_, hhasold, heq⟩
    · have hc : has p = some c := hkept p c c' hold (hmid.trans hnew)
      exact (hsecond p).2.1 c c hc (heq.trans hc)
    · exact (hsecond p).2.1 c c' (hhasold.trans hold) (heq.trans hnew)
  · intro c' hold hnew
    rcases hgoal p with ⟨_, hmid, heq⟩ | ⟨_, hhasold, heq⟩
    · obtain ⟨g, hg, hc⟩ := hadded p c' hold (hmid.trans hnew)
      refine ⟨g, fun hkeeps => by rw [hg hkeeps.halfway, hmid], ?_⟩
      rw [(hsecond p).2.1 _ _ hc (heq.trans hc), nexthops_gateway]
    · obtain ⟨g, hg, hmap⟩ := (hsecond p).2.2 c' (hhasold.trans hold) (heq.trans hnew)
      refine ⟨g, fun hkeeps => ?_, hmap⟩
      rw [← heq]
      refine hg fun q c c'' hq hq' => ?_
      rcases hgoal q with ⟨_, _, heq'⟩ | ⟨_, hold', heq'⟩
      · rw [heq', hq] at hq'
        rw [Option.some.inj hq']
      · exact hkeeps q c c'' (hold' ▸ hq) (heq' ▸ hq')

/-- The new configuration is represented when every prefix that stayed keeps its
next hop and no new one has an outgoing interface. -/
theorem represents_new_iff {table : List RtnlRoute}
    (hnodup : ((staticRoutes table).map RtnlRoute.dst).Nodup)
    (h : ∀ p, ShowsPrefix ifindexOf old new table p) :
    Represents ifindexOf table new ↔ Followed ifindexOf old new := by
  constructor
  · intro hrep
    refine ⟨fun p c c' hold hnew => ?_, fun p c' hold hnew => ?_⟩
    · have hkept := (h p).kept c c' hold hnew
      rw [hrep.nexthops p, hnew] at hkept
      exact (Option.some.inj hkept).symm
    · obtain ⟨g, -, hadded⟩ := (h p).added c' hold hnew
      rw [hrep.nexthops p, hnew] at hadded
      exact (nexthops_eq_gatewayNexthops_iff.mp (Option.some.inj hadded).symm).1
  · rintro ⟨hkept, hadded⟩
    have hgateways : GatewaysKept old new := fun q c c' hc hc' =>
      gateway_of_nexthops_eq (hkept q c c' hc hc')
    refine ⟨hnodup, fun p => ?_⟩
    cases hnew : new p with
    | none => rw [(h p).gone hnew]; rfl
    | some c' =>
        cases hold : old p with
        | some c =>
            rw [(h p).kept c c' hold hnew, Option.map_some, hkept p c c' hold hnew]
        | none =>
            obtain ⟨g, hg, hmap⟩ := (h p).added c' hold hnew
            have hgw : g = c'.nextHopAddress := by rw [hg hgateways, hnew, Option.bind_some]
            rw [hmap, Option.map_some,
              nexthops_eq_gatewayNexthops_iff.mpr ⟨hadded p c' hold hnew, hgw⟩]

/-- The old configuration is still represented when no prefix came or went. -/
theorem represents_old_iff {table : List RtnlRoute}
    (hnodup : ((staticRoutes table).map RtnlRoute.dst).Nodup)
    (h : ∀ p, ShowsPrefix ifindexOf old new table p) :
    Represents ifindexOf table old ↔ ∀ p, old p = none ↔ new p = none := by
  constructor
  · intro hrep p
    have hlook := lookup_eq_none_of_represents (p := p) hrep
    constructor
    · intro hold
      by_contra hne
      obtain ⟨c', hnew⟩ := Option.ne_none_iff_exists'.mp hne
      obtain ⟨g, -, hadded⟩ := (h p).added c' hold hnew
      rw [hlook.mpr hold] at hadded
      cases hadded
    · intro hnew
      exact hlook.mp ((h p).gone hnew)
  · intro hsame
    refine ⟨hnodup, fun p => ?_⟩
    cases hold : old p with
    | none => rw [(h p).gone ((hsame p).mp hold)]; rfl
    | some c =>
        have hne : new p ≠ none := fun hnew => by
          rw [(hsame p).mpr hnew] at hold
          cases hold
        obtain ⟨c', hnew⟩ := Option.ne_none_iff_exists'.mp hne
        exact (h p).kept c c' hold hnew

end Passes

/-! ## a change that is refused -/

/-- The static routes to a prefix, counted. -/
def routesTo (table : List RtnlRoute) (p : NlAddr) : Nat :=
  ((staticRoutes table).map RtnlRoute.dst).count p

theorem routesTo_of_represents {ifindexOf : String → Nat} {table : List RtnlRoute}
    {config : StaticRoutes} (h : Represents ifindexOf table config) (p : NlAddr) :
    routesTo table p = if config p = none then 0 else 1 := by
  have hnone := lookup_eq_none_of_represents (p := p) h
  rw [lookup_eq_none_iff] at hnone
  rw [routesTo, h.unique.count]
  by_cases hp : config p = none
  · rw [if_pos hp, if_neg (hnone.mpr hp)]
  · rw [if_neg hp, if_pos (by_contra fun hmem => hp (hnone.mp hmem))]

/-- A request of the plan of a change: it adds a static route to a prefix that
is new, or deletes the one to a prefix that is gone. -/
def PlanStep (old new : StaticRoutes) : Request → Prop
  | .routeAdd route => route.isStatic ∧ old route.dst = none ∧ new route.dst ≠ none
  | .routeDelete pattern => ∃ p route, pattern = oldRoute p route ∧ route.preference = 0 ∧
      old p ≠ none ∧ new p = none

section Requests

variable {env : RoutingEnv} {stored : RtnlRoute → RtnlRoute} (hkernel : CarriesOut env stored)

include hkernel

theorem CarriesOut.routesTo_routeAdd {route : RtnlRoute} (h : route.isStatic)
    (table : List RtnlRoute) (p : NlAddr) :
    routesTo (env.carryOut table (.routeAdd route)) p =
      routesTo table p + if route.dst = p then 1 else 0 := by
  rw [routesTo, hkernel.add table route h, List.map_append, List.count_append, List.map_singleton,
    List.count_singleton, hkernel.dst, routesTo]
  simp [beq_iff_eq]

theorem CarriesOut.routesTo_routeDelete {route : Route} (hpref : route.preference = 0) (q : NlAddr)
    (table : List RtnlRoute) (p : NlAddr) :
    routesTo (env.carryOut table (.routeDelete (oldRoute q route))) p =
      routesTo table p - if q = p then 1 else 0 := by
  have herase : ∀ rs : List RtnlRoute, ((rs.eraseP fun r => r.dst = q).map RtnlRoute.dst) =
      (rs.map RtnlRoute.dst).erase q := by
    intro rs
    induction rs with
    | nil => rfl
    | cons r rs ih =>
        by_cases hr : r.dst = q
        · simp [hr]
        · simp [hr, ih]
  rw [routesTo, hkernel.staticRoutes_routeDelete table hpref, herase, List.count_erase, routesTo]
  simp [beq_iff_eq]

end Requests

section Refused

variable {env : RoutingEnv} {stored : RtnlRoute → RtnlRoute} {ifindexOf : String → Nat}
  {old new : StaticRoutes} {p : NlAddr}

/-- A request of the plan does not take a prefix that was not there, and does
not add one that was. -/
theorem routesTo_planStep (hkernel : CarriesOut env stored) {r : Request} (h : PlanStep old new r)
    (table : List RtnlRoute) :
    (old p = none → routesTo table p ≤ routesTo (env.carryOut table r) p) ∧
      (old p ≠ none → routesTo (env.carryOut table r) p ≤ routesTo table p) := by
  cases r with
  | routeAdd route =>
      obtain ⟨hstatic, hold, _⟩ := h
      rw [hkernel.routesTo_routeAdd hstatic]
      refine ⟨fun _ => Nat.le_add_right _ _, fun hp => ?_⟩
      have hne : route.dst ≠ p := fun heq => hp (heq ▸ hold)
      rw [if_neg hne]
      exact le_rfl
  | routeDelete pattern =>
      obtain ⟨q, route, rfl, hpref, hold, _⟩ := h
      rw [hkernel.routesTo_routeDelete hpref]
      refine ⟨fun hp => ?_, fun _ => Nat.sub_le _ _⟩
      have hne : q ≠ p := fun heq => hold (heq ▸ hp)
      rw [if_neg hne]
      exact le_rfl

theorem routesTo_plan (hkernel : CarriesOut env stored) {rs : List Request}
    (h : ∀ r ∈ rs, PlanStep old new r) (table : List RtnlRoute) :
    (old p = none → routesTo table p ≤ routesTo (rs.foldl env.carryOut table) p) ∧
      (old p ≠ none → routesTo (rs.foldl env.carryOut table) p ≤ routesTo table p) := by
  induction rs generalizing table with
  | nil => exact ⟨fun _ => le_rfl, fun _ => le_rfl⟩
  | cons r rs ih =>
      have hstep := routesTo_planStep (p := p) hkernel (h r List.mem_cons_self) table
      have hrest := ih (fun r hr => h r (List.mem_cons_of_mem _ hr)) (env.carryOut table r)
      exact ⟨fun hp => (hstep.1 hp).trans (hrest.1 hp), fun hp => (hrest.2 hp).trans (hstep.2 hp)⟩

/-- A part of the plan that is carried out leaves the old configuration
represented only when it is empty. -/
theorem represents_of_requests_iff (hkernel : CarriesOut env stored) {table : List RtnlRoute}
    (hrep : Represents ifindexOf table old) {rs : List Request}
    (h : ∀ r ∈ rs, PlanStep old new r) :
    Represents ifindexOf (rs.foldl env.carryOut table) old ↔ rs = [] := by
  constructor
  · intro hrep'
    cases rs with
    | nil => rfl
    | cons r rs =>
        have hrest : ∀ r ∈ rs, PlanStep old new r := fun r hr => h r (List.mem_cons_of_mem _ hr)
        rw [List.foldl_cons] at hrep'
        have hfirst := h r List.mem_cons_self
        cases r with
        | routeAdd route =>
            obtain ⟨hstatic, hold, _⟩ := hfirst
            have hle := (routesTo_plan hkernel hrest (env.carryOut table (.routeAdd route))).1 hold
            rw [routesTo_of_represents hrep', if_pos hold, hkernel.routesTo_routeAdd hstatic,
              if_pos rfl] at hle
            omega
        | routeDelete pattern =>
            obtain ⟨q, route, rfl, hpref, hold, _⟩ := hfirst
            have hle := (routesTo_plan hkernel hrest
              (env.carryOut table (.routeDelete (oldRoute q route)))).2 hold
            rw [routesTo_of_represents hrep', if_neg hold, hkernel.routesTo_routeDelete hpref,
              routesTo_of_represents hrep, if_neg hold, if_pos rfl] at hle
            omega
  · rintro rfl
    exact hrep

variable {env : RoutingEnv} {text : NlAddr → String} {es es' : List EntryChange}

theorem planStep_staticRoutesPlan (hparse : ∀ a b, env.nlAddrParse (text a) = some b → b = a)
    (hdiff : IsDiff text old new es) :
    ∀ r ∈ staticRoutesPlan env (toStream es), PlanStep old new r := by
  obtain ⟨ps, hps, _, hes⟩ := hdiff
  have hpresent : ∀ p ∈ ps, old p ≠ none ∨ new p ≠ none := by
    intro p hp
    obtain ⟨e, _, he⟩ := exists_of_forall₂_left hes hp
    exact he.present
  rw [staticRoutesPlan]
  cases hb : collectStaticRoutes env (toStream es) with
  | error => exact fun _ h => absurd h List.not_mem_nil
  | crash => exact fun _ h => absurd h List.not_mem_nil
  | ok b =>
      have hholds : BatchesHold old new ([] ++ appeared old ps) ([] ++ vanished new ps) b :=
        BatchesHold.collect hparse hes (b := {}) ⟨⟨rfl, by simp⟩, ⟨rfl, by simp⟩⟩
          (hps.filter _) (hps.filter _) hb
      rw [List.nil_append, List.nil_append] at hholds
      intro r hr
      replace hr : r ∈ batchPlan env b := hr
      rw [batchPlan_eq] at hr
      rcases List.mem_append.mp hr with hr | hr
      · obtain ⟨route, hroute, rfl⟩ := List.mem_map.mp hr
        have hdst : route.dst ∈ appeared old ps := by
          rw [← dst_addedRoutes hholds.new]
          exact List.mem_map_of_mem hroute
        obtain ⟨hmem, hnone⟩ := List.mem_filter.mp hdst
        have hold : old route.dst = none := by simpa using hnone
        exact ⟨isStatic_addedRoutes hroute, hold,
          (hpresent route.dst hmem).resolve_left fun h => h hold⟩
      · obtain ⟨pattern, hpattern, rfl⟩ := List.mem_map.mp hr
        obtain ⟨e, he, hmap⟩ := List.mem_flatMap.mp hpattern
        obtain ⟨route, hroute, rfl⟩ := List.mem_map.mp hmap
        obtain ⟨route', g, hroutes, hg, _⟩ := hholds.delete.single e he
        obtain rfl : route = route' := by simpa [hroutes] using hroute
        have hpfx : e.pfx ∈ vanished new ps := by
          rw [← hholds.delete.keys]
          exact List.mem_map_of_mem he
        obtain ⟨hmem, hnone⟩ := List.mem_filter.mp hpfx
        have hnew : new e.pfx = none := by simpa using hnone
        exact ⟨e.pfx, route, rfl, hg.preference,
          (hpresent e.pfx hmem).resolve_right fun h => h hnew, hnew⟩

/-- A request of one of the passes is one of the whole change. -/
theorem planStep_of_pass {r : Request}
    (h : PlanStep old (halfway old new) r ∨ PlanStep (halfway old new) new r) :
    PlanStep old new r := by
  have hfirst : ∀ p, old p = none → halfway old new p ≠ none → new p ≠ none := by
    intro p hold hmid
    rcases halfway_eq old new p with ⟨_, heq⟩ | ⟨_, heq⟩
    · exact heq ▸ hmid
    · exact absurd (heq.trans hold) hmid
  have hgone : ∀ p, old p ≠ none → halfway old new p = none → new p = none := by
    intro p hold hmid
    rcases halfway_eq old new p with ⟨_, heq⟩ | ⟨_, heq⟩
    · exact heq ▸ hmid
    · exact absurd (heq ▸ hmid) hold
  have hsecond : ∀ p, (halfway old new p = none ↔ new p ≠ none) →
      halfway old new p = old p := by
    intro p hne
    rcases halfway_eq old new p with ⟨_, heq⟩ | ⟨_, heq⟩
    · rw [heq] at hne
      exact absurd hne (by tauto)
    · exact heq
  cases r with
  | routeAdd route =>
      rcases h with ⟨hstatic, hold, hmid⟩ | ⟨hstatic, hmid, hnew⟩
      · exact ⟨hstatic, hold, hfirst _ hold hmid⟩
      · have heq := hsecond route.dst ⟨fun _ => hnew, fun _ => hmid⟩
        exact ⟨hstatic, heq ▸ hmid, hnew⟩
  | routeDelete pattern =>
      rcases h with ⟨p, route, rfl, hpref, hold, hmid⟩ | ⟨p, route, rfl, hpref, hmid, hnew⟩
      · exact ⟨p, route, rfl, hpref, hold, hgone p hold hmid⟩
      · have heq := hsecond p ⟨fun h => absurd h hmid, fun h => absurd hnew h⟩
        exact ⟨p, route, rfl, hpref, heq ▸ hmid, hnew⟩

end Refused

/-! ## transactions -/

/-- A transaction on the routing module: the configuration it asks for, the
changes the session delivers for each address family, and whether the other
subscribers agree. -/
structure Transaction where
  env : RoutingEnv
  new : StaticRoutes
  ipv4 : List EntryChange
  ipv6 : List EntryChange
  agreed : Bool

/-- How a transaction ends; a committed one may not reach the startup
datastore. -/
inductive Outcome where
  | refused
  | committed (copied : Bool)
  | aborted
deriving DecidableEq, Repr

/-- The datastores and the kernel. -/
structure RoutingSystem where
  running : StaticRoutes
  startup : StaticRoutes
  kernel : RoutingState

def Transaction.changes (t : Transaction) (xpath path : String) : List Change :=
  if path = ipv4Path xpath then toStream t.ipv4 else toStream t.ipv6

def Transaction.callback (t : Transaction) (xpath : String) (event : SrEvent) : RoutingM Int :=
  routingControlPlaneProtocolListChangeCb t.env xpath event (t.changes xpath)

/-- What sysrepo does with a transaction; `none` when the plugin crashes. -/
def Transaction.run (t : Transaction) (xpath : String) (sys : RoutingSystem) :
    Option (Outcome × RoutingSystem) :=
  match (t.callback xpath .change).run sys.kernel with
  | (.ok code, kernel) =>
      if code ≠ SR_ERR_OK then some (.refused, { sys with kernel := kernel })
      else if t.agreed then
        match (t.callback xpath .done).run kernel with
        | (.ok code, kernel) => some (.committed (code = SR_ERR_OK),
            { running := t.new
              startup := if code = SR_ERR_OK then t.new else sys.startup
              kernel := kernel })
        | _ => none
      else
        match (t.callback xpath .abort).run kernel with
        | (.ok _, kernel) => some (.aborted, { sys with kernel := kernel })
        | _ => none
  | _ => none

/-- The changes of a transaction are those from the running configuration, and
the kernel carries out what it accepts. -/
structure Transaction.Delivers (stored : RtnlRoute → RtnlRoute) (text : NlAddr → String)
    (t : Transaction) (old : StaticRoutes) : Prop where
  kernel : CarriesOut t.env stored
  parse : ∀ a b, t.env.nlAddrParse (text a) = some b → b = a
  ipv4 : IsDiff text old (halfway old t.new) t.ipv4
  ipv6 : IsDiff text (halfway old t.new) t.new t.ipv6

/-- The kernel has the routes of the running configuration, and so has the
startup datastore. -/
structure RoutingSystem.InStep (ifindexOf : String → Nat) (sys : RoutingSystem) : Prop where
  kernel : Represents ifindexOf sys.kernel.table sys.running
  startup : sys.startup = sys.running

/-- A transaction with what it was run from and what it led to. -/
structure Round where
  transaction : Transaction
  before : RoutingSystem
  outcome : Outcome
  after : RoutingSystem

/-- When a transaction does no harm: refused, when nothing of it was carried
out; committed, when its routes can be followed and it was copied or changed
nothing; aborted, when no prefix came or went. -/
def Round.Harmless (ifindexOf : String → Nat) (r : Round) : Prop :=
  match r.outcome with
  | .refused => accepted (r.after.kernel.sent.drop r.before.kernel.sent.length) = []
  | .committed copied => Followed ifindexOf r.before.running r.transaction.new ∧
      (copied = true ∨ r.transaction.new = r.before.running)
  | .aborted => ∀ p, r.before.running p = none ↔ r.transaction.new p = none

theorem changes_ipv6 (t : Transaction) (xpath : String) :
    t.changes xpath (ipv6Path xpath) = toStream t.ipv6 := by
  refine if_neg fun h => ?_
  have hlist := congrArg String.toList h
  simp [ipv6Path, ipv4Path, String.toList_append] at hlist

/-- A change event that returns `SR_ERR_OK` has gone through both passes. -/
theorem passes_of_accepted {t : Transaction} {xpath : String} {s s' : RoutingState}
    (h : (t.callback xpath .change).run s = (.ok SR_ERR_OK, s')) :
    ∃ s₁, (applyStaticRoutesChanges t.env (ipv4Path xpath) (toStream t.ipv4)).run s = (.ok 0, s₁) ∧
      (applyStaticRoutesChanges t.env (ipv6Path xpath) (toStream t.ipv6)).run s₁ = (.ok 0, s') := by
  obtain ⟨error, s₂, hrun, hret⟩ := Prog.bind_eq_ok h
  have hs : s₂ = s' := (Prod.mk.inj hret).2
  by_cases he : error = 0
  · subst he hs
    obtain ⟨_, s₁, hipv4, hipv6⟩ := Prog.bind_eq_ok ((Prog.exitCode_eq_zero (by decide)).mp hrun)
    rw [Prog.require_eq_ok] at hipv4 hipv6
    rw [changes_ipv6] at hipv6
    rw [Transaction.changes, if_pos rfl] at hipv4
    exact ⟨s₁, hipv4, hipv6⟩
  · have hcode := Exit.ok.inj (Prod.mk.inj hret).1
    rw [if_pos he] at hcode
    exact absurd hcode (by decide)

theorem code_of_change {t : Transaction} {xpath : String} {event : SrEvent} {s s' : RoutingState}
    {code : Int} (h : (t.callback xpath event).run s = (.ok code, s')) (hne : code ≠ SR_ERR_OK) :
    code = SR_ERR_CALLBACK_FAILED := by
  obtain ⟨error, s₂, -, hret⟩ := Prog.bind_eq_ok h
  have hcode := Exit.ok.inj (Prod.mk.inj hret).1
  by_cases he : error = 0
  · rw [if_neg (not_not.mpr he)] at hcode
    exact absurd hcode.symm hne
  · rw [if_pos he] at hcode
    exact hcode.symm

/-- The event `done` leaves the kernel alone. -/
theorem table_of_done {t : Transaction} {xpath : String} {s s' : RoutingState} {code : Int}
    (h : (t.callback xpath .done).run s = (.ok code, s')) : s'.table = s.table := by
  obtain ⟨error, s₂, hrun, hret⟩ := Prog.bind_eq_ok h
  have hs : s₂ = s' := (Prod.mk.inj hret).2
  have hquiet : (kernel t.env).Quiet (Prog.exitCode (-1) (checked t.env .srCopyConfig)) :=
    Prog.within_exitCode (-1) (quiet_checked t.env .srCopyConfig)
  have hunchanged := hquiet s
  rw [hrun] at hunchanged
  exact hs ▸ hunchanged.2

/-- The three ways a transaction ends. -/
theorem Transaction.run_cases {t : Transaction} {xpath : String} {sys sys' : RoutingSystem}
    {outcome : Outcome} (h : t.run xpath sys = some (outcome, sys')) :
    (∃ kernel, (t.callback xpath .change).run sys.kernel = (.ok SR_ERR_CALLBACK_FAILED, kernel) ∧
      outcome = .refused ∧ sys' = { sys with kernel := kernel }) ∨
    ∃ kernel, (t.callback xpath .change).run sys.kernel = (.ok SR_ERR_OK, kernel) ∧
      ((∃ code kernel', (t.callback xpath .done).run kernel = (.ok code, kernel') ∧
        outcome = .committed (code = SR_ERR_OK) ∧
        sys' = ⟨t.new, if code = SR_ERR_OK then t.new else sys.startup, kernel'⟩) ∨
      outcome = .aborted ∧ sys' = { sys with kernel := kernel }) := by
  rw [Transaction.run] at h
  cases hchange : (t.callback xpath .change).run sys.kernel with
  | mk x kernel =>
      rw [hchange] at h
      cases x with
      | error => cases h
      | crash => cases h
      | ok code =>
          by_cases hcode : code = SR_ERR_OK
          · subst hcode
            refine .inr ⟨kernel, rfl, ?_⟩
            simp only [ne_eq, not_true_eq_false, if_false] at h
            by_cases hagreed : t.agreed = true
            · rw [if_pos hagreed] at h
              cases hdone : (t.callback xpath .done).run kernel with
              | mk x kernel' =>
                  rw [hdone] at h
                  cases x with
                  | error => cases h
                  | crash => cases h
                  | ok code =>
                      cases h
                      exact .inl ⟨code, kernel', rfl, rfl, rfl⟩
            -- the callback does nothing on the event `abort`
            · rw [if_neg hagreed] at h
              cases h
              exact .inr ⟨rfl, rfl⟩
          · simp only [ne_eq, hcode, not_false_eq_true, if_true] at h
            cases h
            refine .inl ⟨kernel, ?_, rfl, rfl⟩
            rw [code_of_change hchange hcode]

section Endings

variable {stored : RtnlRoute → RtnlRoute} {text : NlAddr → String} {ifindexOf : String → Nat}
  {t : Transaction} {xpath : String} {sys : RoutingSystem} {kernel kernel' : RoutingState}

/-- The requests of a change event are steps of the plan. -/
theorem planStep_callbackPlan (hfrom : t.Delivers stored text sys.running) :
    ∀ r ∈ callbackPlan t.env xpath (t.changes xpath), PlanStep sys.running t.new r := by
  intro r hr
  rw [callbackPlan, Transaction.changes, if_pos rfl, changes_ipv6] at hr
  have hfirst := planStep_staticRoutesPlan hfrom.parse hfrom.ipv4
  have hsecond := planStep_staticRoutesPlan hfrom.parse hfrom.ipv6
  rw [staticRoutesPlan] at hfirst
  cases hb : collectStaticRoutes t.env (toStream t.ipv4) with
  | error => rw [hb] at hr; cases hr
  | crash => rw [hb] at hr; cases hr
  | ok b =>
      rw [hb] at hr hfirst
      rcases List.mem_append.mp hr with hr | hr
      · exact planStep_of_pass (.inl (hfirst r hr))
      · exact planStep_of_pass (.inr (hsecond r hr))

theorem inStep_of_refused_iff (hfrom : t.Delivers stored text sys.running)
    (hstart : sys.InStep ifindexOf)
    (hchange : (t.callback xpath .change).run sys.kernel = (.ok SR_ERR_CALLBACK_FAILED, kernel)) :
    RoutingSystem.InStep ifindexOf { sys with kernel := kernel } ↔
      accepted (kernel.sent.drop sys.kernel.sent.length) = [] := by
  obtain ⟨new, ⟨hlog, htable⟩, hcut, -⟩ :=
    (follows_families t.env xpath (t.changes xpath)).cutShort (families_of_callback_failed hchange)
  have haccepted : ∀ r ∈ accepted new, PlanStep sys.running t.new r := by
    intro r hr
    obtain ⟨x, hx, rfl⟩ := List.mem_map.mp hr
    have hmem : x.1 ∈ new.map Prod.fst := List.mem_map_of_mem (List.mem_filter.mp hx).1
    exact planStep_callbackPlan hfrom x.1 (List.IsPrefix.subset hcut hmem)
  have hsent : kernel.sent = sys.kernel.sent ++ new := hlog
  have hrep := represents_of_requests_iff hfrom.kernel hstart.kernel haccepted
  replace htable : kernel.table = (accepted new).foldl t.env.carryOut sys.kernel.table := htable
  rw [← htable] at hrep
  rw [hsent, List.drop_left]
  exact ⟨fun h => hrep.mp h.kernel, fun h => ⟨hrep.mpr h, hstart.startup⟩⟩

theorem inStep_of_committed_iff (hfrom : t.Delivers stored text sys.running)
    (hstart : sys.InStep ifindexOf) {code : Int}
    (hchange : (t.callback xpath .change).run sys.kernel = (.ok SR_ERR_OK, kernel))
    (hdone : (t.callback xpath .done).run kernel = (.ok code, kernel')) :
    RoutingSystem.InStep ifindexOf
        ⟨t.new, if code = SR_ERR_OK then t.new else sys.startup, kernel'⟩ ↔
      Followed ifindexOf sys.running t.new ∧
        (decide (code = SR_ERR_OK) = true ∨ t.new = sys.running) := by
  obtain ⟨s₁, hipv4, hipv6⟩ := passes_of_accepted hchange
  obtain ⟨hnodup, hshows⟩ := shows_of_passes hfrom.kernel hfrom.parse hfrom.ipv4 hfrom.ipv6
    hstart.kernel hipv4 hipv6
  have hnew := represents_new_iff hnodup hshows
  rw [← table_of_done hdone] at hnew
  have hstartup : (if code = SR_ERR_OK then t.new else sys.startup) = t.new ↔
      decide (code = SR_ERR_OK) = true ∨ t.new = sys.running := by
    rw [hstart.startup]
    by_cases hcopied : code = SR_ERR_OK <;> simp [hcopied, eq_comm]
  exact ⟨fun h => ⟨hnew.mp h.kernel, hstartup.mp h.startup⟩,
    fun h => ⟨hnew.mpr h.1, hstartup.mpr h.2⟩⟩

theorem inStep_of_aborted_iff (hfrom : t.Delivers stored text sys.running)
    (hstart : sys.InStep ifindexOf)
    (hchange : (t.callback xpath .change).run sys.kernel = (.ok SR_ERR_OK, kernel)) :
    RoutingSystem.InStep ifindexOf { sys with kernel := kernel } ↔
      ∀ p, sys.running p = none ↔ t.new p = none := by
  obtain ⟨s₁, hipv4, hipv6⟩ := passes_of_accepted hchange
  obtain ⟨hnodup, hshows⟩ := shows_of_passes hfrom.kernel hfrom.parse hfrom.ipv4 hfrom.ipv6
    hstart.kernel hipv4 hipv6
  have hold := represents_old_iff hnodup hshows
  exact ⟨fun h => hold.mp h.kernel, fun h => ⟨hold.mpr h, hstart.startup⟩⟩

/-- One transaction, from a system that is in step. -/
theorem inStep_after_iff {sys' : RoutingSystem} {outcome : Outcome}
    (hrun : t.run xpath sys = some (outcome, sys')) (hfrom : t.Delivers stored text sys.running)
    (hstart : sys.InStep ifindexOf) :
    sys'.InStep ifindexOf ↔ Round.Harmless ifindexOf ⟨t, sys, outcome, sys'⟩ := by
  obtain ⟨kernel, hchange, rfl, rfl⟩ | ⟨kernel, hchange, hend⟩ := Transaction.run_cases hrun
  · exact inStep_of_refused_iff hfrom hstart hchange
  · obtain ⟨code, kernel', hdone, rfl, rfl⟩ | ⟨rfl, rfl⟩ := hend
    · exact inStep_of_committed_iff hfrom hstart hchange hdone
    · exact inStep_of_aborted_iff hfrom hstart hchange

end Endings

/-! ## runs -/

/-- Transactions one after another, each on the configuration that is running
then. -/
inductive Serves (stored : RtnlRoute → RtnlRoute) (text : NlAddr → String) (xpath : String) :
    RoutingSystem → List Round → RoutingSystem → Prop
  | nil (sys : RoutingSystem) : Serves stored text xpath sys [] sys
  | cons {sys sys' last : RoutingSystem} {t : Transaction} {outcome : Outcome} {rounds : List Round}
      (hrun : t.run xpath sys = some (outcome, sys')) (hfrom : t.Delivers stored text sys.running)
      (hrest : Serves stored text xpath sys' rounds last) :
      Serves stored text xpath sys (⟨t, sys, outcome, sys'⟩ :: rounds) last

/-- In every run the kernel and the startup datastore have the running
configuration after each transaction exactly when no transaction did harm. -/
theorem inStep_throughout_iff {stored : RtnlRoute → RtnlRoute} {text : NlAddr → String}
    {ifindexOf : String → Nat} {xpath : String} {sys last : RoutingSystem} {rounds : List Round}
    (h : Serves stored text xpath sys rounds last)
    (hstart : sys.InStep ifindexOf) :
    (∀ r ∈ rounds, r.after.InStep ifindexOf) ↔ ∀ r ∈ rounds, r.Harmless ifindexOf := by
  induction h with
  | nil sys => simp
  | cons hrun hfrom hrest ih =>
      have hstep := inStep_after_iff hrun hfrom hstart
      rw [List.forall_mem_cons, List.forall_mem_cons, ← hstep]
      exact and_congr_right ih

/-! ## a run of two transactions -/

def emptySystem : RoutingSystem where
  running _ := none
  startup _ := none
  kernel := {}

/-- A route is created. -/
def creation : Transaction where
  env := sampleEnv
  new := oneRoute (addr4 0x0a000000 8) { nextHopAddress := some (addr4 0xc0000201 32) }
  ipv4 := createdStream
  ipv6 := []
  agreed := true

/-- Its gateway is to change; another subscriber does not agree. -/
def modification : Transaction where
  env := sampleEnv
  new := oneRoute (addr4 0x0a000000 8) { nextHopAddress := some (addr4 0xc0000209 32) }
  ipv4 := modifiedStream
  ipv6 := []
  agreed := false

theorem isDiff_nil {text : NlAddr → String} {old new : StaticRoutes} (h : ∀ p, old p = new p) :
    IsDiff text old new [] :=
  ⟨[], List.nodup_nil, fun p hne => absurd (h p) hne, .nil⟩

theorem halfway_oneRoute {old : StaticRoutes} {p : NlAddr} {c : RouteConfig}
    (hp : p.family = AF_INET) (hold : ∀ q, q ≠ p → old q = none) :
    halfway old (oneRoute p c) = oneRoute p c := by
  funext q
  rcases halfway_eq old (oneRoute p c) q with ⟨_, heq⟩ | ⟨hq, heq⟩
  · exact heq
  · have hne : q ≠ p := fun h => hq (h ▸ hp)
    rw [heq, hold q hne, oneRoute, if_neg hne]

theorem isDiff_oneRoute {old : StaticRoutes} {p : NlAddr} {c : RouteConfig} {e : EntryChange}
    {text : NlAddr → String} (hold : ∀ q, q ≠ p → old q = none)
    (he : IsEntryDiff text old (oneRoute p c) p e) : IsDiff text old (oneRoute p c) [e] := by
  refine ⟨[p], List.nodup_singleton p, fun q hne => ?_, .cons he .nil⟩
  by_contra hmem
  rw [List.mem_singleton] at hmem
  exact hne (by rw [hold q hmem, oneRoute, if_neg hmem])

/-- The system after the creation. -/
def createdSystem : RoutingSystem where
  running := creation.new
  startup := creation.new
  kernel := ((creation.callback "/p" .done).run
    ((creation.callback "/p" .change).run emptySystem.kernel).2).2

theorem delivers_creation : creation.Delivers id sampleEnv.nlAddr2str emptySystem.running where
  kernel := carriesOut_sampleEnv
  parse := sampleEnv_parse
  ipv4 := by
    rw [show halfway emptySystem.running creation.new = creation.new from
      halfway_oneRoute rfl fun _ _ => rfl]
    refine isDiff_oneRoute (fun _ _ => rfl) ⟨.inr ?_, by decide, rfl, by decide⟩
    simp [oneRoute]
  ipv6 := isDiff_nil fun p => by
    rw [show halfway emptySystem.running creation.new = creation.new from
      halfway_oneRoute rfl fun _ _ => rfl]

theorem delivers_modification :
    modification.Delivers id sampleEnv.nlAddr2str createdSystem.running := by
  have hold : ∀ q, q ≠ addr4 0x0a000000 8 → createdSystem.running q = none :=
    fun q hq => if_neg hq
  have hhalfway : halfway createdSystem.running modification.new = modification.new :=
    halfway_oneRoute rfl hold
  refine ⟨carriesOut_sampleEnv, sampleEnv_parse, ?_, isDiff_nil fun p => by rw [hhalfway]⟩
  rw [hhalfway]
  refine isDiff_oneRoute hold ⟨.inr ?_, by decide, rfl, by decide⟩
  simp [oneRoute]

theorem inStep_throughout_sample :
    ∃ rounds last, Serves id sampleEnv.nlAddr2str "/p" emptySystem rounds last ∧
      rounds.map Round.outcome = [.committed true, .aborted] ∧
      ∀ r ∈ rounds, r.after.InStep fun _ => 2 := by
  have hcreate : creation.run "/p" emptySystem = some (.committed true, createdSystem) := rfl
  obtain ⟨kernel, hmodify⟩ : ∃ kernel, modification.run "/p" createdSystem =
      some (.aborted, { createdSystem with kernel := kernel }) := ⟨_, rfl⟩
  have hserves := Serves.cons hcreate delivers_creation
    (.cons hmodify delivers_modification (.nil _))
  refine ⟨_, _, hserves, rfl, ?_⟩
  refine (inStep_throughout_iff hserves ⟨⟨by decide, fun p => rfl⟩, rfl⟩).mpr ?_
  rintro r hr
  rcases List.mem_cons.mp hr with rfl | hr
  · refine ⟨⟨nofun, fun p c' _ hc' => ?_⟩, .inl rfl⟩
    simp only [creation, oneRoute] at hc'
    split at hc'
    · rw [← Option.some.inj hc']
    · cases hc'
  · rw [List.mem_singleton.mp hr]
    intro p
    show creation.new p = none ↔ modification.new p = none
    simp [creation, modification, oneRoute]

end SysrepoInterfaces.Routing
