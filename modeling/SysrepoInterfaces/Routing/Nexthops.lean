import SysrepoInterfaces.Routing.Common
import SysrepoInterfaces.Routing.RouteHash

/-!
# SysrepoInterfaces.Routing.Nexthops

What becomes of the next hops of a route while it is collected, for every
outcome of the calls on the way.  Each run of `foreach_nexthop` opens a link
cache of its own; a next hop whose run fails is left out of the list, and one
whose link is missing from the cache kills the process.
-/

namespace SysrepoInterfaces.Routing

open CProg

/-! ## numbered runs -/

/-- The elements of a list, each with the number of its first run, when `runs`
tells how many it takes. -/
def numbered {α : Type} (runs : α → Nat) : Nat → List α → List (Nat × α)
  | _, [] => []
  | n, x :: xs => (n, x) :: numbered runs (n + runs x) xs

theorem map_snd_numbered {α : Type} (runs : α → Nat) (n : Nat) (xs : List α) :
    (numbered runs n xs).map Prod.snd = xs := by
  induction xs generalizing n with
  | nil => rfl
  | cons x xs ih => simp [numbered, ih]

/-- What does not look at the numbers is a map over the list. -/
theorem map_numbered {α β : Type} {runs : α → Nat} {g : Nat × α → β} {g' : α → β}
    (h : ∀ n x, g (n, x) = g' x) (n : Nat) (xs : List α) :
    (numbered runs n xs).map g = xs.map g' := by
  conv_rhs => rw [← map_snd_numbered runs n xs, List.map_map]
  exact List.map_congr_left fun p _ => h p.1 p.2

/-! ## the outcome of collecting -/

/-- A run of `p` from `s` when collecting: it comes to its end when `known`,
after `runs` runs of `foreach_nexthop`, of which one failed when `fails`; else
a missing link kills the process. -/
structure Collects {α : Type} (p : RoutingM α) (s : RoutingState) (known : Prop) (runs : Nat)
    (fails : Prop) (Q : α → Prop) : Prop where
  done : known → ∃ a s', p.run s = (.ok a, s') ∧ Q a ∧ s'.calls = s.calls ∧
    s'.freshRuns = s.freshRuns + runs ∧ (s'.failed = true ↔ s.failed = true ∨ fails)
  crash : ¬ known → ∃ s', p.run s = (.crash, s') ∧ s'.failed = true

section Collects

variable {α β : Type} {p : RoutingM α} {s : RoutingState} {known known' fails fails' : Prop}
  {runs runs' : Nat} {Q : α → Prop}

theorem collects_pure {a : α} (ha : Q a) : Collects (pure a) s True 0 False Q where
  done := fun _ => ⟨a, s, rfl, ha, rfl, rfl, by simp⟩
  crash := fun h => absurd trivial h

theorem Collects.bind {f : α → RoutingM β} {Q' : β → Prop} (hp : Collects p s known runs fails Q)
    (hf : ∀ a s', Q a → s'.freshRuns = s.freshRuns + runs →
      Collects (f a) s' known' runs' fails' Q') :
    Collects (p >>= f) s (known ∧ known') (runs + runs') (fails ∨ fails') Q' where
  done := by
    intro ⟨hknown, hknown'⟩
    obtain ⟨a, s₁, hrun, ha, hcalls, hfresh, hfailed⟩ := hp.done hknown
    obtain ⟨b, s₂, hrun', hb, hcalls', hfresh', hfailed'⟩ := (hf a s₁ ha hfresh).done hknown'
    have hsum : s₂.freshRuns = s.freshRuns + (runs + runs') := by omega
    refine ⟨b, s₂, (Prog.run_bind_ok hrun).trans hrun', hb, hcalls'.trans hcalls, hsum, ?_⟩
    rw [hfailed', hfailed, or_assoc]
  crash := by
    intro h
    by_cases hknown : known
    · obtain ⟨a, s₁, hrun, ha, -, hfresh, -⟩ := hp.done hknown
      have hknown' : ¬ known' := fun hknown' => h ⟨hknown, hknown'⟩
      obtain ⟨s₂, hrun', hfailed⟩ := (hf a s₁ ha hfresh).crash hknown'
      exact ⟨s₂, (Prog.run_bind_ok hrun).trans hrun', hfailed⟩
    · obtain ⟨s₁, hrun, hfailed⟩ := hp.crash hknown
      exact ⟨s₁, Prog.run_bind_crash hrun, hfailed⟩

/-- The same run in other words. -/
theorem Collects.imp {Q' : α → Prop} (hp : Collects p s known runs fails Q)
    (hknown : known' ↔ known) (hruns : runs' = runs) (hfails : fails' ↔ fails)
    (hQ : known → ∀ a, Q a → Q' a) : Collects p s known' runs' fails' Q' where
  done := by
    intro h
    obtain ⟨a, s', hrun, ha, hcalls, hfresh, hfailed⟩ := hp.done (hknown.mp h)
    rw [← hruns] at hfresh
    rw [← hfails] at hfailed
    exact ⟨a, s', hrun, hQ (hknown.mp h) a ha, hcalls, hfresh, hfailed⟩
  crash := fun h => hp.crash fun hk => h (hknown.mpr hk)

end Collects

/-! ## a single next hop -/

/-- A next hop with its interface name, as a link cache tells it. -/
def cacheSimple (links : LinkCache) (nh : RtnlNexthop) : RouteNextHopSimple where
  addr := nh.gateway
  ifindex := rtnlRouteNhGetIfindex nh
  ifName := links (rtnlRouteNhGetIfindex nh)

theorem collects_rtnlLinkGetName (cache : LinkCache) (ifindex : Nat) (s : RoutingState) :
    Collects (rtnlLinkGetName cache ifindex) s ((cache ifindex).isSome = true) 0 False
      fun name => cache ifindex = some name := by
  cases hname : cache ifindex with
  | none =>
      refine ⟨fun h => absurd h (by simp), fun _ => ?_⟩
      rw [rtnlLinkGetName, hname]
      refine ⟨_, rfl, ?_⟩
      simp
  | some name =>
      refine ⟨fun _ => ?_, fun h => absurd rfl h⟩
      rw [rtnlLinkGetName, hname]
      exact ⟨name, _, rfl, rfl, rfl, rfl, by simp⟩

theorem collects_simple (linkCache : LinkCache) (nextHop : RouteNextHop) (nh : RtnlNexthop)
    (s : RoutingState) :
    Collects (do
        let ifName ← rtnlLinkGetName linkCache (rtnlRouteNhGetIfindex nh)
        Prog.lift (routeNextHopSetSimple nextHop (rtnlRouteNhGetIfindex nh) (some ifName)
          nh.gateway))
      s ((linkCache (rtnlRouteNhGetIfindex nh)).isSome = true) 0 False
      fun nextHop' => nextHop' = { nextHop with
        kind := .simple, simple := cacheSimple linkCache nh } := by
  have hname := collects_rtnlLinkGetName linkCache (rtnlRouteNhGetIfindex nh) s
  have hset : ∀ name s', linkCache (rtnlRouteNhGetIfindex nh) = some name →
      s'.freshRuns = s.freshRuns + 0 →
      Collects (Prog.lift (routeNextHopSetSimple nextHop (rtnlRouteNhGetIfindex nh) (some name)
        nh.gateway)) s' True 0 False fun nextHop' => nextHop' = { nextHop with
          kind := .simple, simple := cacheSimple linkCache nh } := by
    intro name s' h _
    refine ⟨fun _ => ⟨_, s', rfl, ?_, rfl, rfl, by simp⟩, fun h => absurd trivial h⟩
    rw [cacheSimple, h]
    rfl
  exact (hname.bind hset).imp (by simp) rfl (by simp) fun _ _ h => h

/-! ## lists of next hops -/

/-- Whether the n-th run of `foreach_nexthop` gets its link cache. -/
def freshOk (env : RoutingEnv) (n : Nat) : Bool :=
  env.fresh n .nlSocketAlloc && env.fresh n .nlConnect && env.fresh n .rtnlLinkAllocCache

/-- The next hops whose run of `foreach_nexthop` gets its link cache. -/
def freshHops (env : RoutingEnv) (n : Nat) (nhs : List RtnlNexthop) : List RtnlNexthop :=
  ((numbered (fun _ => 1) n nhs).filter fun p => freshOk env p.1).map Prod.snd

/-- A next hop container after `foreach_nexthop` appended `nhs` to it. -/
def listNextHop (env : RoutingEnv) (nextHop : RouteNextHop) (nhs : List RtnlNexthop) :
    RouteNextHop :=
  if nhs = [] then nextHop
  else { nextHop with kind := .list, listHead := nhs.map (cacheSimple env.links) }

/-- What `foreach_nexthop` leaves when it could not open its link cache is the
list it found. -/
theorem run_foreachNexthop_unopened {env : RoutingEnv} (nexthop : RouteNextHop) (nh : RtnlNexthop)
    {s : RoutingState} (h : freshOk env s.freshRuns = false) :
    ∃ s', (foreachNexthop env nexthop nh).run s = (.ok nexthop, s') ∧ s'.calls = s.calls ∧
      s'.freshRuns = s.freshRuns + 1 ∧ s'.failed = true := by
  rw [foreachNexthop, Prog.run_bind_ok (Prog.run_get s), Prog.run_bind_ok (Prog.run_modify _ s),
    Prog.run_bind_ok (run_call ..)]
  cases halloc : env.fresh s.freshRuns .nlSocketAlloc with
  | false => exact ⟨_, rfl, rfl, rfl, by simp⟩
  | true =>
      rw [Bool.not_true, if_neg Bool.false_ne_true, Prog.run_bind_ok (run_call ..)]
      cases hconnect : env.fresh s.freshRuns .nlConnect with
      | false => exact ⟨_, rfl, rfl, rfl, by simp⟩
      | true =>
          rw [Bool.not_true, if_neg Bool.false_ne_true, Prog.run_bind_ok (run_call ..)]
          cases hcache : env.fresh s.freshRuns .rtnlLinkAllocCache with
          | false => exact ⟨_, rfl, rfl, rfl, by simp⟩
          | true => simp [freshOk, halloc, hconnect, hcache] at h

/-- With its link cache open, `foreach_nexthop` appends the next hop. -/
theorem collects_foreachNexthop_opened {env : RoutingEnv} {nextHop : RouteNextHop}
    (hkind : nextHop.kind = .none) (pre : List RtnlNexthop) (nh : RtnlNexthop) {s : RoutingState}
    (h : freshOk env s.freshRuns = true) :
    Collects (foreachNexthop env (listNextHop env nextHop pre) nh) s
      ((env.links (rtnlRouteNhGetIfindex nh)).isSome = true) 1 False
      fun nextHop' => nextHop' = listNextHop env nextHop (pre ++ [nh]) := by
  simp only [freshOk, Bool.and_eq_true] at h
  obtain ⟨⟨halloc, hconnect⟩, hcache⟩ := h
  have hlook : ∀ s₁ : RoutingState, Collects (do
      let ifName ← rtnlLinkGetName env.links (rtnlRouteNhGetIfindex nh)
      Prog.lift (routeNextHopAddList (listNextHop env nextHop pre) (rtnlRouteNhGetIfindex nh)
        (some ifName) nh.gateway)) s₁ ((env.links (rtnlRouteNhGetIfindex nh)).isSome = true) 0 False
      fun nextHop' => nextHop' = listNextHop env nextHop (pre ++ [nh]) := by
    intro s₁
    have hname := collects_rtnlLinkGetName env.links (rtnlRouteNhGetIfindex nh) s₁
    have hadd : ∀ name s₂, env.links (rtnlRouteNhGetIfindex nh) = some name →
        s₂.freshRuns = s₁.freshRuns + 0 →
        Collects (Prog.lift (routeNextHopAddList (listNextHop env nextHop pre)
          (rtnlRouteNhGetIfindex nh) (some name) nh.gateway)) s₂ True 0 False
          fun nextHop' => nextHop' = listNextHop env nextHop (pre ++ [nh]) := by
      intro name s₂ hlink _
      refine ⟨fun _ => ⟨_, s₂, ?_, rfl, rfl, rfl, by simp⟩, fun h => absurd trivial h⟩
      rw [Prog.run_lift, routeNextHopAddList_some]
      by_cases hpre : pre = [] <;> simp [listNextHop, hpre, hkind, cacheSimple, hlink]
    exact (hname.bind hadd).imp (by simp) rfl (by simp) fun _ _ h => h
  have hrun : ∃ s₁ : RoutingState, (foreachNexthop env (listNextHop env nextHop pre) nh).run s =
      (do
        let ifName ← rtnlLinkGetName env.links (rtnlRouteNhGetIfindex nh)
        Prog.lift (routeNextHopAddList (listNextHop env nextHop pre) (rtnlRouteNhGetIfindex nh)
          (some ifName) nh.gateway) : RoutingM RouteNextHop).run s₁ ∧ s₁.calls = s.calls ∧
      s₁.freshRuns = s.freshRuns + 1 ∧ s₁.failed = s.failed := by
    rw [foreachNexthop, Prog.run_bind_ok (Prog.run_get s), Prog.run_bind_ok (Prog.run_modify _ s),
      Prog.run_bind_ok (run_call ..), halloc, Bool.not_true, if_neg Bool.false_ne_true,
      Prog.run_bind_ok (run_call ..), hconnect, Bool.not_true, if_neg Bool.false_ne_true,
      Prog.run_bind_ok (run_call ..), hcache, Bool.not_true, if_neg Bool.false_ne_true]
    exact ⟨_, rfl, rfl, rfl, by simp⟩
  obtain ⟨s₁, hrun, hcalls, hfresh, hfailed⟩ := hrun
  constructor
  · intro hknown
    obtain ⟨a, s₂, hrun', ha, hcalls', hfresh', hfailed'⟩ := (hlook s₁).done hknown
    exact ⟨a, s₂, hrun.trans hrun', ha, hcalls'.trans hcalls, hfresh'.trans hfresh,
      hfailed ▸ hfailed'⟩
  · intro hknown
    obtain ⟨s₂, hrun', hfailed'⟩ := (hlook s₁).crash hknown
    exact ⟨s₂, hrun.trans hrun', hfailed'⟩

theorem freshHops_cons (env : RoutingEnv) (n : Nat) (nh : RtnlNexthop) (nhs : List RtnlNexthop) :
    freshHops env n (nh :: nhs) =
      (if freshOk env n then [nh] else []) ++ freshHops env (n + 1) nhs := by
  cases h : freshOk env n <;> simp [freshHops, numbered, h]

/-- The links a list of next hops is looked up by are there. -/
def ListKnown (env : RoutingEnv) (n : Nat) (nhs : List RtnlNexthop) : Prop :=
  ∀ nh ∈ freshHops env n nhs, (env.links (rtnlRouteNhGetIfindex nh)).isSome = true

/-- Some run of `foreach_nexthop` for a list of next hops fails. -/
def ListFails (env : RoutingEnv) (n : Nat) (nhs : List RtnlNexthop) : Prop :=
  ∃ p ∈ numbered (fun _ => 1) n nhs, freshOk env p.1 = false

/-- One run of `foreach_nexthop`. -/
theorem collects_foreachNexthop (env : RoutingEnv) {nextHop : RouteNextHop}
    (hkind : nextHop.kind = .none) (pre : List RtnlNexthop) (nh : RtnlNexthop) (s : RoutingState) :
    Collects (foreachNexthop env (listNextHop env nextHop pre) nh) s
      (freshOk env s.freshRuns = true → (env.links (rtnlRouteNhGetIfindex nh)).isSome = true) 1
      (freshOk env s.freshRuns = false) fun nextHop' => nextHop' =
        listNextHop env nextHop (pre ++ if freshOk env s.freshRuns then [nh] else []) := by
  cases h : freshOk env s.freshRuns with
  | true =>
      refine (collects_foreachNexthop_opened hkind pre nh h).imp ?_ rfl ?_ fun _ a ha => ?_
      · simp
      · simp
      · simpa using ha
  | false =>
      obtain ⟨s', hrun, hcalls, hfresh, hfailed⟩ :=
        run_foreachNexthop_unopened (listNextHop env nextHop pre) nh h
      refine ⟨fun _ => ⟨_, s', hrun, ?_, hcalls, hfresh, ?_⟩, fun hk => ?_⟩
      · simp
      · simp [hfailed]
      · simp at hk

/-- All of them, in order. -/
theorem collects_foldlM_foreachNexthop {env : RoutingEnv} {nextHop : RouteNextHop}
    (hkind : nextHop.kind = .none) (nhs pre : List RtnlNexthop) (s : RoutingState) :
    Collects (nhs.foldlM (foreachNexthop env) (listNextHop env nextHop pre)) s
      (ListKnown env s.freshRuns nhs) nhs.length (ListFails env s.freshRuns nhs)
      fun nextHop' => nextHop' =
        listNextHop env nextHop (pre ++ freshHops env s.freshRuns nhs) := by
  induction nhs generalizing pre s with
  | nil =>
      have hend : Collects (pure (listNextHop env nextHop pre)) s True 0 False
          fun nextHop' => nextHop' = listNextHop env nextHop pre := collects_pure rfl
      refine hend.imp ?_ rfl ?_ fun _ _ h => ?_
      · simp [ListKnown, freshHops, numbered]
      · simp [ListFails, numbered]
      · simpa [freshHops, numbered] using h
  | cons nh nhs ih =>
      rw [List.foldlM_cons]
      have hstep := collects_foreachNexthop env hkind pre nh s
      have hrest : ∀ a s', a = listNextHop env nextHop
          (pre ++ if freshOk env s.freshRuns then [nh] else []) → s'.freshRuns = s.freshRuns + 1 →
          Collects (nhs.foldlM (foreachNexthop env) a) s' (ListKnown env (s.freshRuns + 1) nhs)
            nhs.length (ListFails env (s.freshRuns + 1) nhs) fun nextHop' => nextHop' =
              listNextHop env nextHop (pre ++ freshHops env s.freshRuns (nh :: nhs)) := by
        intro a s' ha hfresh
        rw [ha, freshHops_cons, ← List.append_assoc, ← hfresh]
        exact ih _ s'
      refine (hstep.bind hrest).imp ?_ ?_ ?_ fun _ _ h => h
      · rw [ListKnown, freshHops_cons, List.forall_mem_append, ListKnown]
        cases freshOk env s.freshRuns <;> simp
      · simp [Nat.add_comm]
      · simp [ListFails, numbered]

/-! ## the next hops of a route -/

/-- The runs of `foreach_nexthop` the next hops of a unicast route take. -/
def nexthopRuns : List RtnlNexthop → Nat
  | [_] => 0
  | nhs => nhs.length

/-- The links the next hops of a unicast route are looked up by are there. -/
def NexthopsKnown (env : RoutingEnv) (linkCache : LinkCache) (n : Nat) :
    List RtnlNexthop → Prop
  | [nh] => (linkCache (rtnlRouteNhGetIfindex nh)).isSome = true
  | nhs => ListKnown env n nhs

/-- Some call of `foreach_nexthop` for a unicast route fails. -/
def NexthopsFail (env : RoutingEnv) (n : Nat) : List RtnlNexthop → Prop
  | [_] => False
  | nhs => ListFails env n nhs

/-- What the next hops of a unicast route are collected as. -/
def collectedNexthops (env : RoutingEnv) (linkCache : LinkCache) (n : Nat)
    (nextHop : RouteNextHop) :
    List RtnlNexthop → RouteNextHop
  | [nh] => { nextHop with kind := .simple, simple := cacheSimple linkCache nh }
  | nhs => listNextHop env nextHop (freshHops env n nhs)

theorem collects_collectNexthops {env : RoutingEnv} {linkCache : LinkCache}
    {nextHop : RouteNextHop} (hkind : nextHop.kind = .none) (nhs : List RtnlNexthop)
    (s : RoutingState) :
    Collects (collectNexthops env linkCache nextHop nhs) s
      (NexthopsKnown env linkCache s.freshRuns nhs) (nexthopRuns nhs)
      (NexthopsFail env s.freshRuns nhs) fun nextHop' => nextHop' =
        collectedNexthops env linkCache s.freshRuns nextHop nhs := by
  match nhs with
  | [] => exact collects_foldlM_foreachNexthop hkind [] [] s
  | [nh] => exact collects_simple linkCache nextHop nh s
  | nh :: nh' :: nhs => exact collects_foldlM_foreachNexthop hkind (nh :: nh' :: nhs) [] s

/-- A list of collected next hops has their names. -/
theorem ifName_freshHops {env : RoutingEnv} {n : Nat} {nhs : List RtnlNexthop}
    (h : ListKnown env n nhs) :
    ∀ x ∈ (freshHops env n nhs).map (cacheSimple env.links), x.ifName.isSome := by
  intro x hx
  obtain ⟨nh, hnh, rfl⟩ := List.mem_map.mp hx
  exact h nh hnh

/-! ## cloning what was collected -/

/-- Cloning a list of named next hops gives an equal list. -/
theorem foldlM_routeNextHopAddList {simples : List RouteNextHopSimple}
    (hnames : ∀ x ∈ simples, x.ifName.isSome) {nh : RouteNextHop} (hkind : nh.kind = .list) :
    simples.foldlM (fun out iter => routeNextHopAddList out iter.ifindex iter.ifName iter.addr) nh =
      .ok { nh with listHead := nh.listHead ++ simples } := by
  induction simples generalizing nh with
  | nil => simp
  | cons x xs ih =>
      obtain ⟨name, hname⟩ := Option.isSome_iff_exists.mp (hnames x List.mem_cons_self)
      obtain ⟨addr, ifindex, ifName⟩ := x
      obtain rfl : ifName = some name := hname
      rw [List.foldlM_cons, routeNextHopAddList_some, Exit.ok_bind,
        ih (fun x hx => hnames x (List.mem_cons_of_mem _ hx)) (by simp [hkind])]
      simp [hkind]

theorem routeNextHopClone_list {nh : RouteNextHop} (hkind : nh.kind = .list)
    (hne : nh.listHead ≠ []) (hnames : ∀ y ∈ nh.listHead, y.ifName.isSome) :
    routeNextHopClone nh = .ok { kind := .list, listHead := nh.listHead } := by
  cases hhead : nh.listHead with
  | nil => exact absurd hhead hne
  | cons x xs =>
      rw [hhead] at hnames
      obtain ⟨name, hname⟩ := Option.isSome_iff_exists.mp (hnames x List.mem_cons_self)
      obtain ⟨addr, ifindex, ifName⟩ := x
      obtain rfl : ifName = some name := hname
      rw [routeNextHopClone, hkind]
      simp only [hhead, List.foldlM_cons]
      rw [routeNextHopAddList_some, Exit.ok_bind,
        foldlM_routeNextHopAddList (fun y hy => hnames y (List.mem_cons_of_mem _ hy)) rfl]
      rfl

/-- Cloning forgets what an earlier route left in the container. -/
theorem routeNextHopClone_collectedNexthops {env : RoutingEnv} {linkCache : LinkCache} {n : Nat}
    {nextHop : RouteNextHop} (hkind : nextHop.kind = .none) {nhs : List RtnlNexthop}
    (hknown : NexthopsKnown env linkCache n nhs) :
    routeNextHopClone (collectedNexthops env linkCache n nextHop nhs) =
      .ok (collectedNexthops env linkCache n {} nhs) := by
  have hlist : ∀ nhs, ListKnown env n nhs →
      routeNextHopClone (listNextHop env nextHop (freshHops env n nhs)) =
        .ok (listNextHop env {} (freshHops env n nhs)) := by
    intro nhs hknown
    have hnames := ifName_freshHops hknown
    by_cases hnil : freshHops env n nhs = []
    · simp [listNextHop, hnil, routeNextHopClone, hkind]
    · rw [listNextHop, if_neg hnil, listNextHop, if_neg hnil]
      exact routeNextHopClone_list rfl (by simpa using hnil) hnames
  match nhs, hknown with
  | [], hknown => exact hlist [] hknown
  | [nh], hknown =>
      obtain ⟨name, hname⟩ := Option.isSome_iff_exists.mp hknown
      simp only [collectedNexthops, routeNextHopClone, cacheSimple, hname]
      rfl
  | nh :: nh' :: nhs, hknown => exact hlist (nh :: nh' :: nhs) hknown

/-! ## the routes of a cache -/

/-- The routes of a cache, each with the number of its first run of
`foreach_nexthop`, when `hops` are the next hops looked up. -/
def numberedRoutes (hops : RtnlRoute → List RtnlNexthop) (n : Nat) (routes : List RtnlRoute) :
    List (Nat × RtnlRoute) :=
  numbered (fun route => nexthopRuns (hops route)) n routes

/-- Every link looked up on the way is there. -/
def RoutesKnown (env : RoutingEnv) (linkCache : LinkCache) (hops : RtnlRoute → List RtnlNexthop)
    (n : Nat) (routes : List RtnlRoute) : Prop :=
  ∀ p ∈ numberedRoutes hops n routes, NexthopsKnown env linkCache p.1 (hops p.2)

/-- Some run of `foreach_nexthop` fails. -/
def RoutesFail (env : RoutingEnv) (hops : RtnlRoute → List RtnlNexthop) (n : Nat)
    (routes : List RtnlRoute) : Prop :=
  ∃ p ∈ numberedRoutes hops n routes, NexthopsFail env p.1 (hops p.2)

theorem routesKnown_cons (env : RoutingEnv) (linkCache : LinkCache)
    (hops : RtnlRoute → List RtnlNexthop) (n : Nat) (route : RtnlRoute) (routes : List RtnlRoute) :
    RoutesKnown env linkCache hops n (route :: routes) ↔
      NexthopsKnown env linkCache n (hops route) ∧
        RoutesKnown env linkCache hops (n + nexthopRuns (hops route)) routes := by
  simp [RoutesKnown, numberedRoutes, numbered]

theorem routesFail_cons (env : RoutingEnv) (hops : RtnlRoute → List RtnlNexthop) (n : Nat)
    (route : RtnlRoute) (routes : List RtnlRoute) :
    RoutesFail env hops n (route :: routes) ↔
      NexthopsFail env n (hops route) ∨
        RoutesFail env hops (n + nexthopRuns (hops route)) routes := by
  simp [RoutesFail, numberedRoutes, numbered]

end SysrepoInterfaces.Routing
