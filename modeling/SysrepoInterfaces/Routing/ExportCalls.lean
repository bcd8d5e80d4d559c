import SysrepoInterfaces.Lib.Counted
import SysrepoInterfaces.Routing.Startup
import SysrepoInterfaces.Routing.Collect

/-!
# SysrepoInterfaces.Routing.ExportCalls

The checked calls of the two route exporters, counted.  The loops over next
hops have the same shape in both: a call for each next hop of a list, one for
its interface and one for its gateway, if that is exported.
-/

namespace SysrepoInterfaces.Routing

open CProg Counted

/-! ## the rules at this state -/

/-- The calls the exporters check; the runs of `foreach_nexthop` stay as they
are while a tree is built. -/
def exportLedger : Ledger RoutingState Nat where
  calls := RoutingState.calls
  failed := RoutingState.failed
  rest := RoutingState.freshRuns

variable {env : RoutingEnv}

theorem exact_checked (c : Call) :
    exportLedger.Exact env.lib (checked env c) 1 fun _ => True := by
  intro s
  rw [allGood_one]
  show (env.lib s.calls = true → _) ∧ (¬ env.lib s.calls = true → _)
  rw [run_checked]
  cases hlib : env.lib s.calls with
  | false => exact ⟨nofun, fun _ => ⟨_, rfl, by simp [exportLedger]⟩⟩
  | true => exact ⟨fun _ => ⟨(), _, rfl, trivial, rfl, by simp [exportLedger], rfl⟩,
    fun h => absurd rfl h⟩

theorem exact_lydNewPath (parent : LydNode) (path : String) (value : Option String) :
    exportLedger.Exact env.lib (lydNewPath env parent path value) 1 fun _ => True :=
  (exact_checked _).bind fun _ _ => Ledger.exact_pure trivial

theorem exact_lydNewInner (parent : LydNode) (module name : String) :
    exportLedger.Exact env.lib (lydNewInner env parent module name) 1 fun _ => True :=
  (exact_checked _).bind fun _ _ => Ledger.exact_pure trivial

theorem exact_lydNewAny (parent : LydNode) (module name : String) :
    exportLedger.Exact env.lib (lydNewAny env parent module name) 1 fun _ => True :=
  (exact_checked _).bind fun _ _ => Ledger.exact_pure trivial

theorem exact_rtnlLinkGetName {cache : LinkCache} {ifindex : Nat} (h : (cache ifindex).isSome) :
    exportLedger.Exact env.lib (rtnlLinkGetName cache ifindex) 0 fun _ => True := by
  intro s
  obtain ⟨name, hname⟩ := Option.isSome_iff_exists.mp h
  have hrun : (rtnlLinkGetName cache ifindex).run s =
      (.ok name, { s with
        log := s.log ++ [.rtnlLinkGet ifindex], failed := s.failed || !true }) := by
    rw [rtnlLinkGetName, hname]
    rfl
  constructor
  · intro _
    exact ⟨name, _, hrun, trivial, rfl, by simp [exportLedger], rfl⟩
  · intro hbad
    exact absurd (allGood_zero env.lib (exportLedger.calls s)) hbad

/-! ## outcomes -/

/-- A run of `p` from `s`: it comes to its end when its `calls` checked calls
succeed and the links looked up are `known`, and an unchecked call failed on
the way when `fails`; else it leaves early, and some call failed. -/
structure Exports {α : Type} (env : RoutingEnv) (p : RoutingM α) (s : RoutingState) (calls : Nat)
    (known : Prop) (fails : Prop) (Q : α → Prop) : Prop where
  done : AllGood env.lib s.calls calls → known → ∃ a s', p.run s = (.ok a, s') ∧ Q a ∧
    s'.calls = s.calls + calls ∧ (s'.failed = true ↔ s.failed = true ∨ fails)
  stop : ¬ (AllGood env.lib s.calls calls ∧ known) →
    ∃ x s', p.run s = (x, s') ∧ (∀ a, x ≠ .ok a) ∧ s'.failed = true

section Exports

variable {α β : Type} {p : RoutingM α} {f : α → RoutingM β} {s : RoutingState}
  {known fails fails' : Prop} {calls calls' runs : Nat} {Q : α → Prop} {Q' : β → Prop}

/-- Checked calls first. -/
theorem exports_exact_bind (hp : exportLedger.Exact env.lib p calls Q)
    (hf : ∀ a s', Q a → s'.calls = s.calls + calls → s'.freshRuns = s.freshRuns →
      Exports env (f a) s' calls' known fails Q') :
    Exports env (p >>= f) s (calls + calls') known fails Q' where
  done := by
    intro hgood hknown
    rw [allGood_add] at hgood
    obtain ⟨a, s₁, hrun, ha, hcalls, hfailed, hruns⟩ := (hp s).1 hgood.1
    have hfailed : s₁.failed = s.failed := hfailed
    have hcalls : s₁.calls = s.calls + calls := hcalls
    obtain ⟨b, s₂, hrun', hb, hcalls', hfailed'⟩ :=
      (hf a s₁ ha hcalls hruns).done (hcalls ▸ hgood.2) hknown
    have hsum : s₂.calls = s.calls + (calls + calls') := by omega
    exact ⟨b, s₂, (Prog.run_bind_ok hrun).trans hrun', hb, hsum, hfailed ▸ hfailed'⟩
  stop := by
    intro hbad
    rw [allGood_add] at hbad
    by_cases hgood : AllGood env.lib s.calls calls
    · obtain ⟨a, s₁, hrun, ha, hcalls, -, hruns⟩ := (hp s).1 hgood
      have hcalls : s₁.calls = s.calls + calls := hcalls
      have hrest : ¬ (AllGood env.lib s₁.calls calls' ∧ known) := by
        intro ⟨hgood', hknown⟩
        exact hbad ⟨⟨hgood, hcalls ▸ hgood'⟩, hknown⟩
      obtain ⟨x, s₂, hrun', hx, hfailed⟩ := (hf a s₁ ha hcalls hruns).stop hrest
      exact ⟨x, s₂, (Prog.run_bind_ok hrun).trans hrun', hx, hfailed⟩
    · obtain ⟨s₁, hrun, hfailed⟩ := (hp s).2 hgood
      exact ⟨_, s₁, Prog.run_bind_error hrun, nofun, hfailed⟩

/-- A call whose result is not looked at. -/
theorem exports_call_bind {c : Call} {ok : Bool} {f : Bool → RoutingM β}
    (hf : ∀ s', s'.calls = s.calls → s'.freshRuns = s.freshRuns →
      Exports env (f ok) s' calls known fails Q') :
    Exports env (call c ok >>= f) s calls known (ok = false ∨ fails) Q' where
  done := by
    intro hgood hknown
    rw [Prog.run_bind_ok (run_call c ok s)]
    obtain ⟨b, s₂, hrun, hb, hcalls, hfailed⟩ :=
      (hf { s with log := s.log ++ [c], failed := s.failed || !ok } rfl rfl).done hgood hknown
    refine ⟨b, s₂, hrun, hb, hcalls, ?_⟩
    rw [hfailed]
    simp [or_assoc]
  stop := by
    intro hbad
    rw [Prog.run_bind_ok (run_call c ok s)]
    exact (hf { s with log := s.log ++ [c], failed := s.failed || !ok } rfl rfl).stop hbad

/-- Collecting, and then checked calls. -/
theorem exports_collects_bind (hp : Collects p s known runs fails Q)
    (hf : ∀ a, known → Q a → exportLedger.Exact env.lib (f a) calls Q') :
    Exports env (p >>= f) s calls known fails Q' where
  done := by
    intro hgood hknown
    obtain ⟨a, s₁, hrun, ha, hcalls, -, hfailed⟩ := hp.done hknown
    have hgood' : AllGood env.lib s₁.calls calls := hcalls ▸ hgood
    obtain ⟨b, s₂, hrun', hb, hcalls', hfailed', -⟩ := (hf a hknown ha s₁).1 hgood'
    have hfailed' : s₂.failed = s₁.failed := hfailed'
    have hcalls' : s₂.calls = s₁.calls + calls := hcalls'
    have hsum : s₂.calls = s.calls + calls := by omega
    exact ⟨b, s₂, (Prog.run_bind_ok hrun).trans hrun', hb, hsum, hfailed' ▸ hfailed⟩
  stop := by
    intro hbad
    by_cases hknown : known
    · obtain ⟨a, s₁, hrun, ha, hcalls, -⟩ := hp.done hknown
      have hgood' : ¬ AllGood env.lib s₁.calls calls := fun h => hbad ⟨hcalls ▸ h, hknown⟩
      obtain ⟨s₂, hrun', hfailed⟩ := (hf a hknown ha s₁).2 hgood'
      exact ⟨_, s₂, (Prog.run_bind_ok hrun).trans hrun', nofun, hfailed⟩
    · obtain ⟨s₁, hrun, hfailed⟩ := hp.crash hknown
      exact ⟨_, s₁, Prog.run_bind_crash hrun, nofun, hfailed⟩

end Exports

/-! ## the calls for next hops -/

/-- The calls for a gateway, which is exported where `leaf` is 1. -/
def gatewayCalls (leaf : Nat) (gateway : Option NlAddr) : Nat := if gateway.isSome then leaf else 0

/-- The calls for the next hops of a unicast route whose first run of
`foreach_nexthop` is the n-th: the interface and the gateway of a single one;
for each one of a list the node as well. -/
def nexthopCalls (env : RoutingEnv) (leaf n : Nat) : List RtnlNexthop → Nat
  | [nh] => 1 + gatewayCalls leaf nh.gateway
  | nhs => ((freshHops env n nhs).map fun nh => 2 + gatewayCalls leaf nh.gateway).sum

/-- A route with any number of next hops but one keeps some of them. -/
def HasList (env : RoutingEnv) (n : Nat) : List RtnlNexthop → Prop
  | [_] => False
  | nhs => freshHops env n nhs ≠ []

/-- The same of a collected next hop. -/
def exportedCalls (leaf : Nat) (nextHop : RouteNextHop) : Nat :=
  match nextHop.kind with
  | .simple => 1 + gatewayCalls leaf nextHop.simple.addr
  | .list => (nextHop.listHead.map fun simple => 2 + gatewayCalls leaf simple.addr).sum
  | .none => 0
  | .special => 0

/-- What an exporter relies on: names and links for the next hops, and no list
without elements. -/
structure Exportable (env : RoutingEnv) (nextHop : RouteNextHop) : Prop where
  simple : nextHop.kind = .simple →
    (env.links nextHop.simple.ifindex).isSome ∧ nextHop.simple.ifName.isSome
  listNonempty : nextHop.kind = .list → nextHop.listHead ≠ []
  list : nextHop.kind = .list → ∀ simple ∈ nextHop.listHead,
    (env.links simple.ifindex).isSome ∧ simple.ifName.isSome

/-- A next hop with nothing to export. -/
theorem exportable_of_kind {nextHop : RouteNextHop} (hsimple : nextHop.kind ≠ .simple)
    (hlist : nextHop.kind ≠ .list) : Exportable env nextHop where
  simple h := absurd h hsimple
  listNonempty h := absurd h hlist
  list h := absurd h hlist

theorem exportable_listNextHop {n : Nat} {nhs : List RtnlNexthop} (hknown : ListKnown env n nhs) :
    Exportable env (listNextHop env {} (freshHops env n nhs)) := by
  rw [listNextHop]
  split
  · exact exportable_of_kind (by simp) (by simp)
  · next hne =>
      refine ⟨by simp, fun _ => by simpa using hne, fun _ simple hsimple => ?_⟩
      obtain ⟨nh, hnh, rfl⟩ := List.mem_map.mp hsimple
      exact ⟨hknown nh hnh, hknown nh hnh⟩

theorem exportedCalls_listNextHop (leaf n : Nat) (nhs : List RtnlNexthop) :
    exportedCalls leaf (listNextHop env {} (freshHops env n nhs)) =
      ((freshHops env n nhs).map fun nh => 2 + gatewayCalls leaf nh.gateway).sum := by
  rw [listNextHop]
  split
  · next h =>
      rw [h]
      rfl
  · simp [exportedCalls, cacheSimple, Function.comp_def]

theorem kind_listNextHop (n : Nat) (nhs : List RtnlNexthop) :
    (listNextHop env {} (freshHops env n nhs)).kind = .list ↔ freshHops env n nhs ≠ [] := by
  rw [listNextHop]
  split
  · next h => simp [h]
  · next h => simp [h]

theorem nexthopCalls_of_length_ne {leaf n : Nat} {nhs : List RtnlNexthop} (h : nhs.length ≠ 1) :
    nexthopCalls env leaf n nhs =
      ((freshHops env n nhs).map fun nh => 2 + gatewayCalls leaf nh.gateway).sum := by
  match nhs with
  | [] => rfl
  | [nh] => simp at h
  | nh :: nh' :: nhs => rfl

theorem hasList_of_length_ne {n : Nat} {nhs : List RtnlNexthop} (h : nhs.length ≠ 1) :
    HasList env n nhs ↔ freshHops env n nhs ≠ [] := by
  match nhs with
  | [] => exact Iff.rfl
  | [nh] => simp at h
  | nh :: nh' :: nhs => exact Iff.rfl

theorem nexthopsKnown_of_length_ne {linkCache : LinkCache} {n : Nat} {nhs : List RtnlNexthop}
    (h : nhs.length ≠ 1) : NexthopsKnown env linkCache n nhs ↔ ListKnown env n nhs := by
  match nhs with
  | [] => exact Iff.rfl
  | [nh] => simp at h
  | nh :: nh' :: nhs => exact Iff.rfl

/-- A property of what the next hops of a route are collected as, from its two
cases. -/
theorem collectedNexthops_cases (env : RoutingEnv) (n : Nat)
    {P : List RtnlNexthop → RouteNextHop → Prop}
    (hsingle : ∀ nh, P [nh] { kind := .simple, simple := cacheSimple env.links nh })
    (hlist : ∀ nhs : List RtnlNexthop, nhs.length ≠ 1 →
      P nhs (listNextHop env {} (freshHops env n nhs))) (nhs : List RtnlNexthop) :
    P nhs (collectedNexthops env env.links n {} nhs) := by
  match nhs with
  | [] => exact hlist [] (by simp)
  | [nh] => exact hsingle nh
  | nh :: nh' :: nhs => exact hlist (nh :: nh' :: nhs) (by simp)

theorem exportable_collectedNexthops {n : Nat} {nhs : List RtnlNexthop}
    (hknown : NexthopsKnown env env.links n nhs) :
    Exportable env (collectedNexthops env env.links n {} nhs) := by
  have hcases := collectedNexthops_cases env n
    (P := fun nhs nextHop => NexthopsKnown env env.links n nhs → Exportable env nextHop)
  refine hcases ?_ ?_ nhs hknown
  · exact fun nh hlink => ⟨fun _ => ⟨hlink, hlink⟩, nofun, nofun⟩
  · exact fun nhs hlen hlinks =>
      exportable_listNextHop ((nexthopsKnown_of_length_ne hlen).mp hlinks)

theorem exportedCalls_collectedNexthops (leaf n : Nat) (nhs : List RtnlNexthop) :
    exportedCalls leaf (collectedNexthops env env.links n {} nhs) =
      nexthopCalls env leaf n nhs := by
  have hcases := collectedNexthops_cases env n
    (P := fun nhs nextHop => exportedCalls leaf nextHop = nexthopCalls env leaf n nhs)
  refine hcases ?_ ?_ nhs
  · exact fun _ => rfl
  · intro nhs hlen
    rw [nexthopCalls_of_length_ne hlen]
    exact exportedCalls_listNextHop leaf n nhs

theorem kind_collectedNexthops (n : Nat) (nhs : List RtnlNexthop) :
    (collectedNexthops env env.links n {} nhs).kind = .list ↔ HasList env n nhs := by
  have hcases := collectedNexthops_cases env n
    (P := fun nhs nextHop => nextHop.kind = .list ↔ HasList env n nhs)
  refine hcases ?_ ?_ nhs
  · exact fun _ => by simp [HasList]
  · intro nhs hlen
    rw [hasList_of_length_ne hlen]
    exact kind_listNextHop n nhs

/-! ## the calls for collected routes -/

theorem exportable_collectedRoute {n : Nat} {route : RtnlRoute}
    (hknown : NexthopsKnown env env.links n (unicastHops route)) :
    Exportable env (collectedRoute env env.links n route).nextHop := by
  rw [unicastHops] at hknown
  rw [collectedRoute]
  cases htype : specialNextHop route.type with
  | some value => exact exportable_of_kind (by simp) (by simp)
  | none =>
      rw [htype] at hknown
      exact exportable_collectedNexthops hknown

theorem exportedCalls_collectedRoute (leaf n : Nat) (route : RtnlRoute) :
    exportedCalls leaf (collectedRoute env env.links n route).nextHop =
      nexthopCalls env leaf n (unicastHops route) := by
  rw [unicastHops, collectedRoute]
  cases specialNextHop route.type with
  | some value => rfl
  | none => exact exportedCalls_collectedNexthops leaf n route.nexthops

theorem kind_collectedRoute (n : Nat) (route : RtnlRoute) :
    (collectedRoute env env.links n route).nextHop.kind = .list ↔
      HasList env n (unicastHops route) := by
  rw [unicastHops, collectedRoute]
  cases specialNextHop route.type with
  | some value => simp [HasList, freshHops, numbered]
  | none => exact kind_collectedNexthops n route.nexthops

end SysrepoInterfaces.Routing
