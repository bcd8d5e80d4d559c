import Mathlib.Data.List.Induction
import SysrepoInterfaces.Routing.Env
import SysrepoInterfaces.Routing.Overlaid

/-!
# SysrepoInterfaces.Routing.ClonePreserved

What `route_clone` makes of a route that its setters have filled, in any order
and with next hops of any kinds.  The setters write one union, so what a call
leaves may be what another one finds.
-/

namespace SysrepoInterfaces.Routing.Overlaid

open CProg Keyed

/-! ## filling a route -/

/-- The routes the callers start from. -/
inductive FreshRoute where
  | zeroed
  | init (route : Route)

def FreshRoute.route : FreshRoute → Route
  | zeroed => {}
  | init route => routeInit route

def buildRoute (start : FreshRoute) (calls : List RouteCall) : Exit Route :=
  calls.foldlM RouteCall.run start.route

def RouteCall.setsInterface : RouteCall → Bool
  | .nextHop (.setSimpleInterface ..) => true
  | .nextHop (.setSimple ..) => true
  | _ => false

/-! ## the copy -/

/-- The copy has the kind and the member of the kind.  A next hop of no kind has
the interface, if it was given one. -/
def SameNextHop (interface : Bool) (nh copy : RouteNextHop) : Prop :=
  copy.kind = nh.kind ∧
    match nh.kind with
    | .none => interface → copy.ifindex = nh.ifindex ∧ copy.ifName = nh.ifName
    | .simple => copy.pointer = nh.pointer ∧ copy.ifindex = nh.ifindex ∧ copy.ifName = nh.ifName
    | .special => copy.pointer = nh.pointer
    | .list => copy.pointer = nh.pointer

structure SameRoute (interface : Bool) (route copy : Route) : Prop where
  preference : copy.preference = route.preference
  metadata : copy.metadata = route.metadata
  nextHop : SameNextHop interface route.nextHop copy.nextHop

/-- What `route_clone` returns, and both lists store. -/
structure StoresCopy (route copy : Route) : Prop where
  clone : routeClone route = .ok copy
  list : ∀ head, routeListAdd head route = .ok (copy :: head)
  hash : ∀ head addr, routeListHashAdd head addr route = .ok (Multimap.push addr copy head)

theorem storesCopy_of_clone {route copy : Route} (h : routeClone route = .ok copy) :
    StoresCopy route copy := by
  refine ⟨h, fun head => ?_, fun head addr => ?_⟩
  · rw [routeListAdd, h]
    rfl
  · rw [routeListHashAdd_eq, h]
    rfl

/-- A route that the calls fill is copied and stored as it is. -/
def Preserved (start : FreshRoute) (calls : List RouteCall) : Prop :=
  ∀ route, buildRoute start calls = .ok route →
    ∃ copy, StoresCopy route copy ∧ SameRoute (calls.any RouteCall.setsInterface) route copy

/-! ## what the calls leave -/

/-- What a pointer was written as. -/
inductive Written where
  | null
  | addr
  | text
  | element
  | stale
deriving DecidableEq, Repr

def Pointer.written : Pointer → Written
  | null => .null
  | addr _ => .addr
  | text _ => .text
  | element .. => .element
  | stale => .stale

/-- A next hop, as far as it matters to its copy. -/
structure Filling where
  kind : RouteNextHopKind
  pointer : Written
  ifName : Written
  /-- an interface was set -/
  interface : Bool
deriving DecidableEq, Repr

namespace Filling

/-- What a call leaves; none where it follows a pointer to something else. -/
def call (f : Filling) : NextHopCall → Option Filling
  | .setSimpleGateway gw =>
      some { f with kind := .simple, pointer := if gw.isSome then .addr else .null }
  | .setSimpleInterface _ ifName =>
      if ifName.isSome then some { f with ifName := .text, interface := true } else none
  | .setSimple _ ifName gw =>
      if ifName.isSome then some {
        kind := .simple, pointer := if gw.isSome then .addr else .null, ifName := .text
        interface := true }
      else none
  | .setSpecial value =>
      some { f with kind := .special, pointer := if value.isSome then .text else f.pointer }
  | .addList _ ifName _ =>
      if ifName.isSome then
        if f.kind = .none then some { f with kind := .list, pointer := .element }
        else if f.pointer = .null ∨ f.pointer = .element then
          some { f with pointer := .element }
        else none
      else none

def routeCall (f : Filling) : RouteCall → Option Filling
  | .nextHop c => f.call c
  | _ => some f

/-- The pointers are what the kind takes them for, a simple next hop has its
interface, and without a kind there is none. -/
def Whole (f : Filling) : Prop :=
  match f.kind with
  | .none => f.interface = false
  | .simple => (f.pointer = .null ∨ f.pointer = .addr) ∧ f.ifName = .text
  | .special => f.pointer = .null ∨ f.pointer = .text
  | .list => True

instance (f : Filling) : Decidable f.Whole := by
  unfold Whole
  cases f.kind <;> infer_instance

end Filling

/-- What calls on a fresh route leave. -/
def filled (start : FreshRoute) (calls : List RouteCall) : Option Filling :=
  calls.foldlM Filling.routeCall {
    kind := .none
    pointer := start.route.nextHop.pointer.written
    ifName := start.route.nextHop.ifName.written
    interface := false }

/-- A next hop that is filled so. -/
structure Fills (f : Filling) (nh : RouteNextHop) : Prop where
  kind : nh.kind = f.kind
  pointer : nh.pointer.written = f.pointer
  ifName : nh.ifName.written = f.ifName
  interface : f.interface → f.ifName = .text
  list : f.kind = .list → ∃ x xs, nh.pointer = .element x xs ∧ ∀ y ∈ x :: xs, y.ifName.isSome

section Fills

variable {f : Filling} {nh : RouteNextHop} {route : Route} {start : FreshRoute}
  {calls : List RouteCall}

theorem written_ofAddr (gw : Option NlAddr) :
    (Pointer.ofAddr gw).written = if gw.isSome then .addr else .null := by
  cases gw <;> rfl

/-- An element more. -/
theorem Fills.addList (h : Fills f nh) (ifindex : Nat) (name : String) (gw : Option NlAddr) :
    (∃ f' nh', f.call (.addList ifindex (some name) gw) = some f' ∧
        routeNextHopAddList nh ifindex (some name) gw = .ok nh' ∧ Fills f' nh') ∨
      f.call (.addList ifindex (some name) gw) = none ∧
        routeNextHopAddList nh ifindex (some name) gw = .crash := by
  rw [routeNextHopAddList_some, h.kind]
  by_cases hkind : f.kind = .none
  · rw [if_pos hkind]
    refine .inl ⟨{ f with kind := .list, pointer := .element }, _, by simp [Filling.call, hkind],
      rfl, rfl, rfl, h.ifName, h.interface, fun _ => ⟨_, _, rfl, by simp⟩⟩
  · rw [if_neg hkind]
    have hcall : f.call (.addList ifindex (some name) gw) =
        if nh.pointer.written = .null ∨ nh.pointer.written = .element then
          some { f with pointer := .element }
        else none := by simp [Filling.call, hkind, h.pointer]
    rw [hcall]
    cases hpointer : nh.pointer with
    | null =>
        exact .inl ⟨_, _, rfl, rfl, rfl, rfl, h.ifName, h.interface,
          fun _ => ⟨_, _, rfl, by simp⟩⟩
    | element x xs =>
        refine .inl ⟨_, _, rfl, rfl, rfl, rfl, h.ifName, h.interface, fun hlist => ?_⟩
        obtain ⟨_, _, heq, hnames⟩ := h.list hlist
        cases hpointer.symm.trans heq
        exact ⟨x, xs ++ [_], rfl, by simpa [or_imp, forall_and] using hnames⟩
    | addr a => exact .inr ⟨rfl, rfl⟩
    | text t => exact .inr ⟨rfl, rfl⟩
    | stale => exact .inr ⟨rfl, rfl⟩

/-- One call on the next hop. -/
theorem Fills.call (h : Fills f nh) (c : NextHopCall) :
    (∃ f' nh', f.call c = some f' ∧ c.run nh = .ok nh' ∧ Fills f' nh') ∨
      f.call c = none ∧ c.run nh = .crash := by
  cases c with
  | setSimpleGateway gw =>
      exact .inl ⟨_, _, rfl, rfl, rfl, written_ofAddr gw, h.ifName, h.interface, nofun⟩
  | setSimpleInterface ifindex ifName =>
      cases ifName with
      | none => exact .inr ⟨rfl, rfl⟩
      | some name =>
          exact .inl ⟨_, _, rfl, rfl, h.kind, h.pointer, rfl, fun _ => rfl, h.list⟩
  | setSimple ifindex ifName gw =>
      cases ifName with
      | none => exact .inr ⟨rfl, rfl⟩
      | some name =>
          exact .inl ⟨_, _, rfl, rfl, rfl, written_ofAddr gw, rfl, fun _ => rfl, nofun⟩
  | setSpecial value =>
      cases value with
      | none => exact .inl ⟨_, _, rfl, rfl, rfl, h.pointer, h.ifName, h.interface, nofun⟩
      | some value => exact .inl ⟨_, _, rfl, rfl, rfl, rfl, h.ifName, h.interface, nofun⟩
  | addList ifindex ifName gw =>
      cases ifName with
      | none => exact .inr ⟨rfl, rfl⟩
      | some name => exact h.addList ifindex name gw

/-- No setter writes `last_updated`. -/
structure FillsRoute (f : Filling) (route : Route) : Prop where
  lastUpdated : route.metadata.lastUpdated = none
  nextHop : Fills f route.nextHop

theorem FillsRoute.call (h : FillsRoute f route) (c : RouteCall) :
    (∃ f' route', f.routeCall c = some f' ∧ c.run route = .ok route' ∧ FillsRoute f' route') ∨
      f.routeCall c = none ∧ c.run route = .crash := by
  cases c with
  | setPreference pref => exact .inl ⟨_, _, rfl, rfl, h.lastUpdated, h.nextHop⟩
  | setActive active => exact .inl ⟨_, _, rfl, rfl, h.lastUpdated, h.nextHop⟩
  | setSourceProtocol proto =>
      refine .inl ⟨_, _, rfl, rfl, ?_⟩
      cases proto <;> exact ⟨h.lastUpdated, h.nextHop⟩
  | setLastUpdated lastUp =>
      refine .inl ⟨_, _, rfl, rfl, ?_⟩
      cases lastUp <;> exact ⟨h.lastUpdated, h.nextHop⟩
  | setDescription description =>
      refine .inl ⟨_, _, rfl, rfl, ?_⟩
      cases description <;> exact ⟨h.lastUpdated, h.nextHop⟩
  | nextHop c =>
      rcases h.nextHop.call c with ⟨f', nh', hcall, hrun, hfills⟩ | ⟨hcall, hrun⟩
      · exact .inl ⟨f', { route with nextHop := nh' }, hcall, by rw [RouteCall.run, hrun]; rfl,
          h.lastUpdated, hfills⟩
      · exact .inr ⟨hcall, by rw [RouteCall.run, hrun]; rfl⟩

theorem fillsRoute_start (start : FreshRoute) : FillsRoute {
    kind := .none
    pointer := start.route.nextHop.pointer.written
    ifName := start.route.nextHop.ifName.written
    interface := false } start.route := by
  cases start with
  | zeroed => exact ⟨rfl, rfl, rfl, rfl, nofun, nofun⟩
  | init route => exact ⟨rfl, rfl, rfl, rfl, nofun, nofun⟩

/-- All calls: they fill a route, or one of them follows a pointer to something
else. -/
theorem buildRoute_filled (start : FreshRoute) (calls : List RouteCall) :
    (∃ f route, filled start calls = some f ∧ buildRoute start calls = .ok route ∧
        FillsRoute f route) ∨
      filled start calls = none ∧ buildRoute start calls = .crash := by
  induction calls using List.reverseRecOn with
  | nil => exact .inl ⟨_, _, rfl, rfl, fillsRoute_start start⟩
  | append_singleton calls c ih =>
      rw [filled, buildRoute, List.foldlM_append, List.foldlM_append, ← filled, ← buildRoute]
      rcases ih with ⟨f, route, hfilled, hbuild, hfills⟩ | ⟨hfilled, hbuild⟩
      · simp only [hfilled, hbuild, Exit.ok_bind, Option.bind_eq_bind, Option.bind_some,
          List.foldlM_cons, List.foldlM_nil, bind_pure]
        exact hfills.call c
      · rw [hfilled, hbuild]
        exact .inr ⟨rfl, rfl⟩

/-- The interface is recorded. -/
theorem interface_of_filled (h : filled start calls = some f) :
    f.interface = calls.any RouteCall.setsInterface := by
  have hcall : ∀ (f f' : Filling) c, f.routeCall c = some f' →
      f'.interface = (f.interface || RouteCall.setsInterface c) := by
    intro f f' c hcall
    cases c with
    | nextHop c =>
        cases c <;> simp only [Filling.routeCall, Filling.call] at hcall <;>
          grind [RouteCall.setsInterface]
    | _ =>
        cases hcall
        simp [RouteCall.setsInterface]
  induction calls using List.reverseRecOn generalizing f with
  | nil =>
      cases h
      rfl
  | append_singleton calls c ih =>
      rw [filled, List.foldlM_append, ← filled] at h
      obtain ⟨f', hbefore, hlast⟩ := Option.bind_eq_some_iff.mp h
      simp only [List.foldlM_cons, List.foldlM_nil, bind_pure] at hlast
      rw [hcall f' f c hlast, ih hbefore]
      simp

/-! ## cloning -/

/-- The elements are appended in their order. -/
theorem foldlM_addList {xs : List RouteNextHopSimple} (hnames : ∀ y ∈ xs, y.ifName.isSome)
    (x : RouteNextHopSimple) (ys : List RouteNextHopSimple) :
    xs.foldlM (fun out iter => routeNextHopAddList out iter.ifindex iter.ifName iter.addr)
      { kind := .list, pointer := .element x ys } =
        .ok { kind := .list, pointer := .element x (ys ++ xs) } := by
  induction xs generalizing ys with
  | nil => rw [List.append_nil, List.foldlM_nil, Exit.pure_eq]
  | cons y xs ih =>
      rw [List.forall_mem_cons] at hnames
      obtain ⟨addr, ifindex, ifName⟩ := y
      obtain ⟨name, rfl⟩ := Option.isSome_iff_exists.mp hnames.1
      rw [List.foldlM_cons, routeNextHopAddList_some, if_neg (by simp), Pointer.asList,
        Exit.ok_bind, Exit.ok_bind, List.cons_append, Pointer.ofList, ih hnames.2,
        List.append_assoc, List.singleton_append]

theorem routeNextHopClone_list (hkind : nh.kind = .list) {x : RouteNextHopSimple}
    {xs : List RouteNextHopSimple} (hpointer : nh.pointer = .element x xs)
    (hnames : ∀ y ∈ x :: xs, y.ifName.isSome) :
    routeNextHopClone nh = .ok { kind := .list, pointer := .element x xs } := by
  rw [List.forall_mem_cons] at hnames
  obtain ⟨addr, ifindex, ifName⟩ := x
  obtain ⟨name, rfl⟩ := Option.isSome_iff_exists.mp hnames.1
  rw [routeNextHopClone, hkind]
  simp only [hpointer, Pointer.asList, Exit.ok_bind]
  rw [List.foldlM_cons, routeNextHopAddList_some, if_pos rfl, Exit.ok_bind,
    foldlM_addList hnames.2, List.nil_append]

/-- A next hop is cloned as it is exactly when it is whole. -/
theorem Fills.clone_iff (h : Fills f nh) :
    (∃ copy, routeNextHopClone nh = .ok copy ∧ SameNextHop f.interface nh copy) ↔ f.Whole := by
  have hsame : nh.kind = f.kind := h.kind
  cases hkind : f.kind with
  | none =>
      -- the interface is not copied
      rw [hkind] at hsame
      rw [Filling.Whole, hkind, routeNextHopClone, hsame]
      have hname : f.interface = true → Pointer.null ≠ nh.ifName := by
        intro hset hnull
        have htext := h.ifName.trans (h.interface hset)
        rw [← hnull] at htext
        cases htext
      cases hset : f.interface <;> simp_all [SameNextHop]
  | simple =>
      rw [hkind] at hsame
      rw [Filling.Whole, hkind, routeNextHopClone, hsame, ← h.pointer, ← h.ifName]
      cases hpointer : nh.pointer <;> cases hname : nh.ifName <;>
        simp [SameNextHop, hsame, hpointer, hname, Pointer.asAddr, Pointer.asText, Pointer.written,
          Pointer.ofAddr, routeNextHopSetSimple, routeNextHopSetSimpleInterface,
          routeNextHopSetSimpleGateway, xstrdup]
  | special =>
      rw [hkind] at hsame
      rw [Filling.Whole, hkind, routeNextHopClone, hsame, ← h.pointer]
      cases hpointer : nh.pointer <;>
        simp [SameNextHop, hsame, hpointer, Pointer.asText, Pointer.written, routeNextHopSetSpecial]
  | list =>
      rw [hkind] at hsame
      obtain ⟨x, xs, hpointer, hnames⟩ := h.list hkind
      rw [Filling.Whole, hkind, routeNextHopClone_list hsame hpointer hnames]
      simp [SameNextHop, hsame, hpointer]

end Fills

/-- A route that is filled is stored as it is exactly when its next hop is
whole. -/
theorem routeClone_preserved_iff (start : FreshRoute) (calls : List RouteCall) :
    Preserved start calls ↔ ∀ f, filled start calls = some f → f.Whole := by
  rcases buildRoute_filled start calls with ⟨f, route, hfilled, hbuild, hfills⟩ | ⟨hfilled, hbuild⟩
  · have hinterface := interface_of_filled hfilled
    have hclone := routeClone_eq hfills.lastUpdated
    have hiff : Preserved start calls ↔
        ∃ copy, routeNextHopClone route.nextHop = .ok copy ∧
          SameNextHop f.interface route.nextHop copy := by
      constructor
      · intro h
        obtain ⟨copy, hstores, hsame⟩ := h route hbuild
        obtain ⟨nh, hnh, hcopy⟩ := Exit.bind_eq_ok.mp (hclone.symm.trans hstores.clone)
        cases hcopy
        exact ⟨nh, hnh, hinterface ▸ hsame.nextHop⟩
      · rintro ⟨nh, hnh, hsame⟩ route' hbuild'
        cases hbuild.symm.trans hbuild'
        rw [hnh, Exit.ok_bind] at hclone
        exact ⟨_, storesCopy_of_clone hclone, rfl, rfl, hinterface ▸ hsame⟩
    rw [hiff, hfills.nextHop.clone_iff]
    simp [hfilled]
  · constructor
    · intro _ f hf
      cases hfilled.symm.trans hf
    · intro _ route hroute
      cases hbuild.symm.trans hroute

/-- A gateway without an interface, as the `next-hop-address` leaf alone gives:
the clone copies the name through `NULL`. -/
theorem gateway_without_interface :
    ¬ Preserved .zeroed [.nextHop (.setSimpleGateway (some (addr4 0xc0000201 32)))] := by
  intro h
  obtain ⟨copy, hstores, -⟩ := h _ rfl
  cases hstores.clone

/-- After `route_init` the value of a special next hop may be an old gateway. -/
example : ¬ Preserved (.init { nextHop := { pointer := .addr (addr4 0xc0000201 32) } })
    [.nextHop (.setSpecial none)] := by
  intro h
  obtain ⟨copy, hstores, -⟩ := h _ rfl
  cases hstores.clone

end SysrepoInterfaces.Routing.Overlaid
