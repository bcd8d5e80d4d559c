import Mathlib.Data.List.Find
import SysrepoInterfaces.Lib.Linked
import SysrepoInterfaces.Routing.Clone

/-!
# SysrepoInterfaces.Routing.HashMemory

The route hash (`route/list.c`, `route/list_hash.c`) in memory: elements with a
prefix and a head of routes, both linked through pointers.  What
`route_list_hash_get` returns is the place of an element, which its caller may
keep.
-/

namespace SysrepoInterfaces.Routing

open CProg Keyed Linked

/-! ## memory -/

/-- `struct route_list_element`. -/
structure RouteListCell where
  route : Route
  next : Option Nat := none
deriving DecidableEq, Repr

/-- `struct route_list_hash_element`. -/
structure RouteListHashCell where
  pfx : NlAddr
  routesHead : Option Nat := none
  next : Option Nat := none
deriving DecidableEq, Repr

/-- Write to the head of the routes. -/
def RouteListHashCell.setRoutesHead (head : Option Nat) (c : RouteListHashCell) :
    RouteListHashCell :=
  { c with routesHead := head }

def routeLinks : Links RouteListCell where
  next := RouteListCell.next
  setNext p c := { c with next := p }
  next_setNext _ _ := rfl

def hashLinks : Links RouteListHashCell where
  next := RouteListHashCell.next
  setNext p c := { c with next := p }
  next_setNext _ _ := rfl

/-- A hash with the cells it was built from. -/
structure HashMemory where
  head : Option Nat := none
  elements : List RouteListHashCell := []
  routes : List RouteListCell := []
deriving DecidableEq, Repr

abbrev HashM := Prog HashMemory

/-- `route_list_hash_get`: a pointer to the head of the routes in the element
found. -/
def routeListHashGetIn (memory : HashMemory) (addr : NlAddr) : Exit (Option Nat) :=
  llSearch hashLinks memory.elements (fun c => c.pfx = addr) memory.elements.length memory.head

/-- `route_list_add` to the head in the element at `loc`. -/
def routeListAddTo (loc : Nat) (route : Route) : HashM Unit := do
  let copy ← Prog.lift (routeClone route)
  let memory ← Prog.get
  match memory.elements[loc]? with
  | none => Prog.lift .crash
  | some element => do
      let (routes, head) := llPrepend routeLinks (memory.routes ++ [{ route := copy }])
        element.routesHead memory.routes.length
      Prog.modify fun memory => { memory with
        routes := routes
        elements := memory.elements.modify loc (RouteListHashCell.setRoutesHead head) }

/-- A new element is added to its routes before it is linked. -/
def routeListHashAppend (addr : NlAddr) (route : Route) : HashM Unit := do
  let memory ← Prog.get
  let loc := memory.elements.length
  Prog.modify fun memory => { memory with elements := memory.elements ++ [{ pfx := addr }] }
  routeListAddTo loc route
  let memory ← Prog.get
  let (elements, head) ← Prog.lift (llAppend hashLinks memory.elements memory.head loc)
  Prog.modify fun memory => { memory with elements := elements, head := head }

/-- `route_list_hash_add`. -/
def routeListHashAddIn (addr : NlAddr) (route : Route) : HashM Unit := do
  let memory ← Prog.get
  let found ← Prog.lift (routeListHashGetIn memory addr)
  match found with
  | some loc => routeListAddTo loc route
  | none => routeListHashAppend addr route

/-- Calls of `route_list_hash_add`, one after the other. -/
def addRoutes (adds : List (NlAddr × Route)) : HashM Unit :=
  forM adds fun add => routeListHashAddIn add.1 add.2

/-! ## reading the memory -/

/-- The routes below the head in the element at `loc`. -/
def HashMemory.routesAt (memory : HashMemory) (loc : Nat) : Exit (List Route) :=
  match memory.elements[loc]? with
  | none => .crash
  | some element => do
      let places ← llWalk routeLinks memory.routes memory.routes.length element.routesHead
      places.mapM fun place =>
        match memory.routes[place]? with
        | none => .crash
        | some c => .ok c.route

/-- The element at `loc`, with its routes. -/
def HashMemory.bucketAt (memory : HashMemory) (loc : Nat) : Exit RouteListHashElement :=
  match memory.elements[loc]? with
  | none => .crash
  | some element => do
      let routes ← memory.routesAt loc
      return { pfx := element.pfx, routesHead := routes }

/-- The whole hash, from its head. -/
def HashMemory.hash (memory : HashMemory) : Exit (List RouteListHashElement) := do
  let places ← llWalk hashLinks memory.elements memory.elements.length memory.head
  places.mapM memory.bucketAt

/-! ## what the memory holds -/

/-- The routes below a head. -/
def HoldsRoutes (cells : List RouteListCell) (head : Option Nat) (routes : List Route) : Prop :=
  ∃ places, Path routeLinks cells head places none ∧ List.Forall₂
    (fun place route => cells[place]?.map RouteListCell.route = some route) places routes

/-- An element of the hash, at its place. -/
abbrev PlacedBucket := Nat × RouteListHashElement

def PlacedBucket.pfx (x : PlacedBucket) : NlAddr := x.2.pfx

def PlacedBucket.prepend (route : Route) (x : PlacedBucket) : PlacedBucket :=
  (x.1, { x.2 with routesHead := route :: x.2.routesHead })

theorem PlacedBucket.fst_prepend (route : Route) (x : PlacedBucket) :
    (x.prepend route).1 = x.1 := rfl

theorem PlacedBucket.pfx_prepend (route : Route) (x : PlacedBucket) :
    (x.prepend route).pfx = x.pfx := rfl

/-- The memory holds the buckets, linked in this order. -/
structure HoldsHash (memory : HashMemory) (buckets : List PlacedBucket) : Prop where
  path : Path hashLinks memory.elements memory.head (buckets.map Prod.fst) none
  cell : ∀ x ∈ buckets, ∃ c, memory.elements[x.1]? = some c ∧ c.pfx = x.2.pfx ∧
    HoldsRoutes memory.routes c.routesHead x.2.routesHead
  keys : (buckets.map PlacedBucket.pfx).Nodup

/-- The buckets after a route was added; a new one would be at `loc`. -/
def pushPlaced (loc : Nat) (addr : NlAddr) (route : Route) (buckets : List PlacedBucket) :
    List PlacedBucket :=
  match lookup PlacedBucket.pfx addr buckets with
  | some _ => adjust PlacedBucket.pfx addr (PlacedBucket.prepend route) buckets
  | none => buckets ++ [(loc, { pfx := addr, routesHead := [route] })]

/-! ## the routes of one element -/

section Routes

variable {cells : List RouteListCell} {head : Option Nat} {routes : List Route}

/-- New cells do not matter. -/
theorem HoldsRoutes.alloc (h : HoldsRoutes cells head routes) (new : List RouteListCell) :
    HoldsRoutes (cells ++ new) head routes := by
  obtain ⟨places, hpath, hroutes⟩ := h
  refine ⟨places, hpath.alloc new, hroutes.imp fun place route hroute => ?_⟩
  obtain ⟨c, hc, rfl⟩ := Option.map_eq_some_iff.mp hroute
  rw [List.getElem?_append_left (List.getElem?_eq_some_iff.mp hc).1, hc]
  rfl

theorem HoldsRoutes.prepend (h : HoldsRoutes cells head routes) (copy : Route) :
    HoldsRoutes (cells ++ [{ route := copy, next := head }]) (some cells.length)
      (copy :: routes) := by
  obtain ⟨places, hpath, hroutes⟩ := h.alloc [{ route := copy, next := head }]
  have hcell : (cells ++ [{ route := copy, next := head }])[cells.length]? =
      some { route := copy, next := head } := List.getElem?_concat_length
  refine ⟨cells.length :: places, .cons hcell hpath, .cons ?_ hroutes⟩
  rw [hcell]
  rfl

end Routes

/-! ## one call -/

section Step

variable {memory : HashMemory} {buckets : List PlacedBucket} {addr : NlAddr} {route copy : Route}

/-- A search finds the element with the prefix. -/
theorem routeListHashGetIn_eq (h : HoldsHash memory buckets) (addr : NlAddr) :
    routeListHashGetIn memory addr =
      .ok ((lookup PlacedBucket.pfx addr buckets).map Prod.fst) := by
  rw [routeListHashGetIn, llSearch_eq _ h.path h.path.length_le, List.find?_map]
  congr 2
  refine List.find?_congr fun x hx => ?_
  obtain ⟨c, hc, hpfx, -⟩ := h.cell x hx
  simp only [Function.comp_apply, hc, Option.any_some, hpfx]
  rfl

theorem routesAt_eq (h : HoldsHash memory buckets) {x : PlacedBucket} (hx : x ∈ buckets) :
    memory.routesAt x.1 = .ok x.2.routesHead := by
  obtain ⟨c, hc, -, places, hpath, hroutes⟩ := h.cell x hx
  rw [HashMemory.routesAt, hc]
  simp only [llWalk_eq hpath hpath.length_le, Exit.ok_bind]
  refine Exit.mapM_of_forall₂ (hroutes.imp fun place route hroute => ?_)
  obtain ⟨c, hc, rfl⟩ := Option.map_eq_some_iff.mp hroute
  rw [hc]

theorem hash_eq (h : HoldsHash memory buckets) : memory.hash = .ok (buckets.map Prod.snd) := by
  rw [HashMemory.hash, llWalk_eq h.path h.path.length_le, Exit.ok_bind]
  refine Exit.mapM_of_forall₂ ?_
  rw [List.forall₂_map_left_iff, List.forall₂_map_right_iff]
  refine List.forall₂_same.mpr fun x hx => ?_
  obtain ⟨c, hc, hpfx, -⟩ := h.cell x hx
  rw [HashMemory.bucketAt, hc]
  simp only [routesAt_eq h hx, Exit.ok_bind, hpfx]
  rfl

theorem run_routeListAddTo {loc : Nat} {c : RouteListHashCell} (hc : memory.elements[loc]? = some c)
    (hcopy : routeClone route = .ok copy) :
    (routeListAddTo loc route).run memory = (.ok (), { memory with
      routes := memory.routes ++ [{ route := copy, next := c.routesHead }]
      elements := memory.elements.modify loc
        (RouteListHashCell.setRoutesHead (some memory.routes.length)) }) := by
  simp only [routeListAddTo, hcopy, Prog.run_bind, Prog.run_lift, Prog.run_get, hc, llPrepend_new,
    Prog.run_modify]
  rfl

/-- A route for a prefix that has an element. -/
theorem holdsHash_adjust (h : HoldsHash memory buckets) {x : PlacedBucket}
    (hx : lookup PlacedBucket.pfx addr buckets = some x) (hcopy : routeClone route = .ok copy) :
    ∃ memory', (routeListAddTo x.1 route).run memory = (.ok (), memory') ∧
      HoldsHash memory' (adjust PlacedBucket.pfx addr (PlacedBucket.prepend copy) buckets) := by
  obtain ⟨c, hc, hpfx, hroutes⟩ := h.cell x (mem_of_lookup hx)
  have hkeys : ((adjust PlacedBucket.pfx addr (PlacedBucket.prepend copy) buckets).map
      PlacedBucket.pfx).Nodup := by
    rw [map_adjust (PlacedBucket.pfx_prepend copy)]
    exact h.keys
  refine ⟨_, run_routeListAddTo hc hcopy, ?_, ?_, hkeys⟩
  · rw [map_adjust (PlacedBucket.fst_prepend copy)]
    have hnext : ∀ c, hashLinks.next (c.setRoutesHead (some memory.routes.length)) =
        hashLinks.next c := fun _ => rfl
    exact h.path.of_map_eq (map_modify_eq hnext memory.elements x.1)
  · intro y hy
    rcases mem_adjust_of_nodup (PlacedBucket.pfx_prepend copy) h.keys hy with
      ⟨hmem, hkey⟩ | ⟨x', hx', rfl⟩
    · -- another element is at another place
      have hplace : x.1 ≠ y.1 := by
        intro heq
        have hxy := List.inj_on_of_nodup_map h.path.nodup (mem_of_lookup hx) hmem heq
        exact hkey (hxy ▸ key_of_lookup hx)
      obtain ⟨c', hc', hpfx', hroutes'⟩ := h.cell y hmem
      refine ⟨c', ?_, hpfx', hroutes'.alloc _⟩
      rw [List.getElem?_modify_ne _ _ hplace, hc']
    · obtain rfl := Option.some.inj (hx.symm.trans hx')
      refine ⟨c.setRoutesHead (some memory.routes.length), ?_, hpfx, hroutes.prepend copy⟩
      rw [PlacedBucket.fst_prepend, List.getElem?_modify_eq, hc]
      rfl

/-- The run for a new prefix, when the new element was linked. -/
theorem run_routeListHashAppend (hcopy : routeClone route = .ok copy)
    {elements' : List RouteListHashCell} {head' : Option Nat}
    (happend : llAppend hashLinks
      (memory.elements ++ [{ pfx := addr, routesHead := some memory.routes.length }]) memory.head
      memory.elements.length = .ok (elements', head')) :
    (routeListHashAppend addr route).run memory = (.ok (), {
      head := head', elements := elements'
      routes := memory.routes ++ [{ route := copy, next := none }] }) := by
  have hadd := @run_routeListAddTo
    { memory with elements := memory.elements ++ [{ pfx := addr }] } route copy
    memory.elements.length { pfx := addr } List.getElem?_concat_length hcopy
  rw [modify_new] at hadd
  have happend : llAppend hashLinks (memory.elements ++ [RouteListHashCell.setRoutesHead
      (some memory.routes.length) { pfx := addr }]) memory.head memory.elements.length =
      .ok (elements', head') := happend
  simp only [routeListHashAppend, Prog.run_bind, Prog.run_get, Prog.run_modify, hadd, happend,
    Prog.run_lift]

/-- A route for a new prefix. -/
theorem holdsHash_append (h : HoldsHash memory buckets)
    (hnone : lookup PlacedBucket.pfx addr buckets = none) (hcopy : routeClone route = .ok copy) :
    ∃ memory', (routeListHashAppend addr route).run memory = (.ok (), memory') ∧
      HoldsHash memory' (buckets ++
        [(memory.elements.length, { pfx := addr, routesHead := [copy] })]) := by
  have hfresh : memory.elements.length ∉ buckets.map Prod.fst :=
    fun hmem => Nat.lt_irrefl _ (h.path.lt_of_mem hmem)
  obtain ⟨elements', head', happend, hpath, hsame⟩ := llAppend_eq
    (h.path.alloc [{ pfx := addr, routesHead := some memory.routes.length }])
    (by simp) hfresh
  -- no element but the last one gets another link, and none other members
  have hmembers := hsame (NlAddr × Option Nat) (fun c => (c.pfx, c.routesHead)) fun _ _ => rfl
  refine ⟨_, run_routeListHashAppend hcopy happend, ?_, ?_, ?_⟩
  · rw [List.map_append]
    exact hpath
  · intro y hy
    rcases List.mem_append.mp hy with hy | hy
    · obtain ⟨c, hc, hpfx, hroutes⟩ := h.cell y hy
      obtain ⟨c', hc', hsame⟩ := getElem?_of_map_eq hmembers
        ((List.getElem?_append_left (List.getElem?_eq_some_iff.mp hc).1).trans hc)
      obtain ⟨hpfx', hhead⟩ := Prod.mk.inj hsame
      refine ⟨c', hc', hpfx'.trans hpfx, ?_⟩
      rw [hhead]
      exact hroutes.alloc _
    · obtain rfl := List.mem_singleton.mp hy
      obtain ⟨c', hc', hsame⟩ := getElem?_of_map_eq hmembers List.getElem?_concat_length
      obtain ⟨hpfx', hhead⟩ := Prod.mk.inj hsame
      refine ⟨c', hc', hpfx', ?_⟩
      have hempty : HoldsRoutes memory.routes none [] := ⟨[], .nil none, .nil⟩
      rw [hhead]
      exact hempty.prepend copy
  · rw [List.map_append, List.nodup_append]
    refine ⟨h.keys, by simp, ?_⟩
    rintro a ha b hb rfl
    rw [List.map_singleton, List.mem_singleton] at hb
    have hb : a = addr := hb
    exact lookup_eq_none_iff.mp hnone (hb ▸ ha)

/-- One call of `route_list_hash_add`. -/
theorem holdsHash_add (h : HoldsHash memory buckets) (addr : NlAddr)
    (hcopy : routeClone route = .ok copy) :
    ∃ memory', (routeListHashAddIn addr route).run memory = (.ok (), memory') ∧
      HoldsHash memory' (pushPlaced memory.elements.length addr copy buckets) := by
  rw [routeListHashAddIn, Prog.run_bind_ok (Prog.run_get memory),
    routeListHashGetIn_eq h addr, Prog.run_bind_ok (Prog.run_lift _ memory), pushPlaced]
  cases hx : lookup PlacedBucket.pfx addr buckets with
  | none => exact holdsHash_append h hx hcopy
  | some x => exact holdsHash_adjust h hx hcopy

/-- Only a route that is cloned is added. -/
theorem clone_of_add {memory' : HashMemory}
    (h : (routeListHashAddIn addr route).run memory = (.ok (), memory')) :
    ∃ copy, routeClone route = .ok copy := by
  have hadd : ∀ (loc : Nat) (memory memory' : HashMemory),
      (routeListAddTo loc route).run memory = (.ok (), memory') →
      ∃ copy, routeClone route = .ok copy := by
    intro loc memory memory' h
    obtain ⟨copy, _, hlift, -⟩ := Prog.bind_eq_ok h
    exact ⟨copy, congrArg Prod.fst hlift⟩
  obtain ⟨_, _, _, h⟩ := Prog.bind_eq_ok h
  obtain ⟨found, memory₁, -, h⟩ := Prog.bind_eq_ok h
  cases found with
  | some loc => exact hadd loc _ _ h
  | none =>
      obtain ⟨_, _, _, h⟩ := Prog.bind_eq_ok h
      obtain ⟨_, _, _, h⟩ := Prog.bind_eq_ok h
      obtain ⟨_, _, h, -⟩ := Prog.bind_eq_ok h
      exact hadd _ _ _ h

end Step

/-! ## what the buckets stand for -/

section Buckets

variable {buckets buckets' : List PlacedBucket} {loc : Nat} {addr : NlAddr} {route : Route}

/-- The buckets are those of the hash as a list. -/
theorem map_snd_pushPlaced (loc : Nat) (addr : NlAddr) (route : Route)
    (buckets : List PlacedBucket) :
    (pushPlaced loc addr route buckets).map Prod.snd =
      routeListHashPush (buckets.map Prod.snd) addr route := by
  have hkey : (fun x : PlacedBucket => RouteListHashElement.pfx x.2) = PlacedBucket.pfx := rfl
  rw [pushPlaced, routeListHashPush, routeListHashGet, lookup_map, hkey]
  cases hx : lookup PlacedBucket.pfx addr buckets with
  | none =>
      rw [List.map_append]
      rfl
  | some x =>
      -- both write to the element that is found
      have hwrite : ∀ y, lookup PlacedBucket.pfx addr buckets = some y → y.prepend route =
          (y.1, { y.2 with routesHead := route :: x.2.routesHead }) := by
        intro y hy
        obtain rfl := Option.some.inj (hx.symm.trans hy)
        rfl
      have hmap : ∀ y : PlacedBucket, { y.2 with routesHead := route :: x.2.routesHead } =
          Prod.snd (α := Nat) (y.1, { y.2 with routesHead := route :: x.2.routesHead }) :=
        fun _ => rfl
      simp only [Option.map_some]
      rw [adjust_congr hwrite, adjust_map hmap, hkey]

/-- The hash in memory is the hash as a list. -/
theorem hash_add {memory : HashMemory} {copy : Route} (h : HoldsHash memory buckets)
    (hcopy : routeClone route = .ok copy) :
    ∃ memory', (routeListHashAddIn addr route).run memory = (.ok (), memory') ∧
      memory'.hash = routeListHashAdd (buckets.map Prod.snd) addr route := by
  obtain ⟨memory', hrun, hholds⟩ := holdsHash_add h addr hcopy
  refine ⟨memory', hrun, ?_⟩
  rw [hash_eq hholds, map_snd_pushPlaced, routeListHashAdd_eq, hcopy]
  rfl

/-- Where the elements are, and their prefixes. -/
def placesOf (buckets : List PlacedBucket) : List (Nat × NlAddr) :=
  buckets.map fun x => (x.1, x.pfx)

theorem placesOf_pushPlaced (loc : Nat) (addr : NlAddr) (route : Route)
    (buckets : List PlacedBucket) :
    placesOf buckets <+: placesOf (pushPlaced loc addr route buckets) := by
  rw [pushPlaced]
  cases lookup PlacedBucket.pfx addr buckets with
  | none =>
      rw [placesOf, placesOf, List.map_append]
      exact List.prefix_append _ _
  | some x =>
      have hsame : ∀ x : PlacedBucket,
          ((x.prepend route).1, (x.prepend route).pfx) = (x.1, x.pfx) := fun _ => rfl
      exact ⟨[], by rw [List.append_nil, placesOf, placesOf, map_adjust hsame]⟩

/-- A place that was found is found again. -/
theorem lookup_of_placesOf (h : placesOf buckets <+: placesOf buckets') {x : PlacedBucket}
    (hx : lookup PlacedBucket.pfx addr buckets = some x) :
    ∃ x', lookup PlacedBucket.pfx addr buckets' = some x' ∧ x'.1 = x.1 := by
  have hplaces : ∀ buckets, lookup Prod.snd addr (placesOf buckets) =
      (lookup PlacedBucket.pfx addr buckets).map fun x => (x.1, x.pfx) :=
    fun buckets => lookup_map _ buckets
  obtain ⟨rest, hrest⟩ := h
  have hfound := hplaces buckets'
  rw [← hrest, lookup_append, hplaces buckets, hx, Option.map_some, Option.some_or] at hfound
  obtain ⟨x', hx', heq⟩ := Option.map_eq_some_iff.mp hfound.symm
  exact ⟨x', hx', (Prod.mk.inj heq).1⟩

end Buckets

/-! ## runs -/

/-- What is added, and what is stored of it. -/
def Copied (add copy : NlAddr × Route) : Prop := copy.1 = add.1 ∧ routeClone add.2 = .ok copy.2

section Runs

variable {memory : HashMemory} {buckets : List PlacedBucket} {adds copies : List (NlAddr × Route)}

theorem holdsHash_init : HoldsHash {} [] where
  path := .nil none
  cell := nofun
  keys := List.nodup_nil

/-- Calls one after the other; the elements stay where they are. -/
theorem holdsHash_addRoutes (hcopies : List.Forall₂ Copied adds copies)
    (h : HoldsHash memory buckets) : ∃ memory' buckets',
    (addRoutes adds).run memory = (.ok (), memory') ∧ HoldsHash memory' buckets' ∧
      placesOf buckets <+: placesOf buckets' ∧
      toMultimap (buckets'.map Prod.snd) = copies.foldl (fun m p => Multimap.push p.1 p.2 m)
        (toMultimap (buckets.map Prod.snd)) := by
  induction hcopies generalizing memory buckets with
  | nil => exact ⟨memory, buckets, rfl, h, List.prefix_refl _, rfl⟩
  | @cons add copy adds copies hcopy _ ih =>
      obtain ⟨memory₁, hrun, hholds⟩ := holdsHash_add h add.1 hcopy.2
      obtain ⟨memory', buckets', hrun', hholds', hplaces, hvalues⟩ := ih hholds
      refine ⟨memory', buckets', ?_, hholds', (placesOf_pushPlaced _ _ _ _).trans hplaces, ?_⟩
      · rw [addRoutes, List.forM_cons, Prog.run_bind_ok hrun]
        exact hrun'
      · rw [hvalues, map_snd_pushPlaced, toMultimap_push, List.foldl_cons, hcopy.1]

theorem copied_of_addRoutes {memory' : HashMemory}
    (h : (addRoutes adds).run memory = (.ok (), memory')) :
    ∃ copies, List.Forall₂ Copied adds copies := by
  induction adds generalizing memory with
  | nil => exact ⟨[], .nil⟩
  | cons add adds ih =>
      rw [addRoutes, List.forM_cons] at h
      obtain ⟨_, memory₁, hadd, hrest⟩ := Prog.bind_eq_ok h
      obtain ⟨copy, hcopy⟩ := clone_of_add hadd
      obtain ⟨copies, hcopies⟩ := ih hrest
      exact ⟨(add.1, copy) :: copies, .cons ⟨rfl, hcopy⟩ hcopies⟩

end Runs

/-! ## a faithful multimap -/

/-- Copies of what was added for a prefix, newest first. -/
def CopiesOf (adds : List (NlAddr × Route)) (addr : NlAddr) (routes : List Route) : Prop :=
  List.Forall₂ (fun add copy => SameRoute add.2.nextHop.kind add.2 copy)
    (adds.filter fun add => add.1 = addr).reverse routes

/-- The hash is a multimap of what was added: its prefixes are distinct, in
order of first insertion, and have routes, as many as there were calls; a
search finds the routes of a prefix if there are any, and what it found before
it finds again, unchanged unless routes for that prefix came after. -/
structure FaithfulMultimap (adds : List (NlAddr × Route)) (memory : HashMemory) : Prop where
  hash : ∃ hash, memory.hash = .ok hash ∧
    hash.map RouteListHashElement.pfx = (adds.map Prod.fst).eraseDups ∧
    (hash.map RouteListHashElement.pfx).Nodup ∧
    (∀ e ∈ hash, e.routesHead ≠ []) ∧
    (hash.map fun e => e.routesHead.length).sum = adds.length
  get : ∀ addr, ∃ found, routeListHashGetIn memory addr = .ok found ∧
    (found = none ↔ addr ∉ adds.map Prod.fst) ∧
    ∀ loc ∈ found, ∃ routes, memory.routesAt loc = .ok routes ∧ CopiesOf adds addr routes
  stable : ∀ before after memory₀, adds = before ++ after →
    (addRoutes before).run {} = (.ok (), memory₀) →
    ∀ addr loc, routeListHashGetIn memory₀ addr = .ok (some loc) →
      routeListHashGetIn memory addr = .ok (some loc) ∧
        (addr ∉ after.map Prod.fst → memory.routesAt loc = memory₀.routesAt loc)

/-- Routes that are copied as they are. -/
def Route.copied (route : Route) : Bool :=
  route.metadata.lastUpdated.isNone && match route.nextHop.kind with
    | .none => true
    | .simple => route.nextHop.simple.ifName.isSome
    | .special => true
    | .list => !route.nextHop.listHead.isEmpty &&
        route.nextHop.listHead.all fun nh => nh.ifName.isSome

/-- The list is cloned name by name. -/
theorem isSome_of_clone {list : List RouteNextHopSimple} {out copy : RouteNextHop}
    (h : list.foldlM (fun out iter =>
      routeNextHopAddList out iter.ifindex iter.ifName iter.addr) out = .ok copy) :
    ∀ nh ∈ list, nh.ifName.isSome := by
  induction list generalizing out with
  | nil => simp
  | cons nh list ih =>
      rw [List.foldlM_cons] at h
      obtain ⟨out', hadd, hrest⟩ := Exit.bind_eq_ok.mp h
      intro x hx
      rcases List.mem_cons.mp hx with rfl | hx
      · cases hname : x.ifName with
        | none =>
            rw [hname] at hadd
            cases hadd
        | some name => rfl
      · exact ih hrest x hx

theorem lastUpdated_of_clone {route copy : Route} (h : routeClone route = .ok copy) :
    copy.metadata.lastUpdated = none := by
  obtain ⟨nh, -, hcopy⟩ := Exit.bind_eq_ok.mp h
  rw [← Exit.ok.inj hcopy]
  cases route.metadata.sourceProtocol <;> cases route.metadata.lastUpdated <;>
    cases route.metadata.description <;> rfl

/-- The clone of a route is the same exactly when the route is one of these. -/
theorem copied_iff (route : Route) :
    (∃ copy, routeClone route = .ok copy ∧ SameRoute route.nextHop.kind route copy) ↔
      route.copied = true := by
  rw [Route.copied, Bool.and_eq_true, Option.isNone_iff_eq_none]
  constructor
  · rintro ⟨copy, hclone, hsame⟩
    have hlast : route.metadata.lastUpdated = none := by
      rw [← hsame.metadata]
      exact lastUpdated_of_clone hclone
    refine ⟨hlast, ?_⟩
    have hnextHop := hsame.nextHop
    rw [routeClone_eq hlast] at hclone
    obtain ⟨nh, hnh, hcopy⟩ := Exit.bind_eq_ok.mp hclone
    obtain rfl := Exit.ok.inj hcopy
    cases hkind : route.nextHop.kind with
    | none => rfl
    | simple =>
        cases hname : route.nextHop.simple.ifName with
        | none =>
            rw [routeNextHopClone_crash hkind hname] at hnh
            cases hnh
        | some name => simp
    | special => rfl
    | list =>
        rw [routeNextHopClone, hkind] at hnh
        rw [hkind] at hnextHop
        have hne : route.nextHop.listHead ≠ [] := by
          intro hnil
          rw [hnil] at hnh
          cases hnh
          have hlist : RouteNextHopKind.none = route.nextHop.kind :=
            congrArg RouteNextHop.kind hnextHop
          rw [hkind] at hlist
          cases hlist
        simpa [hne] using isSome_of_clone hnh
  · rintro ⟨hlast, hcopied⟩
    have hclone : routeNextHopClone route.nextHop =
        .ok (route.nextHop.written route.nextHop.kind) := by
      cases hkind : route.nextHop.kind with
      | none => rw [routeNextHopClone_none hkind, RouteNextHop.written, hkind]
      | simple =>
          rw [hkind] at hcopied
          rw [routeNextHopClone_simple hkind hcopied, RouteNextHop.written, hkind]
      | special => rw [routeNextHopClone_special hkind, RouteNextHop.written, hkind]
      | list =>
          simp only [hkind, Bool.and_eq_true, List.all_eq_true, Bool.not_eq_true',
            List.isEmpty_eq_false_iff] at hcopied
          rw [routeNextHopClone_list hkind hcopied.1 hcopied.2, RouteNextHop.written, hkind]
    have hroute : routeClone route =
        .ok { route with nextHop := route.nextHop.written route.nextHop.kind } := by
      rw [routeClone_eq hlast, hclone]
      rfl
    refine ⟨_, hroute, rfl, rfl, ?_⟩
    cases route.nextHop.kind <;> rfl

/-! ## when the hash is faithful -/

section Faithful

variable {memory : HashMemory} {buckets : List PlacedBucket} {adds copies : List (NlAddr × Route)}

theorem map_fst_of_copied (h : List.Forall₂ Copied adds copies) :
    copies.map Prod.fst = adds.map Prod.fst := by
  induction h with
  | nil => rfl
  | cons hcopy _ ih => rw [List.map_cons, List.map_cons, hcopy.1, ih]

/-- The copies for one prefix. -/
theorem filter_of_copied (h : List.Forall₂ Copied adds copies) (addr : NlAddr) :
    List.Forall₂ Copied (adds.filter fun add => add.1 = addr)
      (copies.filter fun copy => copy.1 = addr) := by
  induction h with
  | nil => exact .nil
  | @cons add copy _ _ hcopy _ ih =>
      by_cases haddr : add.1 = addr
      · rw [List.filter_cons_of_pos (by simpa using haddr),
          List.filter_cons_of_pos (by simpa [hcopy.1] using haddr)]
        exact .cons hcopy ih
      · rwa [List.filter_cons_of_neg (by simpa using haddr),
          List.filter_cons_of_neg (by simpa [hcopy.1] using haddr)]

/-- What is found is what is stored under the prefix. -/
theorem values_of_lookup (addr : NlAddr) :
    Multimap.values addr (toMultimap (buckets.map Prod.snd)) =
      (lookup PlacedBucket.pfx addr buckets).map fun x => x.2.routesHead := by
  rw [Multimap.values, toMultimap, List.map_map, lookup_map, Option.map_map]
  rfl

/-- The routes found are the copies, newest first. -/
theorem forall₂_of_lookup (hcopies : List.Forall₂ Copied adds copies)
    (hvalues : toMultimap (buckets.map Prod.snd) = Multimap.ofList copies) {addr : NlAddr}
    {x : PlacedBucket} (hx : lookup PlacedBucket.pfx addr buckets = some x) :
    List.Forall₂ (fun add copy => routeClone add.2 = .ok copy)
      (adds.filter fun add => add.1 = addr).reverse x.2.routesHead := by
  have hroutes := Multimap.values_ofList copies addr
  rw [← hvalues, values_of_lookup, hx, Option.map_some, Option.getD_some] at hroutes
  rw [hroutes, ← List.map_reverse, List.forall₂_map_right_iff]
  exact (List.rel_reverse (filter_of_copied hcopies addr)).imp fun _ _ hcopy => hcopy.2

theorem keys_of_values (hcopies : List.Forall₂ Copied adds copies)
    (hvalues : toMultimap (buckets.map Prod.snd) = Multimap.ofList copies) :
    buckets.map PlacedBucket.pfx = (adds.map Prod.fst).eraseDups := by
  have hkeys := keys_toMultimap (buckets.map Prod.snd)
  rw [hvalues, Multimap.keys_ofList, map_fst_of_copied hcopies, List.map_map] at hkeys
  exact hkeys.symm

theorem sameRoute_of_copied {route copy : Route} (h : route.copied = true)
    (hclone : routeClone route = .ok copy) : SameRoute route.nextHop.kind route copy := by
  obtain ⟨copy', hclone', hsame⟩ := (copied_iff route).mpr h
  obtain rfl := Exit.ok.inj (hclone.symm.trans hclone')
  exact hsame

theorem exists_copies (h : ∀ add ∈ adds, add.2.copied = true) :
    ∃ copies, List.Forall₂ Copied adds copies := by
  induction adds with
  | nil => exact ⟨[], .nil⟩
  | cons add adds ih =>
      obtain ⟨copies, hcopies⟩ := ih fun add hadd => h add (List.mem_cons_of_mem _ hadd)
      obtain ⟨copy, hclone, -⟩ := (copied_iff add.2).mpr (h add List.mem_cons_self)
      exact ⟨(add.1, copy) :: copies, .cons ⟨rfl, hclone⟩ hcopies⟩

/-- What was found stays where it is, and has the same routes as long as none
comes for its prefix. -/
theorem found_again {before after : List (NlAddr × Route)} {memory₀ : HashMemory}
    (hbefore : (addRoutes before).run {} = (.ok (), memory₀))
    (hafter : (addRoutes after).run memory₀ = (.ok (), memory)) {addr : NlAddr} {loc : Nat}
    (hloc : routeListHashGetIn memory₀ addr = .ok (some loc)) :
    routeListHashGetIn memory addr = .ok (some loc) ∧
      (addr ∉ after.map Prod.fst → memory.routesAt loc = memory₀.routesAt loc) := by
  obtain ⟨copies₀, hcopies₀⟩ := copied_of_addRoutes hbefore
  obtain ⟨_, buckets₀, hrun₀, hholds₀, -, -⟩ := holdsHash_addRoutes hcopies₀ holdsHash_init
  obtain rfl := (Prod.mk.inj (hbefore.symm.trans hrun₀)).2
  obtain ⟨copies, hcopies⟩ := copied_of_addRoutes hafter
  obtain ⟨_, buckets, hrun, hholds, hplaces, hvalues⟩ := holdsHash_addRoutes hcopies hholds₀
  obtain rfl := (Prod.mk.inj (hafter.symm.trans hrun)).2
  rw [routeListHashGetIn_eq hholds₀] at hloc
  obtain ⟨x, hx, rfl⟩ := Option.map_eq_some_iff.mp (Exit.ok.inj hloc)
  obtain ⟨x', hx', hplace⟩ := lookup_of_placesOf hplaces hx
  constructor
  · rw [routeListHashGetIn_eq hholds, hx', Option.map_some, hplace]
  · intro haddr
    -- the values of the prefix are the ones from before
    have hsame := Multimap.values_foldl_push_ne copies
      (by rwa [map_fst_of_copied hcopies]) (toMultimap (buckets₀.map Prod.snd))
    rw [← hvalues, values_of_lookup, values_of_lookup, hx, hx'] at hsame
    rw [← hplace, routesAt_eq hholds (mem_of_lookup hx'), hplace,
      routesAt_eq hholds₀ (mem_of_lookup hx)]
    exact congrArg Exit.ok (Option.some.inj hsame)

/-- A multimap of copies that are the same. -/
theorem faithfulMultimap_of_same (hcopies : List.Forall₂ Copied adds copies)
    (hsame : ∀ add ∈ adds, add.2.copied = true) :
    ∃ memory, (addRoutes adds).run {} = (.ok (), memory) ∧ FaithfulMultimap adds memory := by
  obtain ⟨memory, buckets, hrun, hholds, -, hvalues⟩ := holdsHash_addRoutes hcopies holdsHash_init
  have hvalues : toMultimap (buckets.map Prod.snd) = Multimap.ofList copies := hvalues
  have hkeys := keys_of_values hcopies hvalues
  refine ⟨memory, hrun, ?_, ?_, ?_⟩
  · refine ⟨_, hash_eq hholds, ?_, ?_, ?_, ?_⟩
    · rw [List.map_map]
      exact hkeys
    · rw [List.map_map]
      exact hholds.keys
    · intro e he
      have hmem : (e.pfx, e.routesHead) ∈ Multimap.ofList copies := by
        rw [← hvalues]
        exact List.mem_map_of_mem he
      exact Multimap.snd_ne_nil_of_mem_ofList hmem
    · have hsum := Multimap.sum_length_ofList copies
      rw [← hvalues, toMultimap, List.map_map] at hsum
      rw [hcopies.length_eq]
      exact hsum
  · intro addr
    refine ⟨_, routeListHashGetIn_eq hholds addr, ?_, ?_⟩
    · rw [Option.map_eq_none_iff, lookup_eq_none_iff, hkeys, mem_eraseDups]
    · intro loc hloc
      obtain ⟨x, hx, rfl⟩ := Option.map_eq_some_iff.mp hloc
      refine ⟨_, routesAt_eq hholds (mem_of_lookup hx), ?_⟩
      have hclones := forall₂_of_lookup hcopies hvalues hx
      have hadds : ∀ add ∈ (adds.filter fun add => add.1 = addr).reverse, add.2.copied = true :=
        fun add hadd => hsame add (List.mem_filter.mp (List.mem_reverse.mp hadd)).1
      exact ((List.forall₂_and_left _ _).mpr ⟨hadds, hclones⟩).imp
        fun _ _ hboth => sameRoute_of_copied hboth.1 hboth.2
  · rintro before after memory₀ rfl hbefore addr loc hloc
    have hafter : (addRoutes after).run memory₀ = (.ok (), memory) := by
      rw [addRoutes, List.forM_append] at hrun
      rwa [← addRoutes, Prog.run_bind_ok hbefore] at hrun
    exact found_again hbefore hafter hloc

/-- The hash is a faithful multimap exactly when every route that is added is
copied as it is. -/
theorem faithfulMultimap_iff (adds : List (NlAddr × Route)) :
    (∃ memory, (addRoutes adds).run {} = (.ok (), memory) ∧ FaithfulMultimap adds memory) ↔
      ∀ add ∈ adds, add.2.copied = true := by
  constructor
  · rintro ⟨memory, hrun, hfaithful⟩ add hadd
    obtain ⟨copies, hcopies⟩ := copied_of_addRoutes hrun
    obtain ⟨_, buckets, hrun', hholds, -, hvalues⟩ := holdsHash_addRoutes hcopies holdsHash_init
    obtain rfl := (Prod.mk.inj (hrun.symm.trans hrun')).2
    -- what is found for the prefix is a clone, and the same
    obtain ⟨found, hget, hnone, hroutes⟩ := hfaithful.get add.1
    rw [routeListHashGetIn_eq hholds] at hget
    obtain rfl := Exit.ok.inj hget
    cases hx : lookup PlacedBucket.pfx add.1 buckets with
    | none =>
        rw [hx] at hnone
        exact absurd (List.mem_map_of_mem hadd) (hnone.mp rfl)
    | some x =>
        obtain ⟨routes, hread, hsame⟩ := hroutes x.1 (by rw [hx]; rfl)
        rw [routesAt_eq hholds (mem_of_lookup hx)] at hread
        obtain rfl := Exit.ok.inj hread
        have hclones := forall₂_of_lookup hcopies hvalues hx
        obtain ⟨copy, -, hclone, hcopy⟩ := exists_of_forall₂_left (forall₂_and hclones hsame)
          (List.mem_reverse.mpr (List.mem_filter.mpr ⟨hadd, by simp⟩))
        exact (copied_iff add.2).mp ⟨copy, hclone, hcopy⟩
  · intro hsame
    obtain ⟨copies, hcopies⟩ := exists_copies hsame
    exact faithfulMultimap_of_same hcopies hsame

end Faithful

/-- A route with a gateway alone cannot be added. -/
theorem gatewayRoute_not_added : ¬ ∃ memory,
    (addRoutes [(addr4 0x0a000000 8,
      { nextHop := { kind := .simple, simple := { addr := addr4 0xc0000201 32 } } })]).run {} =
        (.ok (), memory) ∧
      FaithfulMultimap [(addr4 0x0a000000 8,
        { nextHop := { kind := .simple, simple := { addr := addr4 0xc0000201 32 } } })] memory := by
  rintro ⟨memory, hrun, -⟩
  cases hrun

end SysrepoInterfaces.Routing
