import SysrepoInterfaces.Routing.RouteHeap

/-!
# SysrepoInterfaces.Routing.RouteOwnership

Which blocks routes, next hops, the route hash and the RIB list own, and that
the functions on them allocate and release exactly these.  Each of them does to
the values what the function of the same name without a heap does.
-/

namespace SysrepoInterfaces.Routing.Owned

open CProg Ownership

/-! ## values -/

def RouteNextHopSimple.value (x : RouteNextHopSimple) : Routing.RouteNextHopSimple where
  addr := x.addr.map Ptr.val
  ifindex := x.ifindex
  ifName := x.ifName.map Ptr.val

def elementValue (element : Ptr RouteNextHopSimple) : Routing.RouteNextHopSimple :=
  element.val.value

def RouteNextHop.value (nh : RouteNextHop) : Routing.RouteNextHop where
  kind := nh.kind
  simple := nh.simple.value
  special := nh.special.map Ptr.val
  listHead := nh.listHead.map elementValue

def RouteMetadata.value (metadata : RouteMetadata) : Routing.RouteMetadata where
  sourceProtocol := metadata.sourceProtocol.map Ptr.val
  lastUpdated := metadata.lastUpdated.map Ptr.val
  description := metadata.description.map Ptr.val
  active := metadata.active

def Route.value (route : Route) : Routing.Route where
  preference := route.preference
  metadata := route.metadata.value
  nextHop := route.nextHop.value

def routeValue (route : Ptr Route) : Routing.Route := route.val.value

def bucketValue (e : Ptr RouteListHashElement) : Routing.RouteListHashElement where
  pfx := e.val.pfx.val
  routesHead := e.val.routesHead.map routeValue

def ribValue (rib : Ptr Rib) : Routing.Rib where
  name := rib.val.name
  description := rib.val.description
  addressFamily := rib.val.addressFamily
  defaultRib := rib.val.defaultRib
  routesHead := rib.val.routesHead.map bucketValue

/-! ## the blocks they own -/

def RouteNextHopSimple.blocks (x : RouteNextHopSimple) : List (Block Piece) :=
  addrBlocks x.addr ++ textBlocks x.ifName

def elementBlocks (element : Ptr RouteNextHopSimple) : List (Block Piece) :=
  element.val.blocks ++ [(element.addr, .nextHop)]

/-- The blocks of the member that the kind tells of. -/
def RouteNextHop.blocks (nh : RouteNextHop) : List (Block Piece) :=
  match nh.kind with
  | .none => []
  | .simple => nh.simple.blocks
  | .special => textBlocks nh.special
  | .list => nh.listHead.flatMap elementBlocks

def RouteMetadata.blocks (metadata : RouteMetadata) : List (Block Piece) :=
  textBlocks metadata.sourceProtocol ++ textBlocks metadata.lastUpdated ++
    textBlocks metadata.description

def Route.blocks (route : Route) : List (Block Piece) :=
  route.metadata.blocks ++ route.nextHop.blocks

def routeBlocks (route : Ptr Route) : List (Block Piece) :=
  route.val.blocks ++ [(route.addr, .route)]

def bucketBlocks (e : Ptr RouteListHashElement) : List (Block Piece) :=
  [addrBlock e.val.pfx] ++ e.val.routesHead.flatMap routeBlocks ++ [(e.addr, .bucket)]

def ribBlocks (rib : Ptr Rib) : List (Block Piece) :=
  rib.val.routesHead.flatMap bucketBlocks ++ [(rib.addr, .rib)]

/-! ## strings and addresses -/

theorem does_xstrdup (s : String) :
    Does (xstrdup (some s)) [] (fun p => p.val = s) fun p => [textBlock p] := by
  refine (does_alloc (Piece.text s)).bind (z := []) (by simp) fun addr _ => ?_
  exact does_pure rfl (List.Perm.refl _)

theorem does_nlAddrClone (a : NlAddr) :
    Does (nlAddrClone a) [] (fun p => p.val = a) fun p => [addrBlock p] := by
  refine (does_alloc (Piece.addr a)).bind (z := []) (by simp) fun addr _ => ?_
  exact does_pure rfl (List.Perm.refl _)

theorem does_cloneGateway (gw : Option NlAddr) :
    Does (cloneGateway gw) [] (fun p => p.map Ptr.val = gw) addrBlocks := by
  cases gw with
  | none => exact does_pure rfl (List.Perm.refl _)
  | some gw =>
      refine (does_nlAddrClone gw).bind (z := []) (by simp) fun p hp => ?_
      exact does_pure (by simp [hp]) (List.Perm.refl _)

theorem does_readText (p : Option (Ptr String)) :
    Does (readText p) (textBlocks p) (fun s => s = p.map Ptr.val) fun _ => textBlocks p := by
  refine (does_forM_touch fun _ hb => hb).bind (z := []) (by simp) fun _ _ => ?_
  exact does_pure rfl (by simp)

theorem does_readAddr (p : Option (Ptr NlAddr)) :
    Does (readAddr p) (addrBlocks p) (fun a => a = p.map Ptr.val) fun _ => addrBlocks p := by
  refine (does_forM_touch fun _ hb => hb).bind (z := []) (by simp) fun _ _ => ?_
  exact does_pure rfl (by simp)

theorem does_freeText (p : Option (Ptr String)) :
    Does (freeText p) (textBlocks p) (fun _ => True) fun _ => [] := does_forM_release _

theorem does_putAddr (p : Option (Ptr NlAddr)) :
    Does (putAddr p) (addrBlocks p) (fun _ => True) fun _ => [] := does_forM_release _

/-! ## next hops -/

theorem does_routeNextHopSetSimpleGateway (nh : RouteNextHop) (gw : Option NlAddr) :
    Does (routeNextHopSetSimpleGateway nh gw) []
      (fun out => out = { nh with
          kind := .simple, simple := { nh.simple with addr := out.simple.addr } } ∧
        out.simple.addr.map Ptr.val = gw) fun out => addrBlocks out.simple.addr := by
  refine (does_cloneGateway gw).bind (z := []) (by simp) fun addr haddr => ?_
  exact does_pure ⟨rfl, haddr⟩ (by simp)

theorem does_routeNextHopSetSimple (nh : RouteNextHop) (ifindex : Nat) (name : String)
    (gw : Option NlAddr) :
    Does (routeNextHopSetSimple nh ifindex (some name) gw) []
      (fun out => Routing.routeNextHopSetSimple nh.value ifindex (some name) gw = .ok out.value)
      RouteNextHop.blocks := by
  refine (does_routeNextHopSetSimpleGateway nh gw).bind (z := []) (by simp) fun out hout => ?_
  obtain ⟨hout, hgw⟩ := hout
  refine (does_xstrdup name).bind (z := addrBlocks out.simple.addr) (by simp) fun p hp => ?_
  refine does_pure ?_ ?_
  · rw [hout]
    simp only [Routing.routeNextHopSetSimple, Routing.routeNextHopSetSimpleInterface,
      Routing.routeNextHopSetSimpleGateway, RouteNextHop.value, RouteNextHopSimple.value,
      Routing.xstrdup, Option.map_some, hp, hgw, Exit.ok_bind, Exit.pure_eq]
  · rw [hout]
    exact List.perm_append_comm

theorem does_routeNextHopSetSpecial (nh : RouteNextHop) (value : Option String) :
    Does (routeNextHopSetSpecial nh value) (if value.isNone then textBlocks nh.special else [])
      (fun out => out.value = Routing.routeNextHopSetSpecial nh.value value)
      RouteNextHop.blocks := by
  cases value with
  | none => exact does_pure rfl (List.Perm.refl _)
  | some v =>
      refine (does_xstrdup v).bind (z := []) (by simp) fun p hp => ?_
      refine does_pure ?_ (List.Perm.refl _)
      simp [RouteNextHop.value, Routing.routeNextHopSetSpecial, hp]

theorem does_routeNextHopAddList {nh : RouteNextHop} (hkind : nh.kind = .none ∨ nh.kind = .list)
    (ifindex : Nat) (name : String) (gw : Option NlAddr) :
    Does (routeNextHopAddList nh ifindex (some name) gw) nh.blocks
      (fun out => out.kind = .list ∧
        Routing.routeNextHopAddList nh.value ifindex (some name) gw = .ok out.value)
      RouteNextHop.blocks := by
  have hvalue : ∀ (element : Nat) (p : Ptr String) (a : Option (Ptr NlAddr)) (nh' : RouteNextHop),
      p.val = name → a.map Ptr.val = gw →
      nh' = (if nh.kind = .none then { nh with listHead := [], kind := .list } else nh) →
      Routing.routeNextHopAddList nh.value ifindex (some name) gw = .ok (RouteNextHop.value
        { nh' with listHead := nh'.listHead ++
          [⟨element, { addr := a, ifindex := ifindex, ifName := some p }⟩] }) := by
    intro element p a nh' hp ha hnh'
    rw [routeNextHopAddList_some, hnh']
    rcases hkind with hkind | hkind
    · simp [RouteNextHop.value, RouteNextHopSimple.value, elementValue, hkind, hp, ha]
    · simp [RouteNextHop.value, RouteNextHopSimple.value, elementValue, hkind, hp, ha]
  have hblocks : ∀ nh' : RouteNextHop,
      nh' = (if nh.kind = .none then { nh with listHead := [], kind := .list } else nh) →
      nh'.kind = .list ∧ nh.blocks = nh'.listHead.flatMap elementBlocks := by
    intro nh' hnh'
    rw [hnh']
    rcases hkind with hkind | hkind
    · simp [RouteNextHop.blocks, hkind]
    · simp [RouteNextHop.blocks, hkind]
  unfold routeNextHopAddList
  extract_lets nh'
  obtain ⟨hlist, hown⟩ := hblocks nh' rfl
  rw [hown]
  refine (does_alloc Piece.nextHop).bind (z := nh'.listHead.flatMap elementBlocks)
    (List.Perm.refl _) fun element _ => ?_
  refine (does_xstrdup name).bind
    (z := [(element, .nextHop)] ++ nh'.listHead.flatMap elementBlocks)
    (List.Perm.refl _) fun p hp => ?_
  refine (does_cloneGateway gw).bind
    (z := [textBlock p] ++ ([(element, .nextHop)] ++ nh'.listHead.flatMap elementBlocks))
    (List.Perm.refl _) fun a ha => ?_
  refine does_pure ⟨hlist, hvalue element p a nh' hp ha rfl⟩ ?_
  have hnew : RouteNextHop.blocks { nh' with listHead := nh'.listHead ++
      [⟨element, { addr := a, ifindex := ifindex, ifName := some p }⟩] } =
      nh'.listHead.flatMap elementBlocks ++
        (addrBlocks a ++ [textBlock p] ++ [(element, .nextHop)]) := by
    simp [RouteNextHop.blocks, hlist, elementBlocks, RouteNextHopSimple.blocks, textBlocks]
  rw [hnew]
  refine perm_of_count fun b => ?_
  simp only [List.count_append]
  omega

/-! ## cloning and releasing next hops -/

theorem kind_written (nh : Routing.RouteNextHop) (kind : RouteNextHopKind) :
    (nh.written kind).kind = nh.kind := by
  cases kind <;> rfl

/-- A clone reads the member that the kind tells of, and no other. -/
theorem routeNextHopClone_congr {a b : Routing.RouteNextHop}
    (h : a.written b.kind = b.written b.kind) :
    Routing.routeNextHopClone a = Routing.routeNextHopClone b := by
  have hkind : a.kind = b.kind := by rw [← kind_written a b.kind, h, kind_written]
  have hread : ∀ nh : Routing.RouteNextHop,
      Routing.routeNextHopClone (nh.written nh.kind) = Routing.routeNextHopClone nh := by
    intro nh
    cases hk : nh.kind <;> simp only [Routing.routeNextHopClone, Routing.RouteNextHop.written, hk]
  rw [← hread a, ← hread b, hkind, h]

/-- The loop over a next hop list appends a copy of each element. -/
theorem does_cloneList {elements : List (Ptr RouteNextHopSimple)} {out : RouteNextHop}
    (hkind : out.kind = .none ∨ out.kind = .list) {w : Routing.RouteNextHop}
    (h : (elements.map elementValue).foldlM (fun out iter =>
      Routing.routeNextHopAddList out iter.ifindex iter.ifName iter.addr) out.value = .ok w) :
    Does (elements.foldlM (fun out iter => do
        let ifName ← readText iter.val.ifName
        let gw ← readAddr iter.val.addr
        routeNextHopAddList out iter.val.ifindex ifName gw) out)
      (out.blocks ++ elements.flatMap elementBlocks) (fun out => out.value = w)
      fun out => out.blocks ++ elements.flatMap elementBlocks := by
  induction elements generalizing out with
  | nil => exact does_pure (Exit.ok.inj h) (List.Perm.refl _)
  | cons x xs ih =>
      rw [List.map_cons, List.foldlM_cons] at h
      cases hname : x.val.ifName with
      | none =>
          have hcrash : Routing.routeNextHopAddList out.value (elementValue x).ifindex
              (elementValue x).ifName (elementValue x).addr = .crash := by
            simp only [Routing.routeNextHopAddList, elementValue, RouteNextHopSimple.value, hname,
              Option.map_none, Routing.xstrdup, Exit.crash_bind]
          rw [hcrash] at h
          cases h
      | some name =>
          rw [List.foldlM_cons]
          have hvalue : (elementValue x).ifName = some name.val := by
            simp [elementValue, RouteNextHopSimple.value, hname]
          rw [hvalue] at h
          have hread : Does (do
              let ifName ← readText x.val.ifName
              let gw ← readAddr x.val.addr
              routeNextHopAddList out x.val.ifindex ifName gw) (out.blocks ++ elementBlocks x)
              (fun out' => out'.kind = .list ∧ Routing.routeNextHopAddList out.value x.val.ifindex
                (some name.val) (x.val.addr.map Ptr.val) = .ok out'.value)
              fun out' => out'.blocks ++ elementBlocks x := by
            refine (does_readText x.val.ifName).bind
              (z := out.blocks ++ (addrBlocks x.val.addr ++ [(x.addr, .nextHop)])) ?_ ?_
            · refine perm_of_count fun b => ?_
              simp only [elementBlocks, RouteNextHopSimple.blocks, List.count_append]
              omega
            intro ifName hifName
            refine (does_readAddr x.val.addr).bind
              (z := out.blocks ++ (textBlocks x.val.ifName ++ [(x.addr, .nextHop)])) ?_ ?_
            · refine perm_of_count fun b => ?_
              simp only [List.count_append]
              omega
            intro gw hgw
            rw [hifName, hname, Option.map_some, hgw]
            refine ((does_routeNextHopAddList hkind x.val.ifindex name.val _).frame
              (elementBlocks x)).perm ?_ |>.weaken (fun _ h => h) fun _ _ => List.Perm.refl _
            refine perm_of_count fun b => ?_
            simp only [elementBlocks, RouteNextHopSimple.blocks, hname, List.count_append]
            omega
          refine hread.bind (z := xs.flatMap elementBlocks) (by simp) fun out' hout' => ?_
          obtain ⟨hlist, hadd⟩ := hout'
          have hadd' : Routing.routeNextHopAddList out.value (elementValue x).ifindex
              (some name.val) (elementValue x).addr = .ok out'.value := hadd
          rw [hadd', Exit.ok_bind] at h
          refine ((ih (.inr hlist) h).frame (elementBlocks x)).perm ?_ |>.weaken
            (fun _ h => h) fun _ _ => ?_
          · refine perm_of_count fun b => ?_
            simp only [List.count_append]
            omega
          · refine perm_of_count fun b => ?_
            simp only [List.flatMap_cons, List.count_append]
            omega

theorem does_routeNextHopClone (nh : RouteNextHop) {w : Routing.RouteNextHop}
    (h : Routing.routeNextHopClone nh.value = .ok w) :
    Does (routeNextHopClone nh) nh.blocks (fun out => out.value = w)
      fun out => out.blocks ++ nh.blocks := by
  have hkind : nh.value.kind = nh.kind := rfl
  unfold Routing.routeNextHopClone at h
  rw [hkind] at h
  unfold routeNextHopClone
  cases hk : nh.kind with
  | none =>
      rw [hk] at h
      refine does_pure (Exit.ok.inj h) ?_
      simp [RouteNextHop.blocks]
  | simple =>
      rw [hk] at h
      have hblocks : nh.blocks = addrBlocks nh.simple.addr ++ textBlocks nh.simple.ifName := by
        simp [RouteNextHop.blocks, hk, RouteNextHopSimple.blocks]
      rw [hblocks]
      refine (does_readText nh.simple.ifName).bind (z := addrBlocks nh.simple.addr)
        List.perm_append_comm fun ifName hifName => ?_
      refine (does_readAddr nh.simple.addr).bind (z := textBlocks nh.simple.ifName)
        List.perm_append_comm fun gw hgw => ?_
      rw [hifName, hgw]
      cases hname : nh.simple.ifName with
      | none =>
          have hcrash : nh.value.simple.ifName = none := by
            simp [RouteNextHop.value, RouteNextHopSimple.value, hname]
          simp only [hcrash] at h
          cases h
      | some name =>
          have hset := does_routeNextHopSetSimple {} nh.simple.ifindex name.val
            (nh.simple.addr.map Ptr.val)
          have hvalue : nh.value.simple.ifName = some name.val := by
            simp [RouteNextHop.value, RouteNextHopSimple.value, hname]
          simp only [hvalue] at h
          refine (hset.frame (addrBlocks nh.simple.addr ++ textBlocks (some name))).weaken ?_
            fun _ _ => List.Perm.refl _
          intro out hout
          have hout' := hout.symm.trans h
          exact Exit.ok.inj hout'
  | special =>
      rw [hk] at h
      have hblocks : nh.blocks = textBlocks nh.special := by simp [RouteNextHop.blocks, hk]
      rw [hblocks]
      refine (does_readText nh.special).bind (z := []) (by simp) fun value hvalue => ?_
      have hset := (does_routeNextHopSetSpecial {} value).frame (textBlocks nh.special)
      have hnew : (if value.isNone then textBlocks ({} : RouteNextHop).special else []) = [] := by
        split <;> rfl
      rw [hnew] at hset
      refine (hset.perm (by simp)).weaken ?_ fun _ _ => List.Perm.refl _
      intro out hout
      rw [hvalue] at hout
      exact hout.trans (Exit.ok.inj h)
  | list =>
      rw [hk] at h
      have hblocks : nh.blocks = nh.listHead.flatMap elementBlocks := by
        simp [RouteNextHop.blocks, hk]
      rw [hblocks]
      have hempty : ({} : RouteNextHop).kind = .none ∨ ({} : RouteNextHop).kind = .list := .inl rfl
      exact does_cloneList hempty h

theorem does_freeNextHopElement (element : Ptr RouteNextHopSimple) :
    Does (freeNextHopElement element) (elementBlocks element) (fun _ => True) fun _ => [] := by
  refine (does_putAddr element.val.addr).bind
    (z := textBlocks element.val.ifName ++ [(element.addr, .nextHop)]) ?_ fun _ _ => ?_
  · simp [elementBlocks, RouteNextHopSimple.blocks]
  · exact (does_freeText element.val.ifName).bind (List.Perm.refl _) fun _ _ => does_release _

/-- Everything a next hop owns is released. -/
theorem does_routeNextHopFree (nh : RouteNextHop) :
    Does (routeNextHopFree nh) nh.blocks (fun out => out.kind = .none) fun _ => [] := by
  unfold routeNextHopFree RouteNextHop.blocks
  cases nh.kind with
  | none => exact does_pure rfl (List.Perm.refl _)
  | simple =>
      refine (does_putAddr nh.simple.addr).bind (List.Perm.refl _) fun _ _ => ?_
      refine (does_freeText nh.simple.ifName).bind (z := []) (by simp) fun _ _ => ?_
      exact does_pure rfl (by simp)
  | special =>
      refine (does_freeText nh.special).bind (z := []) (by simp) fun _ _ => ?_
      exact does_pure rfl (by simp)
  | list =>
      have hloop := does_forM (σ := RoutingState) fun element (_ : element ∈ nh.listHead) =>
        does_freeNextHopElement element
      refine hloop.bind (z := []) (by simp) fun _ _ => ?_
      exact does_pure rfl (by simp)

/-! ## routes -/

theorem does_routeSetSourceProtocol {route : Route} (h : route.metadata.sourceProtocol = none)
    (proto : Option String) :
    Does (routeSetSourceProtocol route proto) []
      (fun out => out = { route with
          metadata := { route.metadata with sourceProtocol := out.metadata.sourceProtocol } } ∧
        out.metadata.sourceProtocol.map Ptr.val = proto)
      fun out => textBlocks out.metadata.sourceProtocol := by
  cases proto with
  | none => exact does_pure ⟨rfl, by simp [h]⟩ (by simp [h, textBlocks])
  | some p =>
      refine (does_xstrdup p).bind (z := []) (by simp) fun text htext => ?_
      exact does_pure ⟨rfl, by simp [htext]⟩ (by simp [textBlocks])

theorem does_routeSetDescription {route : Route} (h : route.metadata.description = none)
    (description : Option String) :
    Does (routeSetDescription route description) []
      (fun out => out = { route with
          metadata := { route.metadata with description := out.metadata.description } } ∧
        out.metadata.description.map Ptr.val = description)
      fun out => textBlocks out.metadata.description := by
  cases description with
  | none => exact does_pure ⟨rfl, by simp [h]⟩ (by simp [h, textBlocks])
  | some d =>
      refine (does_xstrdup d).bind (z := []) (by simp) fun text htext => ?_
      exact does_pure ⟨rfl, by simp [htext]⟩ (by simp [textBlocks])

/-- A route without a time of its last update is copied with everything it
owns, and keeps it. -/
theorem does_routeClone {route : Route} (hlast : route.metadata.lastUpdated = none)
    {w : Routing.RouteNextHop} (h : Routing.routeNextHopClone route.nextHop.value = .ok w) :
    Does (routeClone route) route.blocks
      (fun out => out.metadata.lastUpdated = none ∧ out.value = { route.value with nextHop := w })
      fun out => out.blocks ++ route.blocks := by
  have hblocks : route.blocks = textBlocks route.metadata.sourceProtocol ++
      textBlocks route.metadata.description ++ route.nextHop.blocks := by
    simp [Route.blocks, RouteMetadata.blocks, hlast, textBlocks]
  unfold routeClone
  rw [hblocks]
  refine (does_readText route.metadata.sourceProtocol).bind
    (z := textBlocks route.metadata.description ++ route.nextHop.blocks) ?_ fun proto hproto => ?_
  · rw [List.append_assoc]
  refine (does_routeSetSourceProtocol rfl proto).bind
    (z := textBlocks route.metadata.sourceProtocol ++
    (textBlocks route.metadata.description ++ route.nextHop.blocks)) (List.Perm.refl _) ?_
  intro out₁ hout₁
  obtain ⟨hout₁, hproto₁⟩ := hout₁
  rw [hlast]
  refine (does_readText none).bind (z := textBlocks out₁.metadata.sourceProtocol ++
    (textBlocks route.metadata.sourceProtocol ++
      (textBlocks route.metadata.description ++ route.nextHop.blocks))) (by simp [textBlocks]) ?_
  intro lastUp hlastUp
  rw [hlastUp, Option.map_none, routeSetLastUpdated, pure_bind]
  refine (does_readText route.metadata.description).bind
    (z := textBlocks out₁.metadata.sourceProtocol ++ textBlocks route.metadata.sourceProtocol ++
      route.nextHop.blocks) ?_ fun description hdescription => ?_
  · refine perm_of_count fun b => ?_
    have hnull : textBlocks none = [] := rfl
    simp only [hnull, List.count_append, List.count_nil]
    omega
  have hnone : out₁.metadata.description = none := by rw [hout₁]; rfl
  refine (does_routeSetDescription hnone description).bind
    (z := textBlocks route.metadata.description ++ (textBlocks out₁.metadata.sourceProtocol ++
      textBlocks route.metadata.sourceProtocol ++ route.nextHop.blocks)) (List.Perm.refl _) ?_
  intro out₂ hout₂
  obtain ⟨hout₂, hdescription₂⟩ := hout₂
  refine (does_routeNextHopClone route.nextHop h).bind
    (z := textBlocks out₂.metadata.description ++ (textBlocks route.metadata.description ++
      (textBlocks out₁.metadata.sourceProtocol ++ textBlocks route.metadata.sourceProtocol))) ?_ ?_
  · refine perm_of_count fun b => ?_
    simp only [List.count_append]
    omega
  intro nextHop hnextHop
  have hproto₂ : out₂.metadata.sourceProtocol = out₁.metadata.sourceProtocol := by rw [hout₂]
  have hlast₂ : out₂.metadata.lastUpdated = none := by rw [hout₂, hout₁]; rfl
  refine does_pure ⟨hlast₂, ?_⟩ ?_
  · have hpreference : out₂.preference = route.preference := by rw [hout₂, hout₁]; rfl
    have hactive : out₂.metadata.active = route.metadata.active := by rw [hout₂, hout₁]; rfl
    simp [Route.value, RouteMetadata.value, hnextHop, hpreference, hactive, hlast₂, hlast,
      hproto₂, hproto₁, hproto, hdescription₂, hdescription]
  · have hnone : textBlocks none = [] := rfl
    simp only [Route.blocks, RouteMetadata.blocks, hproto₂, hlast₂, hnone]
    refine perm_of_count fun b => ?_
    simp only [List.count_append, List.count_nil]
    omega

/-- Everything a route owns is released. -/
theorem does_routeFree (route : Route) :
    Does (routeFree route) route.blocks
      (fun out => out = { nextHop := out.nextHop } ∧ out.nextHop.kind = .none) fun _ => [] := by
  refine (does_freeText route.metadata.sourceProtocol).bind
    (z := textBlocks route.metadata.lastUpdated ++ (textBlocks route.metadata.description ++
      route.nextHop.blocks)) ?_ fun _ _ => ?_
  · simp [Route.blocks, RouteMetadata.blocks]
  refine (does_freeText route.metadata.lastUpdated).bind (List.Perm.refl _) fun _ _ => ?_
  refine (does_freeText route.metadata.description).bind (List.Perm.refl _) fun _ _ => ?_
  refine (does_routeNextHopFree route.nextHop).bind (z := []) (by simp) fun nextHop _ => ?_
  exact does_pure ⟨rfl, rfl⟩ (by simp)

/-! ## the route hash -/

theorem does_routeListAdd (head : List (Ptr Route)) {route : Route}
    (hlast : route.metadata.lastUpdated = none) {w : Routing.RouteNextHop}
    (h : Routing.routeNextHopClone route.nextHop.value = .ok w) :
    Does (routeListAdd head route) route.blocks
      (fun out => ∃ new, out = new :: head ∧ routeValue new = { route.value with nextHop := w })
      fun out => out.head?.toList.flatMap routeBlocks ++ route.blocks := by
  refine (does_alloc Piece.route).bind (z := route.blocks) (List.Perm.refl _) fun new _ => ?_
  refine (does_routeClone hlast h).bind (z := [(new, .route)]) List.perm_append_comm ?_
  intro copy hcopy
  refine does_pure ⟨_, rfl, hcopy.2⟩ ?_
  refine perm_of_count fun b => ?_
  simp only [List.head?_cons, Option.toList_some, List.flatMap_singleton, routeBlocks,
    List.count_append]
  omega

/-- Everything a route list owns is released. -/
theorem does_routeListFree (head : List (Ptr Route)) :
    Does (routeListFree head) (head.flatMap routeBlocks) (fun _ => True) fun _ => [] :=
  does_forM fun iter _ => (does_routeFree iter.val).bind (List.Perm.refl _) fun _ _ =>
    does_release _

theorem lookup_bucketValue (head : List (Ptr RouteListHashElement)) (addr : NlAddr) :
    Keyed.lookup Routing.RouteListHashElement.pfx addr (head.map bucketValue) =
      (Keyed.lookup bucketKey addr head).map bucketValue :=
  Keyed.lookup_map bucketValue head

/-- The hash takes over a copy of the route, in the bucket of its prefix. -/
theorem does_routeListHashAdd (head : List (Ptr RouteListHashElement)) (addr : NlAddr)
    {route : Route} (hlast : route.metadata.lastUpdated = none) {w : Routing.RouteNextHop}
    (h : Routing.routeNextHopClone route.nextHop.value = .ok w) :
    Does (routeListHashAdd head addr route) (head.flatMap bucketBlocks ++ route.blocks)
      (fun out => out.map bucketValue =
        routeListHashPush (head.map bucketValue) addr { route.value with nextHop := w })
      fun out => out.flatMap bucketBlocks ++ route.blocks := by
  unfold routeListHashAdd routeListHashGet
  cases hfind : Keyed.lookup bucketKey addr head with
  | none =>
      simp only [Option.map_none]
      refine (does_alloc Piece.bucket).bind (z := head.flatMap bucketBlocks ++ route.blocks)
        (List.Perm.refl _) fun new _ => ?_
      refine (does_nlAddrClone addr).bind
        (z := [(new, .bucket)] ++ (head.flatMap bucketBlocks ++ route.blocks))
        (List.Perm.refl _) fun pfx hpfx => ?_
      refine (does_routeListAdd [] hlast h).bind
        (z := [addrBlock pfx] ++ ([(new, .bucket)] ++ head.flatMap bucketBlocks)) ?_ ?_
      · refine perm_of_count fun b => ?_
        simp only [List.count_append]
        omega
      intro routesHead hroutes
      obtain ⟨cell, rfl, hcell⟩ := hroutes
      refine does_pure ?_ ?_
      · simp [routeListHashPush, Routing.routeListHashGet, lookup_bucketValue, hfind, bucketValue,
          hpfx, hcell]
      · refine perm_of_count fun b => ?_
        simp only [List.head?_cons, Option.toList_some, List.flatMap_append, List.flatMap_singleton,
          bucketBlocks, List.count_append]
        omega
  | some e =>
      simp only [Option.map_some]
      refine (does_routeListAdd e.val.routesHead hlast h).bind (z := head.flatMap bucketBlocks)
        List.perm_append_comm ?_
      intro routesHead hroutes
      obtain ⟨cell, rfl, hcell⟩ := hroutes
      obtain ⟨as, bs, hsplit, hadjust⟩ := Keyed.adjust_split hfind
      refine does_pure ?_ ?_
      · have hwrite : ∀ x : Ptr RouteListHashElement,
            ({ bucketValue x with
              routesHead := routeValue cell :: e.val.routesHead.map routeValue } :
                Routing.RouteListHashElement) =
              bucketValue { x with val := { x.val with routesHead := cell :: e.val.routesHead } } :=
          fun x => rfl
        have hpush : Keyed.adjust Routing.RouteListHashElement.pfx addr
            (fun x => { x with routesHead := routeValue cell :: e.val.routesHead.map routeValue })
              (head.map bucketValue) =
            (Keyed.adjust bucketKey addr (fun x => { x with
              val := { x.val with routesHead := cell :: e.val.routesHead } }) head).map
                bucketValue :=
          Keyed.adjust_map hwrite head
        simp only [routeListHashPush, Routing.routeListHashGet, lookup_bucketValue, hfind,
          Option.map_some, ← hcell]
        exact hpush.symm
      · rw [hadjust, hsplit]
        refine perm_of_count fun b => ?_
        simp only [List.head?_cons, Option.toList_some, List.flatMap_append, List.flatMap_nil,
          List.flatMap_cons, bucketBlocks, List.count_append, List.count_nil]
        omega

/-- Everything a route hash owns is released. -/
theorem does_routeListHashFree (head : List (Ptr RouteListHashElement)) :
    Does (routeListHashFree head) (head.flatMap bucketBlocks) (fun _ => True) fun _ => [] := by
  refine does_forM fun iter _ => ?_
  refine (does_release (addrBlock iter.val.pfx)).bind
    (z := iter.val.routesHead.flatMap routeBlocks ++ [(iter.addr, .bucket)]) ?_ fun _ _ => ?_
  · simp [bucketBlocks]
  · exact (does_routeListFree iter.val.routesHead).bind (List.Perm.refl _) fun _ _ =>
      does_release _

/-! ## the RIB list -/

/-- Everything a RIB list owns is released. -/
theorem does_ribListFree (head : List (Ptr Rib)) :
    Does (ribListFree head) (head.flatMap ribBlocks) (fun _ => True) fun _ => [] := by
  refine does_forM fun iter _ => ?_
  exact (does_routeListHashFree iter.val.routesHead).bind (List.Perm.refl _) fun _ _ =>
    does_release _

end SysrepoInterfaces.Routing.Owned
