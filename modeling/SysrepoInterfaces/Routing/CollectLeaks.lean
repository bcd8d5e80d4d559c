import SysrepoInterfaces.Routing.Clone
import SysrepoInterfaces.Routing.Collect
import SysrepoInterfaces.Routing.CollectHeap

/-!
# SysrepoInterfaces.Routing.CollectLeaks

What a request for the kernel's routes leaves allocated.  `foreach_nexthop`
copies the name of the interface and hands the copy to a function that copies
it again; when it cannot connect or fill its link cache it returns without its
socket.  Everything else that was collected is released with the RIB list.
-/

namespace SysrepoInterfaces.Routing.Owned

open CProg Ownership

/-! ## what is lost -/

/-- What the n-th run of `foreach_nexthop` leaves allocated. -/
def hopLeak (env : RoutingEnv) (n : Nat) (nh : RtnlNexthop) : List Piece :=
  if freshOk env n then [.text ((env.links (rtnlRouteNhGetIfindex nh)).getD "")]
  else if env.fresh n .nlSocketAlloc then [.socket]
  else []

/-- What the runs for a list of next hops leave allocated. -/
def hopsLeak (env : RoutingEnv) (n : Nat) (nhs : List RtnlNexthop) : List Piece :=
  (numbered (fun _ => 1) n nhs).flatMap fun p => hopLeak env p.1 p.2

/-- What collecting the next hops of a unicast route leaves allocated. -/
def nexthopsLeak (env : RoutingEnv) (n : Nat) : List RtnlNexthop → List Piece
  | [_] => []
  | nhs => hopsLeak env n nhs

/-- What collecting the routes of a cache leaves allocated. -/
def routesLeak (env : RoutingEnv) (n : Nat) (routesCache : List RtnlRoute) : List Piece :=
  (numberedRoutes unicastHops n routesCache).flatMap fun p => nexthopsLeak env p.1 (unicastHops p.2)

theorem hopsLeak_cons (env : RoutingEnv) (n : Nat) (nh : RtnlNexthop) (nhs : List RtnlNexthop) :
    hopsLeak env n (nh :: nhs) = hopLeak env n nh ++ hopsLeak env (n + 1) nhs := rfl

theorem routesLeak_cons (env : RoutingEnv) (n : Nat) (route : RtnlRoute)
    (routes : List RtnlRoute) :
    routesLeak env n (route :: routes) = nexthopsLeak env n (unicastHops route) ++
      routesLeak env (n + nexthopRuns (unicastHops route)) routes := rfl

/-! ## calls -/

theorem tracks_call (c : Call) (ok : Bool) (s : RoutingState) :
    Tracks (κ := Piece) (embed (call c ok)) (call c ok) s []
      (fun a b s' => a = ok ∧ b = ok ∧ s'.freshRuns = s.freshRuns ∧ s'.calls = s.calls)
      (fun _ => []) [] fun _ => False := by
  have herr : ∀ s', (call c ok).run s = (.error, s') → False := by
    intro s' h
    rw [run_call] at h
    cases h
  refine (tracks_embed (call c ok) s herr).weaken ?_ fun _ h => h
  rintro a b s' ⟨hab, hrun⟩
  rw [run_call] at hrun
  cases hrun
  exact ⟨⟨hab, rfl, rfl, rfl⟩, List.Perm.refl _⟩

/-- A link that is found is referred to. -/
theorem tracks_rtnlLinkGetName (cache : LinkCache) (ifindex : Nat) (s : RoutingState) :
    Tracks (rtnlLinkGetName cache ifindex) (Routing.rtnlLinkGetName cache ifindex) s []
      (fun a b s' => a.2 = b ∧ cache ifindex = some b ∧ s'.freshRuns = s.freshRuns ∧
        s'.calls = s.calls)
      (fun a => [(a.1, .link ifindex)]) [] fun _ => False := by
  have hrun : ∀ b s', (Routing.rtnlLinkGetName cache ifindex).run s = (.ok b, s') →
      cache ifindex = some b ∧ s'.freshRuns = s.freshRuns ∧ s'.calls = s.calls := by
    intro b s' h
    rw [Routing.rtnlLinkGetName] at h
    cases hlink : cache ifindex with
    | none => rw [hlink] at h; cases h
    | some name => rw [hlink] at h; cases h; exact ⟨rfl, rfl, rfl⟩
  have herr : ∀ s', (Routing.rtnlLinkGetName cache ifindex).run s = (.error, s') → False := by
    intro s' h
    rw [Routing.rtnlLinkGetName] at h
    cases hlink : cache ifindex <;> rw [hlink] at h <;> cases h
  have hembed : Tracks (κ := Piece) _ _ s _ _ _ _ fun _ => False :=
    tracks_embed (Routing.rtnlLinkGetName cache ifindex) s herr
  rw [← bind_pure (Routing.rtnlLinkGetName cache ifindex)]
  refine hembed.seq (z := []) (List.Perm.refl _) ?_
  rintro a b s' ⟨hab, h⟩
  obtain ⟨hlink, hfresh, hcalls⟩ := hrun b s' h
  refine (does_alloc (Piece.link ifindex)).tracks (z := []) (List.Perm.refl _) fun iface _ => ?_
  exact tracks_pure ⟨hab, hlink, hfresh, hcalls⟩ (u := []) (by simp) rfl

/-! ## next hops -/

/-- A next hop container that is still empty or has become a list of named
next hops, with what it stands for. -/
structure SameList (a : RouteNextHop) (b : Routing.RouteNextHop) : Prop where
  kind : a.kind = b.kind
  list : b.kind = .none ∨ b.kind = .list ∧ a.value.listHead = b.listHead ∧ b.listHead ≠ [] ∧
    ∀ x ∈ b.listHead, x.ifName.isSome

/-- A next hop with what it stands for, which can be cloned. -/
structure SameNextHop (a : RouteNextHop) (b : Routing.RouteNextHop) : Prop where
  same : a.value.written b.kind = b.written b.kind
  copied : ∃ w, Routing.routeNextHopClone b = .ok w

theorem SameList.sameNextHop {a : RouteNextHop} {b : Routing.RouteNextHop} (h : SameList a b) :
    SameNextHop a b := by
  have hkind : a.value.kind = b.kind := h.kind
  rcases h.list with hnone | ⟨hlist, hhead, hne, hnames⟩
  · refine ⟨?_, {}, ?_⟩
    · rw [hnone]
      simp [Routing.RouteNextHop.written, hkind]
    · exact routeNextHopClone_none hnone
  · refine ⟨?_, _, routeNextHopClone_list hlist hne hnames⟩
    rw [hlist]
    simp [Routing.RouteNextHop.written, hkind, hhead]

/-- Appending to both keeps them the same. -/
theorem SameList.addList {a a' : RouteNextHop} {b : Routing.RouteNextHop} (h : SameList a b)
    {ifindex : Nat} {name : String} {gw : Option NlAddr}
    (hadd : Routing.routeNextHopAddList a.value ifindex (some name) gw = .ok a'.value) :
    ∃ b', Routing.routeNextHopAddList b ifindex (some name) gw = .ok b' ∧ SameList a' b' := by
  have hkind : a.value.kind = b.kind := h.kind
  rw [routeNextHopAddList_some] at hadd
  have hvalue := Exit.ok.inj hadd
  refine ⟨_, routeNextHopAddList_some b ifindex name gw, ?_, .inr ?_⟩
  · have hkind' := congrArg Routing.RouteNextHop.kind hvalue
    rw [← hkind]
    exact hkind'.symm
  · have hhead := congrArg Routing.RouteNextHop.listHead hvalue
    rcases h.list with hnone | ⟨hlist, hlisthead, hne, hnames⟩
    · simp only [hkind, hnone, if_true] at hhead ⊢
      exact ⟨trivial, hhead.symm, by simp, by simp⟩
    · have hne' : RouteNextHopKind.list ≠ .none := by decide
      simp only [hkind, hlist, if_neg hne', hlisthead] at hhead ⊢
      refine ⟨trivial, hhead.symm, by simp, ?_⟩
      intro x hx
      rcases List.mem_append.mp hx with hx | hx
      · exact hnames x hx
      · rw [List.mem_singleton.mp hx]
        rfl

/-- With its link cache open, `foreach_nexthop` appends the next hop. -/
theorem tracks_append (env : RoutingEnv) (nh : RtnlNexthop) {a : RouteNextHop}
    {b : Routing.RouteNextHop} (h : SameList a b) (socket linkCache : Nat) (s : RoutingState) :
    Tracks (do
        let (iface, name) ← rtnlLinkGetName env.links (rtnlRouteNhGetIfindex nh)
        let ifName ← xstrdup (some name)
        let ifNameText ← readText (some ifName)
        let nexthop ← routeNextHopAddList a (rtnlRouteNhGetIfindex nh) ifNameText nh.gateway
        release (iface, .link (rtnlRouteNhGetIfindex nh))
        release (linkCache, .cache)
        release (socket, .socket)
        return nexthop)
      (do
        let ifName ← Routing.rtnlLinkGetName env.links (rtnlRouteNhGetIfindex nh)
        Prog.lift (Routing.routeNextHopAddList b (rtnlRouteNhGetIfindex nh) (some ifName)
          nh.gateway))
      s ([(linkCache, .cache)] ++ [(socket, .socket)] ++ a.blocks)
      (fun a b s' => SameList a b ∧ s'.freshRuns = s.freshRuns) RouteNextHop.blocks
      [.text ((env.links (rtnlRouteNhGetIfindex nh)).getD "")] fun _ => False := by
  refine (tracks_rtnlLinkGetName env.links _ s).seq
    (z := [(linkCache, .cache)] ++ [(socket, .socket)] ++ a.blocks) (List.Perm.refl _) ?_
  rintro ⟨iface, name⟩ name' s' ⟨hname, hlink, hfresh, _⟩
  obtain rfl : name = name' := hname
  let held : List (Block Piece) :=
    [(iface, .link (rtnlRouteNhGetIfindex nh))] ++ ([(linkCache, .cache)] ++ [(socket, .socket)])
  refine (does_xstrdup name).tracks (z := held ++ a.blocks) ?_ fun ifName hifName => ?_
  · simp [held]
  refine (does_readText (some ifName)).tracks (z := held ++ a.blocks) (List.Perm.refl _) ?_
  intro text htext
  obtain rfl : text = some name := by rw [htext, Option.map_some, hifName]
  have hkind : a.kind = .none ∨ a.kind = .list := by
    rw [h.kind]
    exact h.list.imp id And.left
  refine (does_routeNextHopAddList hkind (rtnlRouteNhGetIfindex nh) name nh.gateway).tracks
    (z := held ++ [textBlock ifName]) ?_ ?_
  · refine perm_of_count fun b => ?_
    simp only [textBlocks, Option.map_some, Option.toList_some, List.count_append]
    omega
  rintro a' ⟨_, hadd⟩
  obtain ⟨b', hadd', hsame⟩ := h.addList hadd
  have hlift : Prog.lift (Routing.routeNextHopAddList b (rtnlRouteNhGetIfindex nh) (some name)
      nh.gateway) = (pure b' : RoutingM Routing.RouteNextHop) := by
    rw [hadd']
    rfl
  rw [hlift]
  refine (does_release (iface, Piece.link (rtnlRouteNhGetIfindex nh))).tracks
    (z := [(linkCache, .cache)] ++ [(socket, .socket)] ++ (a'.blocks ++ [textBlock ifName])) ?_ ?_
  · refine perm_of_count fun b => ?_
    simp only [held, List.count_append]
    omega
  intro _ _
  refine (does_release (linkCache, Piece.cache)).tracks
    (z := [(socket, .socket)] ++ (a'.blocks ++ [textBlock ifName])) (by simp) fun _ _ => ?_
  refine (does_release (socket, Piece.socket)).tracks (z := a'.blocks ++ [textBlock ifName])
    (by simp) fun _ _ => ?_
  refine tracks_pure ⟨hsame, hfresh⟩ (u := [textBlock ifName]) (List.Perm.refl _) ?_
  simp [textBlock, hifName, hlink]

/-- One run of `foreach_nexthop`. -/
theorem tracks_foreachNexthop (env : RoutingEnv) (nh : RtnlNexthop) {a : RouteNextHop}
    {b : Routing.RouteNextHop} (h : SameList a b) (s : RoutingState) :
    Tracks (foreachNexthop env a nh) (Routing.foreachNexthop env b nh) s a.blocks
      (fun a b s' => SameList a b ∧ s'.freshRuns = s.freshRuns + 1) RouteNextHop.blocks
      (hopLeak env s.freshRuns nh) fun _ => False := by
  generalize hleak : hopLeak env s.freshRuns nh = leak
  have hget : Tracks (κ := Piece) _ _ s _ _ _ _ fun _ => False :=
    tracks_embed (Prog.get : RoutingM RoutingState) s nofun
  refine hget.seq (z := a.blocks) (List.Perm.refl _) ?_
  rintro s₀ s₀' s₁ ⟨hs₀, hrun⟩
  subst hs₀
  cases hrun
  have hmodify : Tracks (κ := Piece) _ _ s _ _ _ _ fun _ => False :=
    tracks_embed (Prog.modify fun s : RoutingState => { s with freshRuns := s.freshRuns + 1 }) s
      nofun
  refine hmodify.seq (z := a.blocks) (List.Perm.refl _) ?_
  rintro _ _ s₁ ⟨_, hrun⟩
  cases hrun
  refine (tracks_call .nlSocketAlloc _ _).seq (z := a.blocks) (List.Perm.refl _) ?_
  rintro ok ok' s₂ ⟨hok, hok', hfresh₂, _⟩
  subst hok hok'
  have hruns₂ : s₂.freshRuns = s.freshRuns + 1 := hfresh₂
  cases halloc : env.fresh s.freshRuns .nlSocketAlloc with
  | false =>
      refine tracks_pure ⟨h, hruns₂⟩ (u := []) (by simp) ?_
      rw [← hleak]
      simp [hopLeak, freshOk, halloc]
  | true =>
      refine (does_alloc Piece.socket).tracks (z := a.blocks) (List.Perm.refl _) ?_
      intro socket _
      refine (tracks_call .nlConnect _ _).seq (z := [(socket, .socket)] ++ a.blocks)
        (List.Perm.refl _) ?_
      rintro ok ok' s₃ ⟨hok, hok', hfresh₃, _⟩
      subst hok hok'
      have hruns₃ : s₃.freshRuns = s.freshRuns + 1 := hfresh₃.trans hruns₂
      have hunopened : freshOk env s.freshRuns = false → [Piece.socket] = leak := by
        intro hok
        rw [← hleak]
        simp [hopLeak, hok, halloc]
      have hperm : ([] ++ ([(socket, Piece.socket)] ++ a.blocks)).Perm
          (a.blocks ++ [(socket, Piece.socket)]) := by
        rw [List.nil_append]
        exact List.perm_append_comm
      cases hconnect : env.fresh s.freshRuns .nlConnect with
      | false =>
          refine tracks_pure ⟨h, hruns₃⟩ (u := [(socket, Piece.socket)]) hperm ?_
          exact hunopened (by simp [freshOk, hconnect])
      | true =>
          refine (tracks_call .rtnlLinkAllocCache _ _).seq (z := [(socket, .socket)] ++ a.blocks)
            (List.Perm.refl _) ?_
          rintro ok ok' s₄ ⟨hok, hok', hfresh₄, _⟩
          subst hok hok'
          have hruns₄ : s₄.freshRuns = s.freshRuns + 1 := hfresh₄.trans hruns₃
          cases hcache : env.fresh s.freshRuns .rtnlLinkAllocCache with
          | false =>
              refine tracks_pure ⟨h, hruns₄⟩ (u := [(socket, Piece.socket)]) hperm ?_
              exact hunopened (by simp [freshOk, hcache])
          | true =>
              have hopened : [.text ((env.links (rtnlRouteNhGetIfindex nh)).getD "")] = leak := by
                rw [← hleak]
                simp [hopLeak, freshOk, halloc, hconnect, hcache]
              rw [← hopened]
              refine (does_alloc Piece.cache).tracks (z := [(socket, .socket)] ++ a.blocks)
                (List.Perm.refl _) ?_
              intro linkCache _
              refine ((tracks_append env nh h socket linkCache s₄).weaken ?_ fun _ h => h).perm
                (by simp)
              rintro _ _ _ ⟨hsame, hruns⟩
              exact ⟨⟨hsame, hruns.trans hruns₄⟩, List.Perm.refl _⟩

theorem tracks_foldlM_foreachNexthop (env : RoutingEnv) (nhs : List RtnlNexthop)
    {a : RouteNextHop} {b : Routing.RouteNextHop} (h : SameList a b) (s : RoutingState) :
    Tracks (nhs.foldlM (foreachNexthop env) a) (nhs.foldlM (Routing.foreachNexthop env) b) s
      a.blocks (fun a b s' => SameList a b ∧ s'.freshRuns = s.freshRuns + nhs.length)
      RouteNextHop.blocks (hopsLeak env s.freshRuns nhs) fun _ => False := by
  induction nhs generalizing a b s with
  | nil => exact tracks_pure ⟨h, rfl⟩ (u := []) (by simp) rfl
  | cons nh nhs ih =>
      rw [List.foldlM_cons, List.foldlM_cons, hopsLeak_cons]
      refine (tracks_foreachNexthop env nh h s).seq (z := []) (by simp) ?_
      rintro a' b' s' ⟨hsame, hruns⟩
      have hrest := ih hsame s'
      rw [hruns] at hrest
      refine (hrest.weaken ?_ fun _ h => h).perm (by simp)
      rintro _ _ _ ⟨hsame, hruns⟩
      exact ⟨⟨hsame, by rw [hruns, List.length_cons]; omega⟩, List.Perm.refl _⟩

/-- The one next hop of a route. -/
theorem tracks_simple (env : RoutingEnv) (linkCache : LinkCache) (nh : RtnlNexthop)
    (a : RouteNextHop) (b : Routing.RouteNextHop) (s : RoutingState) :
    Tracks (collectNexthops env linkCache a [nh]) (Routing.collectNexthops env linkCache b [nh]) s
      [] (fun a b s' => SameNextHop a b ∧ s'.freshRuns = s.freshRuns) RouteNextHop.blocks []
      fun _ => False := by
  refine (tracks_rtnlLinkGetName linkCache _ s).seq (z := []) (by simp) ?_
  rintro ⟨iface, name⟩ name' s' ⟨hname, _, hruns, _⟩
  obtain rfl : name = name' := hname
  refine (does_routeNextHopSetSimple a (rtnlRouteNhGetIfindex nh) name nh.gateway).tracks
    (z := [(iface, .link (rtnlRouteNhGetIfindex nh))]) (by simp) fun a' ha' => ?_
  have hvalue := Exit.ok.inj ha'
  refine (does_release (iface, Piece.link (rtnlRouteNhGetIfindex nh))).tracks (z := a'.blocks)
    List.perm_append_comm fun _ _ => ?_
  refine tracks_pure ⟨⟨?_, _, routeNextHopClone_simple rfl rfl⟩, hruns⟩ (u := []) (by simp) rfl
  rw [← hvalue]
  rfl

/-- The next hops of a unicast route. -/
theorem tracks_collectNexthops (env : RoutingEnv) (linkCache : LinkCache)
    (nhs : List RtnlNexthop) {a : RouteNextHop} {b : Routing.RouteNextHop} (ha : a.kind = .none)
    (hb : b.kind = .none) (s : RoutingState) :
    Tracks (collectNexthops env linkCache a nhs) (Routing.collectNexthops env linkCache b nhs) s []
      (fun a b s' => SameNextHop a b ∧ s'.freshRuns = s.freshRuns + nexthopRuns nhs)
      RouteNextHop.blocks (nexthopsLeak env s.freshRuns nhs) fun _ => False := by
  have hlist : ∀ nhs : List RtnlNexthop,
      Tracks (nhs.foldlM (foreachNexthop env) a) (nhs.foldlM (Routing.foreachNexthop env) b) s []
        (fun a b s' => SameNextHop a b ∧ s'.freshRuns = s.freshRuns + nhs.length)
        RouteNextHop.blocks (hopsLeak env s.freshRuns nhs) fun _ => False := by
    intro nhs
    have hempty : SameList a b := ⟨ha.trans hb.symm, .inl hb⟩
    refine ((tracks_foldlM_foreachNexthop env nhs hempty s).weaken ?_ fun _ h => h).perm ?_
    · rintro _ _ _ ⟨hsame, hruns⟩
      exact ⟨⟨hsame.sameNextHop, hruns⟩, List.Perm.refl _⟩
    · simp [RouteNextHop.blocks, ha]
  rcases nhs with _ | ⟨nh, _ | ⟨nh', nhs⟩⟩
  · exact hlist []
  · exact tracks_simple env linkCache nh a b s
  · exact hlist (nh :: nh' :: nhs)

theorem tracks_collectNextHop (env : RoutingEnv) (linkCache : LinkCache) (route : RtnlRoute)
    {a : RouteNextHop} {b : Routing.RouteNextHop} (ha : a.kind = .none) (hb : b.kind = .none)
    (s : RoutingState) :
    Tracks (collectNextHop env linkCache a route) (Routing.collectNextHop env linkCache b route) s
      [] (fun a b s' => SameNextHop a b ∧
        s'.freshRuns = s.freshRuns + nexthopRuns (unicastHops route))
      RouteNextHop.blocks (nexthopsLeak env s.freshRuns (unicastHops route)) fun _ => False := by
  unfold collectNextHop Routing.collectNextHop
  cases hspecial : specialNextHop route.type with
  | none =>
      have hhops : unicastHops route = route.nexthops := by simp [unicastHops, hspecial]
      rw [hhops]
      exact tracks_collectNexthops env linkCache route.nexthops ha hb s
  | some value =>
      have hhops : unicastHops route = [] := by simp [unicastHops, hspecial]
      rw [hhops]
      refine (does_routeNextHopSetSpecial a (some value)).tracks (z := []) (by simp) ?_
      intro a' ha'
      refine tracks_pure ⟨⟨?_, _, routeNextHopClone_special rfl⟩, rfl⟩ (u := []) (by simp) rfl
      rw [ha']
      rfl

/-! ## routes -/

/-- A route that was filled, with what it stands for. -/
structure SameRoute (a : Route) (b : Routing.Route) : Prop where
  fields : a.value = { b with nextHop := a.nextHop.value }
  lastUpdated : a.metadata.lastUpdated = none
  nextHop : SameNextHop a.nextHop b.nextHop

/-- The body of the route loop starts from an empty route, whatever it was
given. -/
theorem tracks_collectRoute (env : RoutingEnv) (linkCache : LinkCache) (a : Route)
    (b : Routing.Route) (route : RtnlRoute) (s : RoutingState) :
    Tracks (collectRoute env linkCache a route) (Routing.collectRoute env linkCache b route) s []
      (fun a b s' => SameRoute a b ∧ s'.freshRuns = s.freshRuns + nexthopRuns (unicastHops route))
      Route.blocks (nexthopsLeak env s.freshRuns (unicastHops route)) fun _ => False := by
  rw [← List.append_nil (nexthopsLeak env s.freshRuns (unicastHops route))]
  refine (tracks_collectNextHop env linkCache route rfl rfl s).seq (z := []) (by simp) ?_
  rintro nextHop nextHop' s' ⟨hsame, hruns⟩
  have hfill : ∀ proto : String, Tracks
      (routeSetSourceProtocol { preference := route.priority, nextHop := nextHop } (some proto))
      (pure (Routing.routeSetSourceProtocol
        { preference := route.priority, nextHop := nextHop' } (some proto))) s'
      (nextHop.blocks ++ []) (fun a b s' => SameRoute a b ∧
        s'.freshRuns = s.freshRuns + nexthopRuns (unicastHops route)) Route.blocks []
      fun _ => False := by
    intro proto
    refine (does_xstrdup proto).tracks (z := nextHop.blocks) (by simp) fun text htext => ?_
    refine tracks_pure ⟨⟨?_, rfl, hsame⟩, hruns⟩ (u := []) ?_ rfl
    · simp [Route.value, RouteMetadata.value, Routing.routeSetSourceProtocol, htext]
    · simp [Route.blocks, RouteMetadata.blocks, textBlocks]
  by_cases hstatic : route.protocol = RTPROT_STATIC
  · simp only [if_pos hstatic]
    exact hfill "ietf-routing:static"
  · simp only [if_neg hstatic]
    exact hfill "ietf-routing:direct"

/-! ## the RIB list -/

theorem lookup_ribValue (head : List (Ptr Rib)) (k : RibName × Nat) :
    Keyed.lookup Rib.key k (head.map ribValue) = (Keyed.lookup ribKey k head).map ribValue :=
  Keyed.lookup_map ribValue head

theorem value_ribListUpdate {f : Rib → Rib} {g : Routing.Rib → Routing.Rib}
    (h : ∀ rib : Ptr Rib, g (ribValue rib) = ribValue { rib with val := f rib.val })
    (head : List (Ptr Rib)) (name : RibName) (af : Nat) :
    (ribListUpdate head name af f).map ribValue =
      Routing.ribListUpdate (head.map ribValue) name af g := by
  have hmap : Keyed.adjust Rib.key (name, af) g (head.map ribValue) =
      (Keyed.adjust ribKey (name, af) (fun rib => { rib with val := f rib.val }) head).map
        ribValue := Keyed.adjust_map h head
  exact hmap.symm

theorem key_ribListUpdate {f : Rib → Rib}
    (h : ∀ rib, ((f rib).name, (f rib).addressFamily) = (rib.name, rib.addressFamily))
    (head : List (Ptr Rib)) (name : RibName) (af : Nat) :
    (ribListUpdate head name af f).map ribKey = head.map ribKey :=
  Keyed.map_adjust fun rib => h rib.val

theorem does_ribListAdd (head : List (Ptr Rib)) (name : RibName) (af : Nat) :
    Does (ribListAdd head name af) (head.flatMap ribBlocks)
      (fun out => out.map ribValue = Routing.ribListAdd (head.map ribValue) name af)
      fun out => out.flatMap ribBlocks := by
  unfold ribListAdd ribListGet Routing.ribListAdd Keyed.ensure
  rw [lookup_ribValue]
  cases Keyed.lookup ribKey (name, af) head with
  | some rib => exact does_pure rfl (List.Perm.refl _)
  | none =>
      refine (does_alloc Piece.rib).bind (z := head.flatMap ribBlocks) (List.Perm.refl _) ?_
      intro new _
      refine does_pure ?_ ?_
      · simp [ribValue]
      · rw [List.flatMap_append]
        exact List.perm_append_comm

/-- One round of the loop that adds the RIBs. -/
theorem does_collectRib (env : RoutingEnv) (head : List (Ptr Rib)) (route : RtnlRoute) :
    Does (collectRib env head route) (head.flatMap ribBlocks)
      (fun out => out.map ribValue = Routing.collectRib env (head.map ribValue) route)
      fun out => out.flatMap ribBlocks := by
  refine (does_ribListAdd head (env.table2str route.table) route.family).bind (z := []) (by simp) ?_
  intro added hadded
  have hdefault : (ribListSetDefault added (env.table2str route.table) route.family true).2.map
        ribValue = (Routing.ribListSetDefault (added.map ribValue) (env.table2str route.table)
          route.family true).2 ∧
      (ribListSetDefault added (env.table2str route.table) route.family true).2.flatMap
        ribBlocks = added.flatMap ribBlocks := by
    unfold ribListSetDefault ribListGet Routing.ribListSetDefault Routing.ribListGet
    rw [lookup_ribValue]
    cases Keyed.lookup ribKey (env.table2str route.table, route.family) added with
    | none => exact ⟨rfl, rfl⟩
    | some rib =>
        simp only [Option.map_some]
        refine ⟨value_ribListUpdate (fun _ => rfl) added _ _, ?_⟩
        rw [List.flatMap_def, List.flatMap_def]
        exact congrArg List.flatten (Keyed.map_adjust fun _ => rfl)
  have hvalue : Routing.collectRib env (head.map ribValue) route =
      if strPrefix "main" (env.table2str route.table).text then
        (Routing.ribListSetDefault (added.map ribValue) (env.table2str route.table) route.family
          true).2
      else added.map ribValue := by
    rw [hadded]
    rfl
  rw [hvalue]
  by_cases hmain : strPrefix "main" (env.table2str route.table).text
  · simp only [if_pos hmain]
    exact does_pure hdefault.1 (by simp [hdefault.2])
  · simp only [if_neg hmain]
    exact does_pure rfl (by simp)

theorem does_foldlM_collectRib (env : RoutingEnv) (routesCache : List RtnlRoute)
    (head : List (Ptr Rib)) :
    Does (routesCache.foldlM (collectRib env) head) (head.flatMap ribBlocks)
      (fun out => out.map ribValue = routesCache.foldl (Routing.collectRib env) (head.map ribValue))
      fun out => out.flatMap ribBlocks := by
  induction routesCache generalizing head with
  | nil => exact does_pure rfl (List.Perm.refl _)
  | cons route routesCache ih =>
      rw [List.foldlM_cons, List.foldl_cons]
      refine (does_collectRib env head route).bind (z := []) (by simp) fun head' hhead' => ?_
      rw [← hhead']
      exact (ih head').perm (by simp)

theorem ribValue_ribBuildDescription (env : RoutingEnv) (rib : Ptr Rib) :
    ribValue (ribBuildDescription env rib) = Routing.ribBuildDescription env (ribValue rib) := by
  have hrest : ∀ rib : Routing.Rib, Routing.ribBuildDescription env rib =
      { rib with description := (Routing.ribBuildDescription env rib).description } := by
    intro rib
    rw [Routing.ribBuildDescription]
    split <;> rfl
  rw [hrest (ribValue rib)]
  rfl

/-- `routing_collect_ribs` allocates the RIBs. -/
theorem does_routingCollectRibs (env : RoutingEnv) (routesCache : List RtnlRoute)
    (head : List (Ptr Rib)) :
    Does (routingCollectRibs env routesCache head) (head.flatMap ribBlocks)
      (fun out => (out.1, out.2.map ribValue) =
        Routing.routingCollectRibs env routesCache (head.map ribValue))
      fun out => out.2.flatMap ribBlocks := by
  refine (does_foldlM_collectRib env routesCache head).bind (z := []) (by simp) ?_
  intro out hout
  refine does_pure ?_ ?_
  · rw [Routing.routingCollectRibs, Routing.routingBuildRibDescriptions, ← hout, List.map_map,
      List.map_map]
    exact congrArg (Prod.mk 0) (List.map_congr_left fun rib _ =>
      ribValue_ribBuildDescription env rib)
  · rw [List.flatMap_map, List.append_nil]
    exact List.Perm.refl _

end SysrepoInterfaces.Routing.Owned
