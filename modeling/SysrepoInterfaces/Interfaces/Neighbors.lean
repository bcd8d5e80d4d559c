import SysrepoInterfaces.Interfaces.AddressOrigin

/-!
# SysrepoInterfaces.Interfaces.Neighbors

The callbacks for the neighbours of a link.  The list is taken from the
neighbour cache and breaks off at a neighbour that has no link layer address
yet; the callbacks for the leaves of a neighbour look it up in the cache again.
-/

namespace SysrepoInterfaces.Interfaces

open CProg Trace

/-! ## the neighbour cache -/

def NTF_ROUTER : UInt32 := 0x80

def NUD_INCOMPLETE : Int := 0x01
def NUD_REACHABLE : Int := 0x02
def NUD_STALE : Int := 0x04
def NUD_DELAY : Int := 0x08
def NUD_PROBE : Int := 0x10
def NUD_FAILED : Int := 0x20
def NUD_NOARP : Int := 0x40
def NUD_PERMANENT : Int := 0x80

/-- A neighbour as the operational callbacks read it. -/
structure OperNeigh where
  ifindex : Nat
  family : Nat
  /-- `rtnl_neigh_get_dst` -/
  dst : Option NlAddr
  /-- `rtnl_neigh_get_lladdr`: `NULL` as long as the neighbour is not resolved -/
  lladdr : Option NlAddr
  /-- `rtnl_neigh_get_flags` -/
  flags : UInt32
  /-- `rtnl_neigh_get_state`: -1 when it is not set -/
  state : Int
deriving DecidableEq, Repr

/-- `rtnl_neigh_get`. -/
def rtnlNeighGet (neighCache : List OperNeigh) (ifindex : Nat) (addr : NlAddr) :
    Option OperNeigh :=
  neighCache.find? fun neigh =>
    neigh.ifindex = ifindex ∧ neigh.family = addr.family ∧ neigh.dst = some addr

/-! ## the callbacks -/

/-- The nodes the callbacks add. -/
inductive NeighNode where
  | neighbor (family : IpFamily) (ip : String)
  | linkLayerAddress (family : IpFamily) (ip lladdr : String)
  | origin (family : IpFamily) (ip origin : String)
  | isRouter (ip : String)
  | state (ip state : String)
deriving DecidableEq, Repr

/-- What the callbacks leave behind. -/
structure NeighState where
  oper : OperState := {}
  /-- the nodes added, oldest first -/
  nodes : List NeighNode := []
deriving DecidableEq, Repr

abbrev NeighM := Prog NeighState

/-- A part that adds no node. -/
def neighOper {α : Type} (p : OperM α) : NeighM α :=
  ⟨fun s => ((p.run s.oper).1, { s with oper := (p.run s.oper).2 })⟩

/-- `interfaces_ly_tree_create_*`. -/
def createNeigh (lib : OperLib) (node : NeighNode) : NeighM Unit := do
  neighOper (operChecked lib .lyTreeCreate)
  Prog.modify fun s => { s with nodes := s.nodes ++ [node] }

/-- The loop body of the neighbour callbacks. -/
def addNeighbor (env : AddressEnv) (family : IpFamily) (link : OperLink) (neigh : OperNeigh) :
    NeighM Unit :=
  if neigh.ifindex = link.ifindex ∧ neigh.family = family.af then do
    let dst ← neighOper (operNotNull neigh.dst)
    let lladdr ← neighOper (operNotNull neigh.lladdr)
    createNeigh env.lib (.neighbor family (env.ipText dst))
    createNeigh env.lib (.linkLayerAddress family (env.ipText dst) (env.nlAddr2str lladdr))
  else return ()

def neighborsOf (env : AddressEnv) (family : IpFamily) (links : LinkCache)
    (neighCache : List OperNeigh) (name : String) : NeighM Int :=
  Prog.exitCode SR_ERR_CALLBACK_FAILED do
    neighOper (operChecked env.lib .lydPath)
    let link ← neighOper (interfacesGetCurrentLink env.lib links name)
    forM neighCache (addNeighbor env family link)

/-- `interfaces_subscription_operational_interfaces_interface_ipv4_neighbor`. -/
def interfaceIpv4Neighbor (env : AddressEnv) : LinkCache → List OperNeigh → String → NeighM Int :=
  neighborsOf env .ipv4

/-- `interfaces_subscription_operational_interfaces_interface_ipv6_neighbor`. -/
def interfaceIpv6Neighbor (env : AddressEnv) : LinkCache → List OperNeigh → String → NeighM Int :=
  neighborsOf env .ipv6

/-- The first part of the callbacks for a leaf, up to the neighbour. -/
def currentNeigh (env : AddressEnv) (family : IpFamily) (links : LinkCache)
    (neighCache : List OperNeigh) (name ip : String) : NeighM OperNeigh := do
  neighOper (operChecked env.lib .lydPath)
  let link ← neighOper (interfacesGetCurrentLink env.lib links name)
  neighOper (extractKey env.lib).require
  let addr ← neighOper (operNotNull (env.nlAddrParse family.af ip))
  neighOper (operNotNull (rtnlNeighGet neighCache link.ifindex addr))

def OperNeigh.isRouter (neigh : OperNeigh) : Bool := neigh.flags &&& NTF_ROUTER > 0

/-- `dynamic` is the origin of a router. -/
def neighborOrigin (neigh : OperNeigh) : String :=
  if neigh.isRouter then "dynamic" else "static"

def neighborOriginOf (env : AddressEnv) (family : IpFamily) (links : LinkCache)
    (neighCache : List OperNeigh) (name ip : String) : NeighM Int :=
  Prog.exitCode SR_ERR_CALLBACK_FAILED do
    let neigh ← currentNeigh env family links neighCache name ip
    createNeigh env.lib (.origin family ip (neighborOrigin neigh))

/-- `interfaces_subscription_operational_interfaces_interface_ipv4_neighbor_origin`. -/
def interfaceIpv4NeighborOrigin (env : AddressEnv) :
    LinkCache → List OperNeigh → String → String → NeighM Int := neighborOriginOf env .ipv4

/-- `interfaces_subscription_operational_interfaces_interface_ipv6_neighbor_origin`. -/
def interfaceIpv6NeighborOrigin (env : AddressEnv) :
    LinkCache → List OperNeigh → String → String → NeighM Int := neighborOriginOf env .ipv6

/-- `interfaces_subscription_operational_interfaces_interface_ipv6_neighbor_is_router`. -/
def interfaceIpv6NeighborIsRouter (env : AddressEnv) (links : LinkCache)
    (neighCache : List OperNeigh) (name ip : String) : NeighM Int :=
  Prog.exitCode SR_ERR_CALLBACK_FAILED do
    let neigh ← currentNeigh env .ipv6 links neighCache name ip
    if neigh.isRouter then createNeigh env.lib (.isRouter ip) else return ()

/-- The designated elements of `state_map`. -/
def stateNames : List (Int × String) := [
  (NUD_INCOMPLETE, "incomplete"),
  (NUD_REACHABLE, "reachable"),
  (NUD_STALE, "stale"),
  (NUD_DELAY, "delay"),
  (NUD_PROBE, "probe"),
  (NUD_FAILED, "failed"),
  (NUD_NOARP, "noarp"),
  (NUD_PERMANENT, "permanent")]

/-- `state_map[state]`: the other elements are `NULL`, and the last one is that
of `NUD_PERMANENT`. -/
def stateMap (state : Int) : Exit (Option String) :=
  if 0 ≤ state ∧ state ≤ NUD_PERMANENT then .ok (stateNames.lookup state) else .crash

/-- `interfaces_ly_tree_create_interfaces_interface_ipv6_neighbor_state`. -/
def createState (env : AddressEnv) (ip : String) (state : Option String) : NeighM Unit :=
  match state with
  | some state => createNeigh env.lib (.state ip state)
  | none =>
      if env.createsNull then createNeigh env.lib (.state ip "") else neighOper Prog.fail

/-- `interfaces_subscription_operational_interfaces_interface_ipv6_neighbor_state`. -/
def interfaceIpv6NeighborState (env : AddressEnv) (links : LinkCache)
    (neighCache : List OperNeigh) (name ip : String) : NeighM Int :=
  Prog.exitCode SR_ERR_CALLBACK_FAILED do
    let neigh ← currentNeigh env .ipv6 links neighCache name ip
    let state ← Prog.lift (stateMap neigh.state)
    if neigh.state ≠ NUD_FAILED ∧ neigh.state ≠ NUD_NOARP ∧ neigh.state ≠ NUD_PERMANENT then
      createState env ip state
    else return ()

/-! ## everything below the list -/

/-- The ips of the neighbours among some nodes. -/
def neighborIps (family : IpFamily) (nodes : List NeighNode) : List String :=
  nodes.filterMap fun
    | .neighbor family' ip => if family' = family then some ip else none
    | _ => none

/-- The callbacks for the leaves of a neighbour. -/
def neighLeaves (env : AddressEnv) (family : IpFamily) (links : LinkCache)
    (neighCache : List OperNeigh) (name ip : String) : NeighM Unit :=
  match family with
  | .ipv4 => (interfaceIpv4NeighborOrigin env links neighCache name ip).require
  | .ipv6 => do
      (interfaceIpv6NeighborOrigin env links neighCache name ip).require
      (interfaceIpv6NeighborIsRouter env links neighCache name ip).require
      (interfaceIpv6NeighborState env links neighCache name ip).require

/-- What sysrepo does for the neighbours of an interface: it asks for the list,
then for the leaves of each entry, until a callback fails. -/
def neighborSubtree (env : AddressEnv) (family : IpFamily) (links : LinkCache)
    (neighCache : List OperNeigh) (name : String) : NeighM Int :=
  Prog.exitCode SR_ERR_CALLBACK_FAILED do
    (neighborsOf env family links neighCache name).require
    let s ← Prog.get
    forM (neighborIps family s.nodes) (neighLeaves env family links neighCache name)

/-! ## what the callbacks give -/

/-- A neighbour cache: a neighbour with an address of the family is on one link
only once, under the whole address. -/
structure NeighCache (family : IpFamily) where
  neighs : List OperNeigh
  inFamily : ∀ neigh ∈ neighs, neigh.family = family.af → ∀ dst ∈ neigh.dst,
    InFamily family dst ∧ dst.prefixLen = family.width
  keys : ∀ n ∈ neighs, n.family = family.af → n.dst ≠ none → ∀ m ∈ neighs,
    m.ifindex = n.ifindex → m.family = n.family → m.dst = n.dst → m = n

/-- The text of a whole address is read back. -/
def AddressEnv.ReadsWhole (env : AddressEnv) (family : IpFamily) : Prop :=
  ∀ addr, InFamily family addr → addr.prefixLen = family.width →
    env.nlAddrParse family.af (env.ipText addr) = some addr

/-- A neighbour of a link. -/
def OperNeigh.On (neigh : OperNeigh) (family : IpFamily) (link : OperLink) : Prop :=
  neigh.ifindex = link.ifindex ∧ neigh.family = family.af

/-- What the list callback does for a neighbour. -/
def neighborOut (env : AddressEnv) (family : IpFamily) (link : OperLink) (neigh : OperNeigh) :
    Exit Unit × List NeighNode :=
  if neigh.ifindex = link.ifindex ∧ neigh.family = family.af then
    match neigh.dst, neigh.lladdr with
    | some dst, some lladdr => (.ok (), [.neighbor family (env.ipText dst),
        .linkLayerAddress family (env.ipText dst) (env.nlAddr2str lladdr)])
    | _, _ => (.error, [])
  else (.ok (), [])

/-- What the state callback does for a neighbour. -/
def stateOut (ip : String) (state : Int) : Exit Unit × List NeighNode :=
  match stateMap state with
  | .ok name =>
      if state = NUD_FAILED ∨ state = NUD_NOARP ∨ state = NUD_PERMANENT then (.ok (), [])
      else match name with
        | some name => (.ok (), [.state ip name])
        | none => (.error, [])
  | .error => (.error, [])
  | .crash => (.crash, [])

def isRouterNodes (ip : String) (neigh : OperNeigh) : List NeighNode :=
  if neigh.isRouter then [.isRouter ip] else []

/-- What the callbacks for the leaves do for a neighbour. -/
def leavesOut (family : IpFamily) (ip : String) (neigh : OperNeigh) :
    Exit Unit × List NeighNode :=
  match family with
  | .ipv4 => (.ok (), [.origin .ipv4 ip (neighborOrigin neigh)])
  | .ipv6 => ((stateOut ip neigh.state).1, .origin .ipv6 ip (neighborOrigin neigh) ::
      isRouterNodes ip neigh ++ (stateOut ip neigh.state).2)

section Gives

variable {env : AddressEnv} {family : IpFamily} {cache : NeighCache family} {links : LinkCache}
  {link : OperLink} {neigh : OperNeigh} {dst : NlAddr}

theorem gives_neighOper {α : Type} {p : OperM α} {a : α} (hp : Adds p a []) :
    Gives NeighState.nodes (neighOper p) (.ok a) [] := by
  intro s
  obtain ⟨calls, hrun⟩ := hp s.oper
  simp [neighOper, hrun]

theorem gives_neighOper_fails {α : Type} {p : OperM α} (hp : FailsWith p []) :
    Gives NeighState.nodes (neighOper p) .error [] := by
  intro s
  obtain ⟨calls, hrun⟩ := hp s.oper
  simp [neighOper, hrun]

theorem gives_createNeigh (hlib : env.lib.Succeeds) (node : NeighNode) :
    Gives NeighState.nodes (createNeigh env.lib node) (.ok ()) [node] :=
  (gives_neighOper (adds_operChecked hlib .lyTreeCreate)).before
    (f := fun _ => Prog.modify _) (gives_modify fun _ => rfl)

theorem gives_addNeighbor (hlib : env.lib.Succeeds) (neigh : OperNeigh) :
    Gives NeighState.nodes (addNeighbor env family link neigh)
      (neighborOut env family link neigh).1 (neighborOut env family link neigh).2 := by
  unfold addNeighbor neighborOut
  by_cases hon : neigh.ifindex = link.ifindex ∧ neigh.family = family.af
  · rw [if_pos hon, if_pos hon]
    cases neigh.dst with
    | none => exact (gives_neighOper_fails fails_operNotNull).error_bind
    | some dst =>
        refine (gives_neighOper (adds_operNotNull dst)).before (f := fun _ => _) ?_
        cases neigh.lladdr with
        | none => exact (gives_neighOper_fails fails_operNotNull).error_bind
        | some lladdr =>
            refine (gives_neighOper (adds_operNotNull lladdr)).before (f := fun _ => _) ?_
            exact (gives_createNeigh hlib _).bind (f := fun _ => _) (gives_createNeigh hlib _)
  · rw [if_neg hon, if_neg hon]
    exact gives_pure ()

/-- The list, up to a neighbour that is not resolved. -/
theorem gives_neighborsOf (hlib : env.lib.Succeeds) (hlink : link ∈ links.links)
    (neighCache : List OperNeigh) :
    Gives NeighState.nodes (neighborsOf env family links neighCache link.name).require
      (walk (neighborOut env family link) neighCache).1
      (walk (neighborOut env family link) neighCache).2 := by
  rw [neighborsOf, Prog.require_exitCode (by decide)]
  refine (gives_neighOper (adds_operChecked hlib .lydPath)).before (f := fun _ => _) ?_
  refine (gives_neighOper (adds_currentLink hlib hlink)).before
    (f := fun link : OperLink => forM neighCache (addNeighbor env family link)) ?_
  exact gives_forM fun neigh _ => gives_addNeighbor hlib neigh

/-- The neighbour is found again under the text of its address. -/
theorem rtnlNeighGet_eq (hneigh : neigh ∈ cache.neighs) (hon : neigh.On family link)
    (hdst : neigh.dst = some dst) :
    rtnlNeighGet cache.neighs link.ifindex dst = some neigh := by
  have haf := (cache.inFamily neigh hneigh hon.2 dst hdst).1.af
  cases hfind : rtnlNeighGet cache.neighs link.ifindex dst with
  | none =>
      have hnone := List.find?_eq_none.mp hfind neigh hneigh
      simp [hon.1, hon.2, haf, hdst] at hnone
  | some found =>
      have hfound := List.find?_some hfind
      simp only [decide_eq_true_eq] at hfound
      obtain ⟨hindex, hfamily, hdst'⟩ := hfound
      have heq := cache.keys neigh hneigh hon.2 (by simp [hdst]) found
        (List.mem_of_find?_eq_some hfind) (hindex.trans hon.1.symm)
        (hfamily.trans (haf.trans hon.2.symm)) (hdst'.trans hdst.symm)
      rw [heq]

theorem gives_currentNeigh (hlib : env.lib.Succeeds) (hreads : env.ReadsWhole family)
    (hlink : link ∈ links.links) (hneigh : neigh ∈ cache.neighs) (hon : neigh.On family link)
    (hdst : neigh.dst = some dst) :
    Gives NeighState.nodes
      (currentNeigh env family links cache.neighs link.name (env.ipText dst)) (.ok neigh) [] := by
  obtain ⟨haddr, hwhole⟩ := cache.inFamily neigh hneigh hon.2 dst hdst
  refine (gives_neighOper (adds_operChecked hlib .lydPath)).before (f := fun _ => _) ?_
  refine (gives_neighOper (adds_currentLink hlib hlink)).before (f := fun link : OperLink => _) ?_
  refine (gives_neighOper (adds_extractKey hlib).require).before (f := fun _ => _) ?_
  rw [hreads dst haddr hwhole]
  refine (gives_neighOper (adds_operNotNull dst)).before (f := fun _ => _) ?_
  rw [rtnlNeighGet_eq hneigh hon hdst]
  exact gives_neighOper (adds_operNotNull neigh)

theorem gives_origin (hlib : env.lib.Succeeds) (hreads : env.ReadsWhole family)
    (hlink : link ∈ links.links) (hneigh : neigh ∈ cache.neighs) (hon : neigh.On family link)
    (hdst : neigh.dst = some dst) :
    Gives NeighState.nodes
      (neighborOriginOf env family links cache.neighs link.name (env.ipText dst)).require (.ok ())
      [.origin family (env.ipText dst) (neighborOrigin neigh)] := by
  rw [neighborOriginOf, Prog.require_exitCode (by decide)]
  exact (gives_currentNeigh hlib hreads hlink hneigh hon hdst).before
    (f := fun neigh => createNeigh env.lib (.origin family _ (neighborOrigin neigh)))
    (gives_createNeigh hlib _)

end Gives

section Ipv6

variable {env : AddressEnv} {cache : NeighCache .ipv6} {links : LinkCache} {link : OperLink}
  {neigh : OperNeigh} {dst : NlAddr}

theorem gives_isRouter (hlib : env.lib.Succeeds) (hreads : env.ReadsWhole .ipv6)
    (hlink : link ∈ links.links) (hneigh : neigh ∈ cache.neighs) (hon : neigh.On .ipv6 link)
    (hdst : neigh.dst = some dst) :
    Gives NeighState.nodes (interfaceIpv6NeighborIsRouter env links cache.neighs link.name
      (env.ipText dst)).require (.ok ()) (isRouterNodes (env.ipText dst) neigh) := by
  rw [interfaceIpv6NeighborIsRouter, Prog.require_exitCode (by decide), isRouterNodes]
  refine (gives_currentNeigh hlib hreads hlink hneigh hon hdst).before
    (f := fun neigh : OperNeigh => _) ?_
  by_cases hrouter : neigh.isRouter
  · rw [if_pos hrouter, if_pos hrouter]
    exact gives_createNeigh hlib _
  · rw [if_neg hrouter, if_neg hrouter]
    exact gives_pure ()

theorem gives_state (hlib : env.lib.Succeeds) (hnull : env.createsNull = false)
    (hreads : env.ReadsWhole .ipv6)
    (hlink : link ∈ links.links) (hneigh : neigh ∈ cache.neighs) (hon : neigh.On .ipv6 link)
    (hdst : neigh.dst = some dst) :
    Gives NeighState.nodes (interfaceIpv6NeighborState env links cache.neighs link.name
      (env.ipText dst)).require (stateOut (env.ipText dst) neigh.state).1
      (stateOut (env.ipText dst) neigh.state).2 := by
  rw [interfaceIpv6NeighborState, Prog.require_exitCode (by decide), stateOut]
  refine (gives_currentNeigh hlib hreads hlink hneigh hon hdst).before
    (f := fun neigh : OperNeigh => _) ?_
  cases hname : stateMap neigh.state with
  | error => exact (gives_lift .error).error_bind
  | crash => exact (gives_lift .crash).crash_bind
  | ok name =>
      refine (gives_lift (.ok name)).before (f := fun name => _) ?_
      by_cases hsilent :
          neigh.state = NUD_FAILED ∨ neigh.state = NUD_NOARP ∨ neigh.state = NUD_PERMANENT
      · have hnot : ¬ (neigh.state ≠ NUD_FAILED ∧ neigh.state ≠ NUD_NOARP ∧
            neigh.state ≠ NUD_PERMANENT) := by tauto
        simp only [if_pos hsilent, if_neg hnot]
        exact gives_pure ()
      · have hshown : neigh.state ≠ NUD_FAILED ∧ neigh.state ≠ NUD_NOARP ∧
            neigh.state ≠ NUD_PERMANENT := by tauto
        simp only [if_neg hsilent, if_pos hshown]
        cases name with
        | none =>
            rw [createState, hnull]
            exact gives_neighOper_fails failsWith_fail
        | some name => exact gives_createNeigh hlib _

end Ipv6

/-- A state that `state_map` has a text for. -/
def Named (state : Int) : Prop := state ∈ [0x01, 0x02, 0x04, 0x08, 0x10, 0x20, 0x40, 0x80]

instance (state : Int) : Decidable (Named state) :=
  inferInstanceAs (Decidable (state ∈ [0x01, 0x02, 0x04, 0x08, 0x10, 0x20, 0x40, 0x80]))

theorem named_iff {state : Int} : Named state ↔ state ∈ stateNames.map Prod.fst := Iff.rfl

theorem stateOut_eq_ok {ip : String} {state : Int} :
    (stateOut ip state).1 = .ok () ↔ Named state := by
  constructor
  · intro hok
    by_contra hunnamed
    have hlookup : stateNames.lookup state = none := by
      rw [List.lookup_eq_none_iff]
      intro named hnamed
      have hne : state ≠ named.1 := fun heq =>
        hunnamed (named_iff.mpr (heq ▸ List.mem_map_of_mem (f := Prod.fst) hnamed))
      simpa using hne
    have hsilent : ¬ (state = NUD_FAILED ∨ state = NUD_NOARP ∨ state = NUD_PERMANENT) := by
      rintro (rfl | rfl | rfl) <;> exact hunnamed (by decide)
    rw [stateOut, stateMap, hlookup] at hok
    split at hok
    · next name hname =>
        split at hname
        · cases hname
          rw [if_neg hsilent] at hok
          cases hok
        · cases hname
    · cases hok
    · cases hok
  · intro hnamed
    have hall : ∀ named ∈ stateNames, (stateOut ip named.1).1 = .ok () := by
      simp only [stateNames, List.forall_mem_cons]
      exact ⟨rfl, rfl, rfl, rfl, rfl, rfl, rfl, rfl, List.forall_mem_nil _⟩
    obtain ⟨named, hmem, rfl⟩ := List.mem_map.mp (named_iff.mp hnamed)
    exact hall named hmem

/-! ## the neighbours of a link -/

/-- The text of the address, for a neighbour that has one. -/
def OperNeigh.ip (neigh : OperNeigh) (env : AddressEnv) : String :=
  match neigh.dst with
  | some dst => env.ipText dst
  | none => ""

/-- Each of its callbacks has something to return. -/
structure OperNeigh.Shown (neigh : OperNeigh) (family : IpFamily) : Prop where
  dst : neigh.dst ≠ none
  lladdr : neigh.lladdr ≠ none
  state : family = .ipv6 → Named neigh.state

def neighborsOn (family : IpFamily) (link : OperLink) (neighs : List OperNeigh) :
    List OperNeigh :=
  neighs.filter fun neigh => neigh.ifindex = link.ifindex ∧ neigh.family = family.af

/-- The entry of a neighbour and its link layer address. -/
def neighborEntry (env : AddressEnv) (family : IpFamily) (neigh : OperNeigh) : List NeighNode :=
  match neigh.dst, neigh.lladdr with
  | some dst, some lladdr => [.neighbor family (env.ipText dst),
      .linkLayerAddress family (env.ipText dst) (env.nlAddr2str lladdr)]
  | _, _ => []

/-- The texts of the states that are reported: those of failed, permanent and
unneeded neighbours are not. -/
def reportedState : Int → Option String
  | 0x01 => some "incomplete"
  | 0x02 => some "reachable"
  | 0x04 => some "stale"
  | 0x08 => some "delay"
  | 0x10 => some "probe"
  | _ => none

/-- The leaves of a neighbour.  Bit 7 of the flags, `NTF_ROUTER`, says that it is
a router. -/
def reportedLeaves (family : IpFamily) (ip : String) (neigh : OperNeigh) : List NeighNode :=
  let router := neigh.flags.toNat.testBit 7
  .origin family ip (if router then "dynamic" else "static") ::
    match family with
    | .ipv4 => []
    | .ipv6 => (if router then [.isRouter ip] else []) ++
        ((reportedState neigh.state).map (NeighNode.state ip)).toList

/-- The list, and then the leaves. -/
def neighborTree (env : AddressEnv) (family : IpFamily) (link : OperLink)
    (neighs : List OperNeigh) : List NeighNode :=
  (neighborsOn family link neighs).flatMap (neighborEntry env family) ++
    (neighborsOn family link neighs).flatMap fun neigh =>
      reportedLeaves family (neigh.ip env) neigh

section Subtree

variable {env : AddressEnv} {family : IpFamily} {cache : NeighCache family} {links : LinkCache}
  {link : OperLink} {neigh : OperNeigh}

theorem mem_neighborsOn {neighs : List OperNeigh} :
    neigh ∈ neighborsOn family link neighs ↔ neigh ∈ neighs ∧ neigh.On family link := by
  simp [neighborsOn, OperNeigh.On]

theorem gives_neighLeaves (hlib : env.lib.Succeeds) (hnull : env.createsNull = false)
    (hreads : env.ReadsWhole family)
    (hlink : link ∈ links.links) (hneigh : neigh ∈ cache.neighs) (hon : neigh.On family link)
    (hdst : neigh.dst ≠ none) :
    Gives NeighState.nodes
      (neighLeaves env family links cache.neighs link.name (neigh.ip env))
      (leavesOut family (neigh.ip env) neigh).1 (leavesOut family (neigh.ip env) neigh).2 := by
  obtain ⟨dst, hdst⟩ := Option.ne_none_iff_exists'.mp hdst
  have hip : neigh.ip env = env.ipText dst := by rw [OperNeigh.ip, hdst]
  rw [hip]
  have horigin := gives_origin hlib hreads hlink hneigh hon hdst
  cases family with
  | ipv4 => exact horigin
  | ipv6 =>
      have hrouter := gives_isRouter hlib hreads hlink hneigh hon hdst
      have hstate := gives_state hlib hnull hreads hlink hneigh hon hdst
      exact horigin.bind (f := fun _ => _) (hrouter.bind (f := fun _ => _) hstate)

/-- The list callback comes to its end when the neighbours of the link are resolved. -/
theorem neighborOut_eq_ok :
    (neighborOut env family link neigh).1 = .ok () ↔
      (neigh.On family link → neigh.dst ≠ none ∧ neigh.lladdr ≠ none) := by
  unfold neighborOut OperNeigh.On
  split
  · next hon =>
      cases neigh.dst with
      | none => simp [hon]
      | some dst => cases neigh.lladdr <;> simp [hon]
  · next hon => simp [hon]

theorem leavesOut_eq_ok {ip : String} :
    (leavesOut family ip neigh).1 = .ok () ↔ (family = .ipv6 → Named neigh.state) := by
  cases family with
  | ipv4 => simp [leavesOut]
  | ipv6 => simp [leavesOut, stateOut_eq_ok]

theorem neighborOut_snd (hon : neigh.On family link) :
    (neighborOut env family link neigh).2 = neighborEntry env family neigh := by
  rw [neighborOut, if_pos ⟨hon.1, hon.2⟩, neighborEntry]
  cases neigh.dst <;> cases neigh.lladdr <;> rfl

theorem isRouter_eq : neigh.isRouter = neigh.flags.toNat.testBit 7 := by
  have hbit : decide (neigh.flags &&& NTF_ROUTER > 0) = true ↔ _ :=
    decide_eq_true_iff.trans (and_0x80_pos neigh.flags)
  exact Bool.eq_iff_iff.mpr hbit

theorem leavesOut_snd {ip : String} (hstate : family = .ipv6 → Named neigh.state) :
    (leavesOut family ip neigh).2 = reportedLeaves family ip neigh := by
  have hstates : ∀ state, Named state →
      (stateOut ip state).2 = ((reportedState state).map (NeighNode.state ip)).toList := by
    unfold Named
    simp only [List.forall_mem_cons]
    exact ⟨rfl, rfl, rfl, rfl, rfl, rfl, rfl, rfl, List.forall_mem_nil _⟩
  unfold leavesOut reportedLeaves neighborOrigin isRouterNodes
  rw [isRouter_eq]
  cases family with
  | ipv4 => rfl
  | ipv6 => rw [hstates _ (hstate rfl)]; rfl

/-- Other neighbours add nothing to the list. -/
theorem flatMap_neighborOut (neighs : List OperNeigh) :
    neighs.flatMap (fun neigh => (neighborOut env family link neigh).2) =
      (neighborsOn family link neighs).flatMap fun neigh =>
        (neighborOut env family link neigh).2 := by
  induction neighs with
  | nil => rfl
  | cons neigh neighs ih =>
      rw [List.flatMap_cons, ih, neighborsOn, neighborsOn, List.filter_cons]
      split
      · rw [List.flatMap_cons]
      · next hoff =>
          rw [decide_eq_true_eq] at hoff
          rw [neighborOut, if_neg hoff, List.nil_append]

/-- sysrepo asks for the leaves of the neighbours of the link. -/
theorem neighborIps_flatMap {neighs : List OperNeigh}
    (h : ∀ neigh ∈ neighs, neigh.On family link ∧ neigh.dst ≠ none ∧ neigh.lladdr ≠ none) :
    neighborIps family (neighs.flatMap fun neigh => (neighborOut env family link neigh).2) =
      neighs.map fun neigh => neigh.ip env := by
  induction neighs with
  | nil => rfl
  | cons neigh neighs ih =>
      rw [List.forall_mem_cons] at h
      obtain ⟨hon, hdst, hlladdr⟩ := h.1
      obtain ⟨dst, hdst⟩ := Option.ne_none_iff_exists'.mp hdst
      obtain ⟨lladdr, hlladdr⟩ := Option.ne_none_iff_exists'.mp hlladdr
      have hout : (neighborOut env family link neigh).2 =
          [.neighbor family (env.ipText dst),
            .linkLayerAddress family (env.ipText dst) (env.nlAddr2str lladdr)] := by
        rw [neighborOut, if_pos ⟨hon.1, hon.2⟩, hdst, hlladdr]
      have hip : neigh.ip env = env.ipText dst := by rw [OperNeigh.ip, hdst]
      have hrest : neighborIps family
          (neighs.flatMap fun neigh => (neighborOut env family link neigh).2) = _ := ih h.2
      rw [List.flatMap_cons, hout, List.map_cons, hip, ← hrest]
      simp [neighborIps]

/-- The list callback has something to return for each neighbour of the link. -/
def Resolved (family : IpFamily) (link : OperLink) (neighs : List OperNeigh) : Prop :=
  ∀ neigh ∈ neighs, neigh.On family link → neigh.dst ≠ none ∧ neigh.lladdr ≠ none

theorem walk_neighborOut_eq_ok {neighs : List OperNeigh} :
    (walk (neighborOut env family link) neighs).1 = .ok () ↔ Resolved family link neighs := by
  rw [walk_eq_ok]
  exact forall₂_congr fun neigh _ => neighborOut_eq_ok

theorem neighborOut_ne_crash : (neighborOut env family link neigh).1 ≠ .crash := by
  unfold neighborOut
  split
  · cases neigh.dst with
    | none => simp
    | some dst => cases neigh.lladdr <;> simp
  · simp

theorem run_neighborSubtree_of_not_resolved (hlib : env.lib.Succeeds) (hlink : link ∈ links.links)
    (h : ¬ Resolved family link cache.neighs) :
    ∃ s, (neighborSubtree env family links cache.neighs link.name).run {} =
      (.ok SR_ERR_CALLBACK_FAILED, s) := by
  obtain ⟨hexit, -⟩ := @gives_neighborsOf env family links link hlib hlink cache.neighs {}
  have hne : (walk (neighborOut env family link) cache.neighs).1 ≠ .ok () :=
    fun hok => h (walk_neighborOut_eq_ok.mp hok)
  have hcrash : (walk (neighborOut env family link) cache.neighs).1 ≠ .crash :=
    walk_ne_crash fun neigh _ => neighborOut_ne_crash
  have herror : (walk (neighborOut env family link) cache.neighs).1 = .error := by
    cases hx : (walk (neighborOut env family link) cache.neighs).1 with
    | ok _ => exact absurd hx hne
    | error => rfl
    | crash => exact absurd hx hcrash
  rw [herror] at hexit
  have hrun := Prog.run_eq_of_fst hexit
  rw [neighborSubtree, run_exitCode_eq, Prog.run_bind_error hrun]
  exact ⟨_, rfl⟩

/-- After the list come the leaves of its entries. -/
theorem run_neighborSubtree (hlib : env.lib.Succeeds) (hnull : env.createsNull = false)
    (hreads : env.ReadsWhole family)
    (hlink : link ∈ links.links) (h : Resolved family link cache.neighs) :
    ∃ s, (neighborSubtree env family links cache.neighs link.name).run {} =
        (exitOf SR_ERR_CALLBACK_FAILED (walk (fun neigh => leavesOut family (neigh.ip env) neigh)
          (neighborsOn family link cache.neighs)).1, s) ∧
      s.nodes = (neighborsOn family link cache.neighs).flatMap
          (fun neigh => (neighborOut env family link neigh).2) ++
        (walk (fun neigh => leavesOut family (neigh.ip env) neigh)
          (neighborsOn family link cache.neighs)).2 := by
  have hon : ∀ neigh ∈ neighborsOn family link cache.neighs,
      neigh.On family link ∧ neigh.dst ≠ none ∧ neigh.lladdr ≠ none := by
    intro neigh hneigh
    obtain ⟨hmem, hon⟩ := mem_neighborsOn.mp hneigh
    exact ⟨hon, h neigh hmem hon⟩
  have hout : ∀ neigh ∈ cache.neighs, (neighborOut env family link neigh).1 = .ok () :=
    fun neigh hneigh => neighborOut_eq_ok.mpr (h neigh hneigh)
  obtain ⟨hexit, hnodes⟩ := @gives_neighborsOf env family links link hlib hlink cache.neighs {}
  rw [walk_eq_ok.mpr hout] at hexit
  rw [walk_snd hout, flatMap_neighborOut, List.nil_append] at hnodes
  have hleaves : Gives NeighState.nodes
      (forM ((neighborsOn family link cache.neighs).map fun neigh => neigh.ip env)
        (neighLeaves env family links cache.neighs link.name))
      (walk (fun neigh => leavesOut family (neigh.ip env) neigh)
        (neighborsOn family link cache.neighs)).1
      (walk (fun neigh => leavesOut family (neigh.ip env) neigh)
        (neighborsOn family link cache.neighs)).2 := by
    rw [List.forM_map]
    refine gives_forM fun neigh hneigh => ?_
    obtain ⟨hmem, hon⟩ := mem_neighborsOn.mp hneigh
    exact gives_neighLeaves hlib hnull hreads hlink hmem hon (h neigh hmem hon).1
  rw [← neighborIps_flatMap hon, ← hnodes] at hleaves
  obtain ⟨hexit', hnodes'⟩ := hleaves
    ((neighborsOf env family links cache.neighs link.name).require.run {}).2
  have hrun := Prog.run_eq_of_fst hexit
  rw [neighborSubtree, run_exitCode_eq, Prog.run_bind_ok hrun, Prog.run_bind_ok (Prog.run_get _),
    hexit']
  exact ⟨_, rfl, hnodes'.trans (by rw [hnodes])⟩

/-- The answer for the neighbours of a link comes to its end exactly when each
of them has a link layer address and, for IPv6, a state with a text.  The leaves
below an entry are then those of the neighbour that is listed there. -/
theorem neighborSubtree_complete_iff (hlib : env.lib.Succeeds)
    (hnull : env.createsNull = false) (hreads : env.ReadsWhole family)
    (hlink : link ∈ links.links) :
    ∃ x s, (neighborSubtree env family links cache.neighs link.name).run {} = (x, s) ∧
      (x = .ok SR_ERR_OK ↔
        ∀ neigh ∈ cache.neighs, neigh.On family link → neigh.Shown family) ∧
      (x = .ok SR_ERR_OK → s.nodes = neighborTree env family link cache.neighs) := by
  by_cases h : Resolved family link cache.neighs
  · obtain ⟨s, hrun, hnodes⟩ := run_neighborSubtree hlib hnull hreads hlink h
    have hleaves : exitOf SR_ERR_CALLBACK_FAILED
        (walk (fun neigh => leavesOut family (neigh.ip env) neigh)
          (neighborsOn family link cache.neighs)).1 = .ok SR_ERR_OK ↔
        ∀ neigh ∈ neighborsOn family link cache.neighs,
          (leavesOut family (neigh.ip env) neigh).1 = .ok () :=
      (exitOf_eq_zero (by decide)).trans walk_eq_ok
    refine ⟨_, s, hrun, hleaves.trans ⟨fun hall neigh hneigh hon => ?_, ?_⟩, fun hok => ?_⟩
    · have hstate := hall neigh (mem_neighborsOn.mpr ⟨hneigh, hon⟩)
      exact ⟨(h neigh hneigh hon).1, (h neigh hneigh hon).2, leavesOut_eq_ok.mp hstate⟩
    · intro hshown neigh hneigh
      obtain ⟨hmem, hon⟩ := mem_neighborsOn.mp hneigh
      exact leavesOut_eq_ok.mpr (hshown neigh hmem hon).state
    · have hstates := hleaves.mp hok
      rw [hnodes, walk_snd hstates, neighborTree]
      congr 1
      · exact List.flatMap_congr fun neigh hneigh => neighborOut_snd (mem_neighborsOn.mp hneigh).2
      · exact List.flatMap_congr fun neigh hneigh =>
          leavesOut_snd (leavesOut_eq_ok.mp (hstates neigh hneigh))
  · obtain ⟨s, hrun⟩ := run_neighborSubtree_of_not_resolved hlib hlink h
    refine ⟨_, s, hrun, ⟨nofun, fun hshown => ?_⟩, nofun⟩
    exact absurd (fun neigh hneigh hon =>
      ⟨(hshown neigh hneigh hon).dst, (hshown neigh hneigh hon).lladdr⟩) h

end Subtree

/-! ## a link with two neighbours -/

def hexDigits (n : Nat) : String := String.ofList [Nat.digitChar (n / 16), Nat.digitChar (n % 16)]

/-- `nl_addr2str` on IPv4 and link layer addresses. -/
def neighAddr2str (addr : NlAddr) : String :=
  if addr.family = AF_INET then ipv4Addr2str addr
  else ":".intercalate ((List.range 6).map fun i => hexDigits (addr.bits / 256 ^ (5 - i) % 256))

def neighEnv : AddressEnv where
  lib _ _ := true
  nlAddr2str := neighAddr2str
  nlAddrParse _ text := parseIpv4 text
  running := { prefixLength := fun _ _ _ => none }
  createsNull := false

theorem neighEnv_readsWhole : neighEnv.ReadsWhole .ipv4 := by
  intro addr haddr hwhole
  have hfamily : addr.family = AF_INET := haddr.af
  have htext : neighEnv.ipText addr = dottedQuad (octetsOf addr.bits) := by
    have hcut := cutPrefix_ipv4Addr2str addr
    rw [← hcut]
    simp [AddressEnv.ipText, neighEnv, neighAddr2str, hfamily]
  have hcall : neighEnv.nlAddrParse IpFamily.ipv4.af = parseIpv4 := rfl
  have hbits := bits_octetsOf haddr.bits
  have hlength : addr.prefixLen = 32 := hwhole
  rw [hcall, htext, parseIpv4_dottedQuad, hbits, addr4, ← hfamily, ← hlength]

/-- A router, and a neighbour without a link layer address on another link. -/
def neighSample : NeighCache .ipv4 where
  neighs := [
    { ifindex := 2, family := AF_INET, dst := some (addr4 0xc00002fe 32),
      lladdr := some { family := AF_LLC, bits := 0x020000000001, prefixLen := 48 },
      flags := NTF_ROUTER, state := NUD_REACHABLE },
    { ifindex := 3, family := AF_INET, dst := some (addr4 0xc6336401 32), lladdr := none,
      flags := 0, state := NUD_INCOMPLETE }]
  inFamily neigh hneigh _ dst hdst := by
    rcases List.mem_pair.mp hneigh with rfl | rfl
    · obtain rfl := Option.mem_some.mp hdst
      exact ⟨⟨rfl, by decide, by decide⟩, rfl⟩
    · obtain rfl := Option.mem_some.mp hdst
      exact ⟨⟨rfl, by decide, by decide⟩, rfl⟩
  keys := by decide

def neighLink : OperLink := { ifindex := 2, name := "eth0" }

/-! ## a link with a router and a host -/

def wholeIpv6 (bits : Nat) : NlAddr := { family := AF_INET6, bits, prefixLen := 128 }

def routerBits : Nat := 0x20010db80000000000000000000000fe

def hostBits : Nat := 0x20010db8000000000000000000000001

/-- `nl_addr2str` on these two IPv6 addresses and on link layer addresses; other
IPv6 addresses get a text of their own. -/
def neighAddr2str6 (addr : NlAddr) : String :=
  if addr.family = AF_INET6 then
    if addr.bits = routerBits then "2001:db8::fe"
    else if addr.bits = hostBits then "2001:db8::1"
    else String.ofList (List.replicate addr.bits '1')
  else neighAddr2str addr

def neighParse6 (text : String) : Option NlAddr :=
  if text = "2001:db8::fe" then some (wholeIpv6 routerBits)
  else if text = "2001:db8::1" then some (wholeIpv6 hostBits)
  else some (wholeIpv6 text.length)

def neighEnv6 : AddressEnv where
  lib _ _ := true
  nlAddr2str := neighAddr2str6
  nlAddrParse _ := neighParse6
  running := { prefixLength := fun _ _ _ => none }
  createsNull := false

theorem neighEnv6_readsWhole : neighEnv6.ReadsWhole .ipv6 := by
  intro addr haddr hwhole
  obtain ⟨family, bits, length⟩ := addr
  obtain rfl : family = AF_INET6 := haddr.af
  obtain rfl : length = 128 := hwhole
  show neighParse6 (cutPrefix (neighAddr2str6 (wholeIpv6 bits))) = some (wholeIpv6 bits)
  have hfamily : (wholeIpv6 bits).family = AF_INET6 := rfl
  rw [neighAddr2str6, if_pos hfamily]
  split
  · next hrouter =>
      obtain rfl : bits = routerBits := hrouter
      decide +kernel
  · split
    · next hhost =>
        obtain rfl : bits = hostBits := hhost
        decide +kernel
    · have hcut : cutPrefix (String.ofList (List.replicate bits '1')) =
          String.ofList (List.replicate bits '1') := by
        rw [cutPrefix, String.toList_ofList, List.takeWhile_eq_self_iff.mpr]
        intro c hc
        rw [List.eq_of_mem_replicate hc]
        decide
      have hne : ∀ text : String, '2' ∈ text.toList →
          String.ofList (List.replicate bits '1') ≠ text := by
        rintro _ htwo rfl
        rw [String.toList_ofList] at htwo
        exact absurd (List.eq_of_mem_replicate htwo) (by decide)
      show neighParse6 (cutPrefix (String.ofList (List.replicate bits '1'))) = _
      rw [hcut, neighParse6, if_neg (hne _ (by decide)), if_neg (hne _ (by decide))]
      simp

/-- A router, and a host with the same link layer address on the same link. -/
def neighSample6 : NeighCache .ipv6 where
  neighs := [
    { ifindex := 2, family := AF_INET6, dst := some (wholeIpv6 routerBits),
      lladdr := some { family := AF_LLC, bits := 0x020000000001, prefixLen := 48 },
      flags := NTF_ROUTER, state := NUD_REACHABLE },
    { ifindex := 2, family := AF_INET6, dst := some (wholeIpv6 hostBits),
      lladdr := some { family := AF_LLC, bits := 0x020000000001, prefixLen := 48 },
      flags := 0, state := NUD_PERMANENT }]
  inFamily neigh hneigh _ dst hdst := by
    rcases List.mem_pair.mp hneigh with rfl | rfl
    · obtain rfl := Option.mem_some.mp hdst
      exact ⟨⟨rfl, by decide +kernel, by decide +kernel⟩, rfl⟩
    · obtain rfl := Option.mem_some.mp hdst
      exact ⟨⟨rfl, by decide +kernel, by decide +kernel⟩, rfl⟩
  keys := by decide +kernel

theorem neighborSubtree_complete_iff_neighEnv :
    (∃ x s, (neighborSubtree neighEnv .ipv4 originLinks neighSample.neighs neighLink.name).run {} =
        (x, s) ∧
      (x = .ok SR_ERR_OK ↔
        ∀ neigh ∈ neighSample.neighs, neigh.On .ipv4 neighLink → neigh.Shown .ipv4) ∧
      (x = .ok SR_ERR_OK →
        s.nodes = neighborTree neighEnv .ipv4 neighLink neighSample.neighs)) ∧
    ∃ x s, (neighborSubtree neighEnv6 .ipv6 originLinks neighSample6.neighs neighLink.name).run {} =
        (x, s) ∧
      (x = .ok SR_ERR_OK ↔
        ∀ neigh ∈ neighSample6.neighs, neigh.On .ipv6 neighLink → neigh.Shown .ipv6) ∧
      (x = .ok SR_ERR_OK →
        s.nodes = neighborTree neighEnv6 .ipv6 neighLink neighSample6.neighs) :=
  have hlink : neighLink ∈ originLinks.links := List.mem_singleton.mpr rfl
  ⟨neighborSubtree_complete_iff (fun _ _ => rfl) rfl neighEnv_readsWhole hlink,
    neighborSubtree_complete_iff (fun _ _ => rfl) rfl neighEnv6_readsWhole hlink⟩

/-- Of the router all leaves are there, of the host its origin. -/
example : neighborTree neighEnv6 .ipv6 neighLink neighSample6.neighs = [
    .neighbor .ipv6 "2001:db8::fe",
    .linkLayerAddress .ipv6 "2001:db8::fe" "02:00:00:00:00:01",
    .neighbor .ipv6 "2001:db8::1",
    .linkLayerAddress .ipv6 "2001:db8::1" "02:00:00:00:00:01",
    .origin .ipv6 "2001:db8::fe" "dynamic", .isRouter "2001:db8::fe",
    .state "2001:db8::fe" "reachable",
    .origin .ipv6 "2001:db8::1" "static"] := by
  decide +kernel

end SysrepoInterfaces.Interfaces
