import SysrepoInterfaces.Interfaces.Operational
import SysrepoInterfaces.Lib.Chain

/-!
# SysrepoInterfaces.Interfaces.Layers

The `higher-layer-if` and `lower-layer-if` callbacks.  The first one walks up
the masters of its link.  The second one looks at every link of the cache, but
walks up the masters of its own link again: what it compares with its own name
are its own masters.
-/

namespace SysrepoInterfaces.Interfaces

open CProg Relation Trace

/-! ## the callbacks -/

/-- The loop of the `higher-layer-if` callback, in a run of `fuel` rounds at
most. -/
def higherLayerLoop (lib : OperLib) (cache : LinkCache) : Nat → Nat → OperM Unit
  | 0, masterIfIndex => if masterIfIndex = 0 then return () else Prog.lift .crash
  | fuel + 1, masterIfIndex =>
      if masterIfIndex = 0 then return ()
      else match cache.get masterIfIndex with
        | some masterLink => do
            lyTreeCreate lib (.higherLayerIf masterLink.name)
            higherLayerLoop lib cache fuel masterLink.master
        -- the name of a NULL link
        | none => Prog.lift .crash

/-- `interfaces_subscription_operational_interfaces_interface_higher_layer_if`. -/
def higherLayerIf (lib : OperLib) (fuel : Nat) (cache : LinkCache) (name : String) : OperM Int :=
  Prog.exitCode SR_ERR_CALLBACK_FAILED do
    operChecked lib .lydPath
    let link ← interfacesGetCurrentLink lib cache name
    higherLayerLoop lib cache fuel link.master

/-- The inner loop of the `lower-layer-if` callback, up to its `break`. -/
def lowerLayerLoop (lib : OperLib) (cache : LinkCache) (link linkIter : OperLink) :
    Nat → Nat → OperM Unit
  | 0, masterIfIndex => if masterIfIndex = 0 then return () else Prog.lift .crash
  | fuel + 1, masterIfIndex =>
      if masterIfIndex = 0 then return ()
      else match cache.get masterIfIndex with
        | some masterLink =>
            if masterLink.name = link.name then lyTreeCreate lib (.lowerLayerIf linkIter.name)
            else lowerLayerLoop lib cache link linkIter fuel masterLink.master
        | none => Prog.lift .crash

/-- `interfaces_subscription_operational_interfaces_interface_lower_layer_if`. -/
def lowerLayerIf (lib : OperLib) (fuel : Nat) (cache : LinkCache) (name : String) : OperM Int :=
  Prog.exitCode SR_ERR_CALLBACK_FAILED do
    operChecked lib .lydPath
    let link ← interfacesGetCurrentLink lib cache name
    forM cache.links fun linkIter =>
      -- the masters of `link`, not those of `linkIter`
      lowerLayerLoop lib cache link linkIter fuel link.master

/-- The callback on the entry of a link ends well and reports the name of another. -/
def EmitsHigher (lib : OperLib) (fuel : Nat) (cache : LinkCache) (x y : OperLink) : Prop :=
  ∃ s, (higherLayerIf lib fuel cache x.name).run {} = (.ok SR_ERR_OK, s) ∧
    .higherLayerIf y.name ∈ s.nodes

@[inherit_doc EmitsHigher]
def EmitsLower (lib : OperLib) (fuel : Nat) (cache : LinkCache) (x y : OperLink) : Prop :=
  ∃ s, (lowerLayerIf lib fuel cache x.name).run {} = (.ok SR_ERR_OK, s) ∧
    .lowerLayerIf y.name ∈ s.nodes

/-! ## masters -/

/-- The master of a link, in a cache. -/
def LinkCache.masterOf (cache : LinkCache) (link : OperLink) : Option OperLink :=
  if link.master = 0 then none else cache.get link.master

/-- A link cache whose masters are in it, and where no link is its own master,
directly or through others. -/
structure LinkForest extends LinkCache where
  closed : ∀ link ∈ links, link.master ≠ 0 → ∃ y ∈ links, y.ifindex = link.master
  acyclic : Chain.Acyclic toLinkCache.masterOf links

namespace LinkForest

variable {forest : LinkForest} {x y : OperLink}

/-- `y` is a master of `x`, directly or through others. -/
def IsMaster (forest : LinkForest) (y x : OperLink) : Prop :=
  TransGen (Chain.Step forest.masterOf) x y

theorem closed_masterOf (forest : LinkForest) :
    Chain.Closed forest.masterOf forest.links := by
  intro x _ y h
  unfold LinkCache.masterOf at h
  split at h
  · cases h
  · exact LinkCache.mem_of_get h

theorem master_eq_zero (hx : x ∈ forest.links) (h : forest.masterOf x = none) :
    x.master = 0 := by
  by_contra hne
  obtain ⟨y, hy, hindex⟩ := forest.closed x hx hne
  have hget := Keyed.lookup_of_mem forest.ifindexes hy
  rw [hindex] at hget
  rw [LinkCache.masterOf, if_neg hne, LinkCache.get, hget] at h
  cases h

/-- The walk up the masters of a link. -/
theorem exists_masters (hx : x ∈ forest.links) : ∃ l, Chain.Walk forest.masterOf x l :=
  Chain.exists_walk hx forest.closed_masterOf forest.acyclic

theorem get_of_masterOf (h : forest.masterOf x = some y) :
    x.master ≠ 0 ∧ forest.get x.master = some y := by
  unfold LinkCache.masterOf at h
  split at h
  · cases h
  · next hne => exact ⟨hne, h⟩

/-- A loop up the masters of a link, with a round for each of them. -/
theorem walk_induction {motive : Nat → OperLink → List OperLink → Prop}
    (stop : ∀ fuel x, x.master = 0 → motive fuel x [])
    (step : ∀ fuel x y l, y ∈ forest.links → x.master ≠ 0 → forest.get x.master = some y →
      motive fuel y l → motive (fuel + 1) x (y :: l))
    {l : List OperLink} {fuel : Nat} (hl : Chain.Walk forest.masterOf x l) (hx : x ∈ forest.links)
    (hfuel : l.length ≤ fuel) : motive fuel x l := by
  induction hl generalizing fuel with
  | stop hnone => exact stop fuel _ (master_eq_zero hx hnone)
  | @step x y l hnext _ ih =>
      obtain ⟨hne, hget⟩ := get_of_masterOf hnext
      obtain ⟨fuel, rfl⟩ : ∃ n, fuel = n + 1 :=
        Nat.exists_eq_succ_of_ne_zero (Nat.ne_zero_of_lt hfuel)
      have hy := forest.closed_masterOf x hx y hnext
      exact step fuel x y l hy hne hget (ih hy (Nat.le_of_succ_le_succ hfuel))

end LinkForest

/-! ## what the loops add -/

section Loops

variable {lib : OperLib} {forest : LinkForest} {x y : OperLink} {l : List OperLink} {fuel : Nat}

/-- The names of the masters, nearest first. -/
theorem adds_higherLayerLoop (hlib : lib.Succeeds) (hl : Chain.Walk forest.masterOf x l)
    (hx : x ∈ forest.links) (hfuel : l.length ≤ fuel) :
    Adds (higherLayerLoop lib forest.toLinkCache fuel x.master) ()
      (l.map fun y => .higherLayerIf y.name) := by
  refine forest.walk_induction (motive := fun fuel x l => Adds
    (higherLayerLoop lib forest.toLinkCache fuel x.master) ()
    (l.map fun y => .higherLayerIf y.name)) ?_ ?_ hl hx hfuel
  · intro fuel x hzero
    cases fuel <;> simpa [higherLayerLoop, hzero] using adds_pure ()
  · intro fuel x y l _ hne hget hrest
    rw [higherLayerLoop, if_neg hne, hget]
    exact (adds_lyTreeCreate hlib _).bind (f := fun _ => _) hrest

/-- Nothing, as no link is its own master. -/
theorem adds_lowerLayerLoop {link linkIter : OperLink} (hlink : link ∈ forest.links)
    (hl : Chain.Walk forest.masterOf x l) (hx : x ∈ forest.links) (hother : link ∉ l)
    (hfuel : l.length ≤ fuel) :
    Adds (lowerLayerLoop lib forest.toLinkCache link linkIter fuel x.master) () [] := by
  refine forest.walk_induction (motive := fun fuel x l => link ∉ l → Adds
    (lowerLayerLoop lib forest.toLinkCache link linkIter fuel x.master) () [])
    ?_ ?_ hl hx hfuel hother
  · intro fuel x hzero _
    cases fuel <;> simpa [lowerLayerLoop, hzero] using adds_pure ()
  · intro fuel x y l hy hne hget ih hother
    obtain ⟨hlinkNe, hother⟩ := not_or.mp (mt List.mem_cons.mpr hother)
    have hname : y.name ≠ link.name :=
      fun h => hlinkNe (LinkCache.eq_of_name hlink hy h.symm)
    rw [lowerLayerLoop, if_neg hne, hget]
    simpa [hname] using ih hother

/-- The `higher-layer-if` callback reports the masters of its link, nearest first. -/
theorem adds_higherLayerIf (hlib : lib.Succeeds) (hl : Chain.Walk forest.masterOf x l)
    (hx : x ∈ forest.links) (hfuel : forest.links.length ≤ fuel) :
    Adds (higherLayerIf lib fuel forest.toLinkCache x.name) SR_ERR_OK
      (l.map fun y => .higherLayerIf y.name) := by
  have hlength := hl.length_le hx forest.closed_masterOf forest.acyclic
  have hloop := adds_higherLayerLoop hlib hl hx (Nat.le_trans hlength hfuel)
  have hlink := (adds_currentLink hlib hx).bind (f := fun link : OperLink =>
    higherLayerLoop lib forest.toLinkCache fuel link.master) hloop
  exact ((adds_operChecked hlib .lydPath).bind (f := fun _ => _) hlink).exitCode _

/-- The `lower-layer-if` callback reports nothing. -/
theorem adds_lowerLayerIf (hlib : lib.Succeeds) (hx : x ∈ forest.links)
    (hfuel : forest.links.length ≤ fuel) :
    Adds (lowerLayerIf lib fuel forest.toLinkCache x.name) SR_ERR_OK [] := by
  obtain ⟨l, hl⟩ := LinkForest.exists_masters hx
  have hlength := hl.length_le hx forest.closed_masterOf forest.acyclic
  have hself : x ∉ l := fun h => forest.acyclic x hx (hl.mem_iff.mp h)
  have hround : ∀ linkIter ∈ forest.links,
      Adds (lowerLayerLoop lib forest.toLinkCache x linkIter fuel x.master) () [] :=
    fun _ _ => adds_lowerLayerLoop hx hl hx hself (Nat.le_trans hlength hfuel)
  have hnil : forest.links.flatMap (fun _ => ([] : List OperNode)) = [] := by simp
  have hloop := adds_forM hround
  rw [hnil] at hloop
  have hlink := (adds_currentLink hlib hx).bind (f := fun link : OperLink =>
    forM forest.links fun linkIter =>
      lowerLayerLoop lib forest.toLinkCache link linkIter fuel link.master) hloop
  exact ((adds_operChecked hlib .lydPath).bind (f := fun _ => _) hlink).exitCode _

end Loops

/-! ## the chain of masters -/

section Masters

variable {forest : LinkForest} {x : OperLink} {l : List OperLink} {fuel : Nat}

/-- Whatever the calls do, the loop ends before its rounds do. -/
theorem reports_higherLayerLoop (lib : OperLib) (hl : Chain.Walk forest.masterOf x l)
    (hx : x ∈ forest.links) (hfuel : l.length ≤ fuel) :
    Reports OperState.nodes (higherLayerLoop lib forest.toLinkCache fuel x.master)
      (l.map fun y => .higherLayerIf y.name) fun _ => True := by
  refine forest.walk_induction (motive := fun fuel x l => Reports OperState.nodes
    (higherLayerLoop lib forest.toLinkCache fuel x.master)
    (l.map fun y => .higherLayerIf y.name) fun _ => True) ?_ ?_ hl hx hfuel
  · intro fuel x hzero
    cases fuel <;> simpa [higherLayerLoop, hzero] using reports_pure trivial
  · intro fuel x y l _ hne hget hrest
    rw [higherLayerLoop, if_neg hne, hget]
    exact (reports_lyTreeCreate lib _).bind fun _ _ => hrest

/-- All masters of a link, each once, its own first and then always that of
the one before. -/
structure MasterChain (forest : LinkForest) (x : OperLink) (masters : List OperLink) : Prop where
  nearest : Chain.Walk forest.masterOf x masters
  once : masters.Nodup
  exact : ∀ y, y ∈ masters ↔ forest.IsMaster y x

/-- The `higher-layer-if` callback of a link ends, and reports its masters in
that order: all of them unless a call fails. -/
theorem higherLayerIf_masterChain {forest : LinkForest} {x : OperLink} (hx : x ∈ forest.links) :
    ∃ masters, MasterChain forest x masters ∧
      ∀ lib fuel s, forest.links.length ≤ fuel →
        ∃ error s' new, (higherLayerIf lib fuel forest.toLinkCache x.name).run s = (.ok error, s') ∧
          s'.nodes = s.nodes ++ new ∧ new <+: masters.map (fun y => .higherLayerIf y.name) ∧
          (error = SR_ERR_OK → new = masters.map fun y => .higherLayerIf y.name) ∧
          (lib.Succeeds → error = SR_ERR_OK) := by
  obtain ⟨l, hl⟩ := LinkForest.exists_masters hx
  have hnodup := hl.nodup hx forest.closed_masterOf forest.acyclic
  refine ⟨l, ⟨hl, hnodup, fun _ => hl.mem_iff⟩, ?_⟩
  intro lib fuel s hfuel
  have hlength := hl.length_le hx forest.closed_masterOf forest.acyclic
  have hrun : Reports OperState.nodes (do
      operChecked lib .lydPath
      let link ← interfacesGetCurrentLink lib forest.toLinkCache x.name
      higherLayerLoop lib forest.toLinkCache fuel link.master)
      (l.map fun y => .higherLayerIf y.name) fun _ => True := by
    refine (reports_operChecked lib _).before fun _ _ => ?_
    refine (reports_currentLink lib hx).before fun link hlink => ?_
    rw [hlink]
    exact reports_higherLayerLoop lib hl hx (Nat.le_trans hlength hfuel)
  have hcode : SR_ERR_CALLBACK_FAILED ≠ 0 := by decide
  obtain ⟨error, s', new, hcallback, hnodes, hpre, hall⟩ := hrun.exitCode hcode s
  refine ⟨error, s', new, hcallback, hnodes, hpre, hall, ?_⟩
  intro hlib
  obtain ⟨calls, hadds⟩ := adds_higherLayerIf hlib hl hx hfuel s
  cases hcallback.symm.trans hadds
  rfl

end Masters

/-! ## higher against lower -/

variable {lib : OperLib} {forest : LinkForest} {x y : OperLink} {fuel : Nat}

theorem emitsHigher_iff (hlib : lib.Succeeds) (hfuel : forest.links.length ≤ fuel)
    (hx : x ∈ forest.links) (hy : y ∈ forest.links) :
    EmitsHigher lib fuel forest.toLinkCache x y ↔ forest.IsMaster y x := by
  obtain ⟨l, hl⟩ := LinkForest.exists_masters hx
  obtain ⟨calls, hrun⟩ := adds_higherLayerIf hlib hl hx hfuel {}
  have hmem : OperNode.higherLayerIf y.name ∈ l.map (fun y => OperNode.higherLayerIf y.name) ↔
      y ∈ l := by
    constructor
    · intro h
      obtain ⟨z, hz, hname⟩ := List.mem_map.mp h
      have hzmem := hl.subset hx forest.closed_masterOf hz
      obtain rfl : z = y := LinkCache.eq_of_name hzmem hy (OperNode.higherLayerIf.inj hname)
      exact hz
    · exact fun h => List.mem_map_of_mem h
  simp [EmitsHigher, hrun, hmem, hl.mem_iff, LinkForest.IsMaster]

theorem not_emitsLower (hlib : lib.Succeeds) (hfuel : forest.links.length ≤ fuel)
    (hy : y ∈ forest.links) : ¬ EmitsLower lib fuel forest.toLinkCache y x := by
  obtain ⟨calls, hrun⟩ := adds_lowerLayerIf hlib hy hfuel {}
  simp [EmitsLower, hrun]

/-- Higher and lower layer agree on two links exactly when the second is not a
master of the first. -/
theorem layers_converse_iff (hlib : lib.Succeeds) (hfuel : forest.links.length ≤ fuel)
    (hx : x ∈ forest.links) (hy : y ∈ forest.links) :
    (EmitsHigher lib fuel forest.toLinkCache x y ↔ EmitsLower lib fuel forest.toLinkCache y x) ↔
      ¬ forest.IsMaster y x := by
  have hhigher := emitsHigher_iff hlib hfuel hx hy
  have hlower := not_emitsLower (x := x) hlib hfuel hy
  rw [hhigher]
  simp [hlower]

/-- They agree on all links exactly when no link has a master. -/
theorem layers_converse_forall_iff (hlib : lib.Succeeds) (hfuel : forest.links.length ≤ fuel) :
    (∀ x ∈ forest.links, ∀ y ∈ forest.links,
      (EmitsHigher lib fuel forest.toLinkCache x y ↔
        EmitsLower lib fuel forest.toLinkCache y x)) ↔
      ∀ x ∈ forest.links, x.master = 0 := by
  constructor
  · intro h x hx
    cases hmaster : forest.masterOf x with
    | none => exact LinkForest.master_eq_zero hx hmaster
    | some y =>
        have hy := forest.closed_masterOf x hx y hmaster
        have hnot := (layers_converse_iff hlib hfuel hx hy).mp (h x hx y hy)
        exact absurd (.single hmaster) hnot
  · intro h x hx y hy
    rw [layers_converse_iff hlib hfuel hx hy]
    intro hreach
    obtain ⟨z, hstep, -⟩ := TransGen.head'_iff.mp hreach
    exact (LinkForest.get_of_masterOf hstep).1 (h x hx)

/-! ## a bridge -/

def br0 : OperLink := { ifindex := 2, name := "br0" }

def veth0 : OperLink := { ifindex := 3, name := "veth0", master := 2 }

/-- A bridge with one port. -/
def bridgeForest : LinkForest where
  links := [br0, veth0]
  names := by decide
  ifindexes := by decide
  nonzero := by decide
  closed := by decide
  acyclic := Chain.acyclic_of_rank OperLink.ifindex (by decide)

/-- A port of a bond that is itself a port of a bridge, and another port of the
bridge. -/
def bondForest : LinkForest where
  links := [{ ifindex := 5, name := "eth0", master := 4 }, br0,
    { ifindex := 4, name := "bond0", master := 2 }, veth0]
  names := by decide
  ifindexes := by decide
  nonzero := by decide
  closed := by decide
  acyclic := Chain.acyclic_of_rank OperLink.ifindex (by decide)

theorem higherLayerIf_masterChain_eth0 :
    ∃ masters, MasterChain bondForest { ifindex := 5, name := "eth0", master := 4 } masters ∧
      ∃ s, (higherLayerIf (fun _ _ => true) 4 bondForest.toLinkCache "eth0").run {} =
        (.ok SR_ERR_OK, s) ∧ s.nodes = masters.map fun y => .higherLayerIf y.name := by
  have heth0 : { ifindex := 5, name := "eth0", master := 4 } ∈ bondForest.links := by decide
  obtain ⟨masters, hchain, hruns⟩ := higherLayerIf_masterChain heth0
  obtain ⟨error, s, new, hrun, hnodes, -, hall, hsucceeds⟩ :=
    hruns (fun _ _ => true) 4 {} (by decide)
  obtain rfl := hsucceeds fun _ _ => rfl
  rw [hall rfl] at hnodes
  exact ⟨masters, hchain, s, hrun, hnodes⟩

example : ((higherLayerIf (fun _ _ => true) 4 bondForest.toLinkCache "eth0").run {}).2.nodes =
    [.higherLayerIf "bond0", .higherLayerIf "br0"] := by
  decide

theorem br0_isMaster_veth0 : bridgeForest.IsMaster br0 veth0 := .single rfl

theorem layers_converse_iff_bridge :
    ¬ (EmitsHigher (fun _ _ => true) 2 bridgeForest.toLinkCache veth0 br0 ↔
      EmitsLower (fun _ _ => true) 2 bridgeForest.toLinkCache br0 veth0) := by
  have hiff : (EmitsHigher (fun _ _ => true) 2 bridgeForest.toLinkCache veth0 br0 ↔
      EmitsLower (fun _ _ => true) 2 bridgeForest.toLinkCache br0 veth0) ↔
        ¬ bridgeForest.IsMaster br0 veth0 :=
    layers_converse_iff (fun _ _ => rfl) (by decide) (by decide) (by decide)
  exact mt hiff.mp (not_not_intro br0_isMaster_veth0)

/-- The port has the bridge as its higher layer, the bridge nothing as its
lower layer. -/
theorem bridge_without_ports :
    ¬ ∀ (forest : LinkForest) (x y : OperLink), x ∈ forest.links → y ∈ forest.links →
      (EmitsHigher (fun _ _ => true) forest.links.length forest.toLinkCache x y ↔
        EmitsLower (fun _ _ => true) forest.links.length forest.toLinkCache y x) := by
  intro h
  have hbridge := h bridgeForest veth0 br0 (by decide) (by decide)
  have hhigher : EmitsHigher (fun _ _ => true) 2 bridgeForest.toLinkCache veth0 br0 :=
    ⟨{ nodes := [.higherLayerIf "br0"], calls := 5 }, by decide, by decide⟩
  obtain ⟨s, hrun, hmem⟩ := hbridge.mp hhigher
  have hlower : (lowerLayerIf (fun _ _ => true) 2 bridgeForest.toLinkCache br0.name).run {} =
      (.ok SR_ERR_OK, { nodes := [], calls := 4 }) := by decide
  have hnodes : s = { nodes := [], calls := 4 } := (Prod.mk.inj (hrun.symm.trans hlower)).2
  rw [hnodes] at hmem
  cases hmem

end SysrepoInterfaces.Interfaces
