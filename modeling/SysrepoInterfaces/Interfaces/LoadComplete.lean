import SysrepoInterfaces.Interfaces.Load

/-!
# SysrepoInterfaces.Interfaces.LoadComplete

When the hash of `interfaces_load_interface` holds all that the dumps hold: one
link of an unsupported type, or one empty cache, and nothing is loaded.
-/

namespace SysrepoInterfaces.Interfaces

open CProg

/-! ## completeness -/

/-- A link the plugin has a YANG type for. -/
def Supports (link : RtnlLink) : Bool := (interfaceTypeNl2ly link.type).isSome

/-- The element that stands for an IPv4 address of the dump. -/
def LoadEnv.ipv4Address (env : LoadEnv) (addr : OperAddr) : Ipv4Address where
  ip := cutPrefix (env.nlAddr2str addr.localAddr)
  subnet := .prefixLength (UInt8.ofNat addr.prefixlen)

/-- The element that stands for an IPv6 address of the dump. -/
def LoadEnv.ipv6Address (env : LoadEnv) (addr : OperAddr) : Ipv6Address where
  ip := cutPrefix (env.nlAddr2str addr.localAddr)
  prefixLength := UInt8.ofNat addr.prefixlen

/-- The element that stands for a neighbour of the dump. -/
def LoadEnv.neighbor (env : LoadEnv) (neigh : RtnlNeigh) : Neighbor where
  ip := cutPrefix (env.nlAddr2str neigh.dst)
  linkLayerAddress := env.lladdrText neigh.lladdr

/-- The addresses of the dump with the index of a link, in an address family. -/
def LoadEnv.addrsOf (env : LoadEnv) (link : RtnlLink) (af : Nat) : List OperAddr :=
  env.addrs.filter fun addr => addr.ifindex = link.ifindex ∧ addr.localAddr.family = af

/-- The neighbours of the dump with the index of a link, in an address family. -/
def LoadEnv.neighsOf (env : LoadEnv) (link : RtnlLink) (af : Nat) : List RtnlNeigh :=
  env.neighs.filter fun neigh => neigh.ifindex = link.ifindex ∧ neigh.dst.family = af

/-- An element has the addresses and neighbours of a link, each as often as the
dump has it. -/
structure HasEntries (env : LoadEnv) (link : RtnlLink) (element : Interface) : Prop where
  ipv4Address : element.ipv4.address.Perm ((env.addrsOf link AF_INET).map env.ipv4Address)
  ipv4Neighbor : element.ipv4.neighbor.Perm ((env.neighsOf link AF_INET).map env.neighbor)
  ipv6Address : element.ipv6.address.Perm ((env.addrsOf link AF_INET6).map env.ipv6Address)
  ipv6Neighbor : element.ipv6.neighbor.Perm ((env.neighsOf link AF_INET6).map env.neighbor)

/-- A hash has one element for each supported link, no other one, and all the
entries of those links. -/
structure Complete (env : LoadEnv) (hash : InterfaceHash) : Prop where
  names : (hash.map Interface.name).Perm ((env.links.filter Supports).map RtnlLink.name)
  entries : ∀ link ∈ env.links, ∀ element ∈ hash, element.name = link.name →
    HasEntries env link element

/-! ## loading and stopping -/

section Loads

variable {α β : Type} {env : LoadEnv} {p : LoadM α} {f : α → LoadM β} {a : α} {b : β}

/-- The program ends normally with a value and leaves the hash alone. -/
def Loads (p : LoadM α) (a : α) : Prop := ∀ s, ∃ calls, p.run s = (.ok a, { s with calls })

/-- The program leaves through `error_out` and leaves the hash alone. -/
def Stops (p : LoadM α) : Prop := ∀ s, ∃ calls, p.run s = (.error, { s with calls })

theorem loads_pure (a : α) : Loads (pure a) a := fun s => ⟨s.calls, rfl⟩

theorem stops_fail : Stops (Prog.fail : LoadM α) := fun s => ⟨s.calls, rfl⟩

theorem Loads.bind (hp : Loads p a) (hf : Loads (f a) b) : Loads (p >>= f) b := by
  intro s
  obtain ⟨calls, hrun⟩ := hp s
  obtain ⟨calls', hrun'⟩ := hf { s with calls }
  exact ⟨calls', by rw [Prog.run_bind_ok hrun, hrun']⟩

theorem Loads.bind_stops (hp : Loads p a) (hf : Stops (f a)) : Stops (p >>= f) := by
  intro s
  obtain ⟨calls, hrun⟩ := hp s
  obtain ⟨calls', hrun'⟩ := hf { s with calls }
  exact ⟨calls', by rw [Prog.run_bind_ok hrun, hrun']⟩

theorem Stops.bind (hp : Stops p) : Stops (p >>= f) := by
  intro s
  obtain ⟨calls, hrun⟩ := hp s
  exact ⟨calls, Prog.run_bind_error hrun⟩

theorem loads_checked (h : env.Succeeds) (call : LoadCall) : Loads (loadChecked env call) () := by
  intro s
  have hlib := h s.calls call
  exact ⟨s.calls + 1, by simp [loadChecked, Prog.run_bind, hlib]⟩

theorem loads_string (h : env.Succeeds) (text : String) : Loads (loadString env text) text := by
  unfold loadString
  exact (loads_checked h .strdup).bind (loads_pure text)

/-- The loop puts the listed entries of the cache in front. -/
theorem loads_entries {cache : List α} {listed : α → Bool} {element : α → LoadM β}
    {entry : α → β} (h : ∀ x, Loads (element x) (entry x)) (list : List β) :
    Loads (cache.foldlM (loadEntry listed element) list)
      (((cache.filter listed).map entry).reverse ++ list) := by
  induction cache generalizing list with
  | nil => exact loads_pure list
  | cons x cache ih =>
      rw [List.foldlM_cons, List.filter_cons]
      cases hlisted : listed x with
      | true =>
          have hround : Loads (loadEntry listed element list x) (entry x :: list) := by
            unfold loadEntry
            rw [if_pos hlisted]
            exact (h x).bind (loads_pure _)
          have hrest := ih (entry x :: list)
          simp only [if_true, List.map_cons, List.reverse_cons, List.append_assoc]
          exact hround.bind hrest
      | false =>
          have hround : Loads (loadEntry listed element list x) list := by
            unfold loadEntry
            rw [if_neg (by simp [hlisted])]
            exact loads_pure list
          exact hround.bind (ih list)

theorem loads_cache (hlib : env.Succeeds) {alloc : LoadCall} {cache : List α} {listed : α → Bool}
    {element : α → LoadM β} {entry : α → β} (h : ∀ x, Loads (element x) (entry x))
    (hne : cache ≠ []) :
    Loads (loadCache env alloc cache listed element)
      ((cache.filter listed).map entry).reverse := by
  unfold loadCache
  rw [if_neg hne]
  have hloop := @loads_entries _ _ cache listed element entry h []
  rw [List.append_nil] at hloop
  exact (loads_checked hlib alloc).bind hloop

/-- An empty cache is an error. -/
theorem stops_cache (hlib : env.Succeeds) {alloc : LoadCall} {cache : List α} {listed : α → Bool}
    {element : α → LoadM β} (hempty : cache = []) :
    Stops (loadCache env alloc cache listed element) := by
  unfold loadCache
  rw [if_pos hempty]
  exact (loads_checked hlib alloc).bind_stops stops_fail

end Loads

/-! ## one link -/

section Element

variable {env : LoadEnv}

theorem loads_ipv4Address (hlib : env.Succeeds) (addr : OperAddr) :
    Loads (ipv4AddressLoad env addr) (env.ipv4Address addr) := by
  unfold ipv4AddressLoad
  exact (loads_string hlib _).bind (loads_pure _)

theorem loads_ipv6Address (hlib : env.Succeeds) (addr : OperAddr) :
    Loads (ipv6AddressLoad env addr) (env.ipv6Address addr) := by
  unfold ipv6AddressLoad
  exact (loads_string hlib _).bind (loads_pure _)

theorem loads_neighbor (hlib : env.Succeeds) (neigh : RtnlNeigh) :
    Loads (neighborLoad env neigh) (env.neighbor neigh) := by
  unfold neighborLoad
  apply (loads_string hlib _).bind
  exact (loads_string hlib _).bind (loads_pure _)

theorem loads_type (hlib : env.Succeeds) {link : RtnlLink} {lyType : String}
    (h : interfaceTypeNl2ly link.type = some lyType) :
    Loads (interfaceLoadType env link) lyType := by
  unfold interfaceLoadType
  rw [h]
  exact loads_string hlib lyType

theorem stops_type {link : RtnlLink} (h : ¬ Supports link) :
    Stops (interfaceLoadType env link) := by
  have hnone : interfaceTypeNl2ly link.type = none := by simpa [Supports] using h
  unfold interfaceLoadType
  rw [hnone]
  exact stops_fail

/-- What an element needs: a type, and caches that are not empty. -/
structure Loadable (env : LoadEnv) (link : RtnlLink) : Prop where
  type : Supports link
  addrs : env.addrs ≠ []
  neighs : env.neighs ≠ []

/-- A loadable link gives an element with its name and its entries. -/
theorem exists_loads_element (hlib : env.Succeeds) {link : RtnlLink} (h : Loadable env link) :
    ∃ element, Loads (loadElement env link) element ∧ element.name = link.name ∧
      HasEntries env link element := by
  obtain ⟨lyType, htype⟩ := Option.isSome_iff_exists.mp h.type
  let element : Interface := {
    name := link.name
    type := lyType
    enabled := interfaceLoadEnabled link
    ipv4 := {
      enabled := 1
      mtu := interfaceIpv4LoadMtu link
      address := ((env.addrs.filter (addrListed .ipv4 link)).map env.ipv4Address).reverse
      neighbor := ((env.neighs.filter (neighListed .ipv4 link)).map env.neighbor).reverse }
    ipv6 := {
      enabled := 1
      mtu := interfaceIpv6LoadMtu link
      address := ((env.addrs.filter (addrListed .ipv6 link)).map env.ipv6Address).reverse
      neighbor := ((env.neighs.filter (neighListed .ipv6 link)).map env.neighbor).reverse } }
  have hloads : Loads (loadElement env link) element := by
    unfold loadElement
    apply (loads_string hlib link.name).bind
    apply (loads_type hlib htype).bind
    apply (loads_cache hlib (loads_ipv4Address hlib) h.addrs).bind
    apply (loads_cache hlib (loads_neighbor hlib) h.neighs).bind
    apply (loads_cache hlib (loads_ipv6Address hlib) h.addrs).bind
    exact (loads_cache hlib (loads_neighbor hlib) h.neighs).bind (loads_pure element)
  have hentries : HasEntries env link element := {
    ipv4Address := List.reverse_perm _
    ipv4Neighbor := List.reverse_perm _
    ipv6Address := List.reverse_perm _
    ipv6Neighbor := List.reverse_perm _ }
  exact ⟨element, hloads, rfl, hentries⟩

/-- Any other link stops the loading. -/
theorem stops_element (hlib : env.Succeeds) {link : RtnlLink} (h : ¬ Loadable env link) :
    Stops (loadElement env link) := by
  unfold loadElement
  apply (loads_string hlib link.name).bind_stops
  by_cases htype : Supports link
  · obtain ⟨lyType, hly⟩ := Option.isSome_iff_exists.mp htype
    apply (loads_type hlib hly).bind_stops
    by_cases haddrs : env.addrs = []
    · exact (stops_cache hlib haddrs).bind
    · apply (loads_cache hlib (loads_ipv4Address hlib) haddrs).bind_stops
      have hneighs : env.neighs = [] := by
        by_contra hne
        exact h ⟨htype, haddrs, hne⟩
      exact (stops_cache hlib hneighs).bind
  · exact (stops_type htype).bind

end Element

/-! ## the link loop -/

section Loop

variable {env : LoadEnv}

/-- A loadable link that is not in the hash yet comes to its end. -/
theorem run_loadLink (hlib : env.Succeeds) {link : RtnlLink} (h : Loadable env link)
    {s : LoadState} (hnew : link.name ∉ s.ifHash.map Interface.name) :
    ∃ element calls, (loadLink env link).run s =
        (.ok (), { ifHash := s.ifHash ++ [element], calls }) ∧
      element.name = link.name ∧ HasEntries env link element := by
  obtain ⟨element, hloads, hname, hentries⟩ := exists_loads_element hlib h
  obtain ⟨calls, hrun⟩ := hloads s
  have hnone : Keyed.lookup Interface.name element.name s.ifHash = none := by
    rw [Keyed.lookup_eq_none_iff, hname]
    exact hnew
  refine ⟨element, calls, ?_, hname, hentries⟩
  unfold loadLink
  rw [Prog.run_bind_ok hrun]
  simp [Prog.run_bind, interfaceHashAddElement, hnone]

/-- What the hash holds after some links, each with its entries. -/
def HoldsLinks (env : LoadEnv) (links : List RtnlLink) (hash : InterfaceHash) : Prop :=
  List.Forall₂ (fun link element => element.name = link.name ∧ HasEntries env link element)
    links hash

theorem HoldsLinks.names {links : List RtnlLink} {hash : InterfaceHash}
    (h : HoldsLinks env links hash) : hash.map Interface.name = links.map RtnlLink.name := by
  induction h with
  | nil => rfl
  | cons hhead _ ih => rw [List.map_cons, List.map_cons, ih, hhead.1]

/-- The loop over loadable links. -/
theorem run_loadLinks (hlib : env.Succeeds) {links done : List RtnlLink} {s : LoadState}
    (hdone : HoldsLinks env done s.ifHash)
    (hnames : ((done ++ links).map RtnlLink.name).Nodup)
    (h : ∀ link ∈ links, Loadable env link) :
    ∃ s', (forM links (loadLink env)).run s = (.ok (), s') ∧
      HoldsLinks env (done ++ links) s'.ifHash := by
  induction links generalizing done s with
  | nil => exact ⟨s, rfl, by simpa using hdone⟩
  | cons link links ih =>
      have hnew : link.name ∉ s.ifHash.map Interface.name := by
        rw [hdone.names]
        simp only [List.map_append, List.map_cons] at hnames
        grind
      obtain ⟨element, calls, hrun, hname, hentries⟩ := run_loadLink hlib (h link (by simp)) hnew
      have hnext : HoldsLinks env (done ++ [link]) (s.ifHash ++ [element]) :=
        List.rel_append hdone (.cons ⟨hname, hentries⟩ .nil)
      have hloop := @ih (done ++ [link]) { ifHash := s.ifHash ++ [element], calls } hnext
        (by simpa using hnames) fun link hlink => h link (by simp [hlink])
      obtain ⟨s', hrest, hall⟩ := hloop
      refine ⟨s', ?_, by simpa using hall⟩
      rw [List.forM_cons, Prog.run_bind_ok hrun]
      exact hrest

/-- A link that cannot be loaded ends the loop, wherever it stands. -/
theorem loadLinks_ne_ok (hlib : env.Succeeds) {links : List RtnlLink} {link : RtnlLink}
    (hlink : link ∈ links) (h : ¬ Loadable env link) (s s' : LoadState) :
    (forM links (loadLink env)).run s ≠ (.ok (), s') := by
  induction links generalizing s with
  | nil => cases hlink
  | cons first links ih =>
      intro hrun
      rw [List.forM_cons] at hrun
      obtain ⟨_, s₁, hfirst, hrest⟩ := Prog.bind_eq_ok hrun
      cases List.mem_cons.mp hlink with
      | inl heq =>
          subst heq
          obtain ⟨calls, hstop⟩ := (stops_element hlib h) s
          unfold loadLink at hfirst
          rw [Prog.run_bind_error hstop] at hfirst
          cases hfirst
      | inr hmem => exact ih hmem s₁ hrest

/-- An element of such a hash belongs to one link. -/
theorem HoldsLinks.entries {links : List RtnlLink} {hash : InterfaceHash}
    (h : HoldsLinks env links hash) (hnames : (links.map RtnlLink.name).Nodup) :
    ∀ link ∈ links, ∀ element ∈ hash, element.name = link.name → HasEntries env link element := by
  induction h with
  | nil => simp
  | @cons link element links hash hhead htail ih =>
      have hrest := HoldsLinks.names htail
      rw [List.map_cons, List.nodup_cons] at hnames
      intro l hl e he hname
      have hlinkName : ∀ l ∈ links, l.name ≠ link.name :=
        fun l hl heq => hnames.1 (heq ▸ List.mem_map_of_mem hl)
      have helementName : ∀ e ∈ hash, e.name ≠ link.name := by
        intro e he heq
        have hmem : e.name ∈ hash.map Interface.name := List.mem_map_of_mem he
        rw [hrest, heq] at hmem
        exact hnames.1 hmem
      cases List.mem_cons.mp hl with
      | inl heq =>
          subst heq
          cases List.mem_cons.mp he with
          | inl heq => exact heq ▸ hhead.2
          | inr he => exact absurd hname (helementName e he)
      | inr hl =>
          cases List.mem_cons.mp he with
          | inl heq => exact absurd (hname.symm.trans (heq ▸ hhead.1)) (hlinkName l hl)
          | inr he => exact ih hnames.2 l hl e he hname

end Loop

/-! ## the whole load -/

section Load

variable {env : LoadEnv} {s : LoadState}

/-- The calls before the loop. -/
theorem run_interfacesLoadInterface (hlib : env.Succeeds) (s : LoadState) :
    ∃ calls, (interfacesLoadInterface env).run s =
      (Prog.exitCode (-1) (if env.links = [] then Prog.fail else forM env.links (loadLink env))).run
        { ifHash := [], calls } := by
  obtain ⟨c₁, h₁⟩ := loads_checked hlib .nlSocketAlloc { s with ifHash := [] }
  obtain ⟨c₂, h₂⟩ := loads_checked hlib .nlConnect { ifHash := [], calls := c₁ }
  obtain ⟨c₃, h₃⟩ := loads_checked hlib .rtnlLinkAllocCache { ifHash := [], calls := c₂ }
  refine ⟨c₃, ?_⟩
  unfold interfacesLoadInterface
  rw [Prog.run_exitCode, Prog.run_exitCode, Prog.run_bind_ok (Prog.run_modify ..),
    Prog.run_bind_ok h₁, Prog.run_bind_ok h₂, Prog.run_bind_ok h₃]

/-- The load returns 0 with everything in the hash exactly when there is a
link, an address and a neighbour, and every link is of a supported type. -/
theorem load_complete_iff (hlib : env.Succeeds) (hnames : (env.links.map RtnlLink.name).Nodup) :
    (∃ s', (interfacesLoadInterface env).run s = (.ok 0, s') ∧ Complete env s'.ifHash) ↔
      env.links ≠ [] ∧ env.addrs ≠ [] ∧ env.neighs ≠ [] ∧ ∀ link ∈ env.links, Supports link := by
  obtain ⟨calls, hload⟩ := run_interfacesLoadInterface hlib s
  rw [hload]
  constructor
  · rintro ⟨s', hrun, -⟩
    have hbody := (Prog.exitCode_eq_zero (by decide)).mp hrun
    by_cases hlinks : env.links = []
    · rw [if_pos hlinks] at hbody
      cases hbody
    · rw [if_neg hlinks] at hbody
      have hall : ∀ link ∈ env.links, Loadable env link := by
        intro link hlink
        by_contra h
        exact loadLinks_ne_ok hlib hlink h _ _ hbody
      obtain ⟨link, hlink⟩ := List.exists_mem_of_ne_nil _ hlinks
      have hone := hall link hlink
      exact ⟨hlinks, hone.addrs, hone.neighs, fun link hlink => (hall link hlink).type⟩
  · rintro ⟨hlinks, haddrs, hneighs, htypes⟩
    have hall : ∀ link ∈ env.links, Loadable env link :=
      fun link hlink => ⟨htypes link hlink, haddrs, hneighs⟩
    obtain ⟨s', hrun, hholds⟩ := @run_loadLinks env hlib env.links [] { ifHash := [], calls }
      .nil (by simpa using hnames) hall
    rw [List.nil_append] at hholds
    have hfilter : env.links.filter Supports = env.links := List.filter_eq_self.mpr htypes
    refine ⟨s', ?_, ?_, hholds.entries hnames⟩
    · rw [if_neg hlinks]
      exact (Prog.exitCode_eq_zero (by decide)).mpr hrun
    · rw [hholds.names, hfilter]

end Load

/-! ## three hosts -/

/-- The loopback link, which has no type. -/
def loopbackLink : RtnlLink := { ifindex := 1, name := "lo", operstate := 0, mtu := 65536 }

/-- A host with an ethernet link, an address on both, and a neighbour. -/
def hostEnv : LoadEnv where
  links := [loopbackLink, { ifindex := 2, name := "eth0", type := some "veth" }]
  addrs := [
    { ifindex := 1, localAddr := addr4 0x7f000001 8, prefixlen := 8, flags := IFA_F_PERMANENT },
    { ifindex := 2, localAddr := addr4 0xc0000201 24, prefixlen := 24, flags := 0 }]
  neighs := [{ ifindex := 2, dst := addr4 0xc0000209 32, lladdr := none }]
  nlAddr2str addr := dottedQuad (octetsOf addr.bits) ++ "/" ++ toString addr.prefixLen
  lib _ _ := true

theorem load_complete_iff_hostEnv :
    (∃ s', (interfacesLoadInterface hostEnv).run {} = (.ok 0, s') ∧ Complete hostEnv s'.ifHash) ↔
      hostEnv.links ≠ [] ∧ hostEnv.addrs ≠ [] ∧ hostEnv.neighs ≠ [] ∧
        ∀ link ∈ hostEnv.links, Supports link :=
  load_complete_iff (fun _ _ => rfl) (by decide)

/-- The same host before it has talked to anyone. -/
def quietHostEnv : LoadEnv := { hostEnv with neighs := [] }

/-- The same host with a tunnel device. -/
def tunnelHostEnv : LoadEnv :=
  { hostEnv with links := hostEnv.links ++ [{ ifindex := 3, name := "tun0", type := some "tun" }] }

/-- Without a neighbour the load fails at the first link; with a link of an
unsupported type it fails at that link. -/
theorem quietHost_not_loaded :
    ((interfacesLoadInterface quietHostEnv).run {}).1 = .ok (-1) ∧
      ((interfacesLoadInterface tunnelHostEnv).run {}).1 = .ok (-1) ∧
      ¬ ∃ s', (interfacesLoadInterface quietHostEnv).run {} = (.ok 0, s') ∧
        Complete quietHostEnv s'.ifHash := by
  have hquiet : ((interfacesLoadInterface quietHostEnv).run {}).1 = .ok (-1) := by decide
  refine ⟨hquiet, by decide, ?_⟩
  rintro ⟨s', hrun, -⟩
  rw [hrun] at hquiet
  exact absurd (Exit.ok.inj hquiet) (by decide)

end SysrepoInterfaces.Interfaces
