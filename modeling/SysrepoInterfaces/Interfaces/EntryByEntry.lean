import SysrepoInterfaces.Interfaces.RoundTrip

/-!
# SysrepoInterfaces.Interfaces.EntryByEntry

What one interface of a list passes on to the next ones while the list is read:
the pointers to its IPv4 leaves, which are set only where there is an IPv4
container and never cleared.
-/

namespace SysrepoInterfaces.Interfaces

open CProg DataTree

/-! ## one entry -/

/-- The pointers after an entry: both address loops ran to their ends. -/
def NodePointers.after (ptrs : NodePointers) (node : Node) : NodePointers :=
  { ptrs.enterIpv4 (node.childContainer "ipv4") with ipv4Address := [], ipv6Address := [] }

/-- No address pointer is left from an entry before. -/
structure NodePointers.Clean (ptrs : NodePointers) : Prop where
  ipv4Address : ptrs.ipv4Address = []
  ipv6Address : ptrs.ipv6Address = []

theorem NodePointers.clean_after (ptrs : NodePointers) (node : Node) : (ptrs.after node).Clean :=
  ⟨rfl, rfl⟩

theorem NodePointers.clean_empty : ({} : NodePointers).Clean := ⟨rfl, rfl⟩

/-- The element of an entry that is read after others: without an IPv4
container of its own it takes the flags and the MTU the pointers still show. -/
def inherit (ptrs : NodePointers) (node : Node) (interface : Interface) : Interface :=
  if (node.childContainer "ipv4").isSome then interface
  else { interface with ipv4 := { interface.ipv4 with
    enabled := (ptrs.ipv4Enabled.map flagOf).getD 0
    forwarding := (ptrs.ipv4Forwarding.map flagOf).getD 0
    mtu := (ptrs.ipv4Mtu.map uint16Of).getD 0 } }

theorem name_inherit (ptrs : NodePointers) (node : Node) (interface : Interface) :
    (inherit ptrs node interface).name = interface.name := by
  rw [inherit]
  split <;> rfl

/-- Reading an entry after others differs from reading it alone in what it
inherits. -/
theorem interfaceFromLy_eq {ptrs : NodePointers} (hclean : ptrs.Clean) (node : Node) :
    interfaceFromLy ptrs node = (interfaceFromLy {} node >>= fun r =>
      Exit.ok (ptrs.after node, inherit ptrs node r.2)) := by
  obtain ⟨h4, h6⟩ := hclean
  have hv6 : ((ptrs.enterIpv4 (node.childContainer "ipv4")).enterIpv6
      (node.childContainer "ipv6")).ipv6Address =
      ((({} : NodePointers).enterIpv4 (node.childContainer "ipv4")).enterIpv6
        (node.childContainer "ipv6")).ipv6Address := by
    cases node.childContainer "ipv6" with
    | some ipv6 => rfl
    | none => cases node.childContainer "ipv4" <;> exact h6
  have hv4 : ((ptrs.enterIpv4 (node.childContainer "ipv4")).enterIpv6
      (node.childContainer "ipv6")).ipv4Address =
      ((({} : NodePointers).enterIpv4 (node.childContainer "ipv4")).enterIpv6
        (node.childContainer "ipv6")).ipv4Address := by
    cases node.childContainer "ipv4" with
    | some ipv4 => cases node.childContainer "ipv6" <;> rfl
    | none => cases node.childContainer "ipv6" <;> exact h4
  unfold interfaceFromLy
  cases hname : node.childLeaf "name" with
  | none => rfl
  | some name =>
      cases htype : node.childLeaf "type" with
      | none => rfl
      | some type =>
          simp only [hv4, hv6, bind_assoc]
          refine bind_congr fun ipv4Address => bind_congr fun ipv6Address => ?_
          simp only [Exit.pure_eq, Exit.ok_bind, NodePointers.after, inherit]
          cases node.childContainer "ipv4" with
          | some ipv4 => cases node.childContainer "ipv6" <;> rfl
          | none => cases node.childContainer "ipv6" <;> rfl

/-! ## the loop -/

/-- What an entry is read as when it is read alone. -/
def aloneElement (node : Node) : Interface :=
  match interfaceFromLy {} node with
  | .ok (_, interface) => interface
  | .error => { name := "", type := "" }
  | .crash => { name := "", type := "" }

/-- The entry can be read. -/
def Readable (node : Node) : Prop := ∃ ptrs, interfaceFromLy {} node = .ok (ptrs, aloneElement node)

theorem readable_of_ok {node : Node} {r : NodePointers × Interface}
    (h : interfaceFromLy {} node = .ok r) : Readable node :=
  ⟨r.1, by rw [aloneElement, h]⟩

/-- The name of the element is the key of the entry. -/
theorem Readable.name {node : Node} (h : Readable node) :
    node.childLeaf "name" = some (aloneElement node).name := by
  obtain ⟨ptrs, h⟩ := h
  generalize aloneElement node = x at h
  unfold interfaceFromLy at h
  cases hname : node.childLeaf "name" with
  | none =>
      rw [hname] at h
      cases h
  | some name =>
      rw [hname] at h
      cases htype : node.childLeaf "type" with
      | none =>
          rw [htype] at h
          cases h
      | some type =>
          rw [htype] at h
          obtain ⟨ipv4Address, -, h⟩ := Exit.bind_eq_ok.mp h
          obtain ⟨ipv6Address, -, h⟩ := Exit.bind_eq_ok.mp h
          cases h
          rfl

/-- The elements of a list, read one after the other. -/
def elements (ptrs : NodePointers) : List Node → List Interface
  | [] => []
  | node :: nodes => inherit ptrs node (aloneElement node) :: elements (ptrs.after node) nodes

theorem map_name_elements (ptrs : NodePointers) (nodes : List Node) :
    (elements ptrs nodes).map Interface.name = nodes.map fun node => (aloneElement node).name := by
  induction nodes generalizing ptrs with
  | nil => rfl
  | cons node nodes ih => rw [elements, List.map_cons, name_inherit, ih, List.map_cons]

/-- The loop over readable entries with distinct names. -/
theorem interfacesFromLy_eq {nodes : List Node} (hread : ∀ node ∈ nodes, Readable node)
    {ifHash : InterfaceHash} {ptrs : NodePointers} (hclean : ptrs.Clean)
    (hnames : (ifHash.map Interface.name ++
      nodes.map fun node => (aloneElement node).name).Nodup) :
    interfacesFromLy ptrs ifHash nodes = (0, ifHash ++ elements ptrs nodes) := by
  induction nodes generalizing ptrs ifHash with
  | nil => simp [interfacesFromLy, elements]
  | cons node nodes ih =>
      obtain ⟨ptrs', hnode⟩ := hread node List.mem_cons_self
      have hnew : (inherit ptrs node (aloneElement node)).name ∉ ifHash.map Interface.name := by
        rw [name_inherit]
        intro hmem
        exact (List.nodup_append.mp hnames).2.2 _ hmem _ List.mem_cons_self rfl
      have hnames' : ((ifHash ++ [inherit ptrs node (aloneElement node)]).map Interface.name ++
          nodes.map fun node => (aloneElement node).name).Nodup := by
        rw [List.map_append, List.map_singleton, name_inherit, List.append_assoc]
        exact hnames
      have hrest := ih (fun n hn => hread n (List.mem_cons_of_mem _ hn))
        (NodePointers.clean_after ptrs node) hnames'
      rw [interfacesFromLy, interfaceFromLy_eq hclean, hnode]
      simp only [Exit.ok_bind, interfaceHashAddElement_of_not_mem hnew, hrest, elements,
        List.append_assoc, List.singleton_append]

/-- When the loop succeeds, every entry can be read. -/
theorem readable_of_interfacesFromLy {nodes : List Node} {ifHash : InterfaceHash}
    {ptrs : NodePointers} (hclean : ptrs.Clean) (h : (interfacesFromLy ptrs ifHash nodes).1 = 0) :
    ∀ node ∈ nodes, Readable node := by
  induction nodes generalizing ptrs ifHash with
  | nil => exact nofun
  | cons node nodes ih =>
      rw [interfacesFromLy, interfaceFromLy_eq hclean] at h
      cases hnode : interfaceFromLy {} node with
      | error =>
          rw [hnode] at h
          cases h
      | crash =>
          rw [hnode] at h
          cases h
      | ok r =>
          rw [hnode] at h
          intro n hn
          rcases List.mem_cons.mp hn with rfl | hn
          · exact readable_of_ok hnode
          · exact ih (NodePointers.clean_after ptrs node) h n hn

/-! ## what is carried -/

/-- The IPv4 container of the last entry that has one. -/
def latestIpv4 (nodes : List Node) : Option Node :=
  (nodes.filterMap fun node => node.childContainer "ipv4").getLast?

/-- The pointers after the entries of a list. -/
def NodePointers.afterAll (ptrs : NodePointers) (nodes : List Node) : NodePointers :=
  nodes.foldl NodePointers.after ptrs

/-- They show the leaves of the last IPv4 container. -/
theorem afterAll_eq (nodes : List Node) : ({} : NodePointers).afterAll nodes =
    match latestIpv4 nodes with
    | some ipv4 => {
        ipv4Enabled := ipv4.childLeaf "enabled"
        ipv4Forwarding := ipv4.childLeaf "forwarding"
        ipv4Mtu := ipv4.childLeaf "mtu" }
    | none => {} := by
  induction nodes using List.reverseRecOn with
  | nil => rfl
  | append_singleton nodes node ih =>
      rw [NodePointers.afterAll, List.foldl_append, List.foldl_cons, List.foldl_nil]
      rw [NodePointers.afterAll] at ih
      rw [ih, latestIpv4, latestIpv4, List.filterMap_append, NodePointers.after]
      cases hipv4 : node.childContainer "ipv4" with
      | some ipv4 => simp [hipv4, NodePointers.enterIpv4]
      | none =>
          have hnone : [node].filterMap (fun node => node.childContainer "ipv4") = [] := by
            simp [hipv4]
          rw [hnone, List.append_nil]
          cases (nodes.filterMap fun node => node.childContainer "ipv4").getLast? <;> rfl

theorem elements_append (ptrs : NodePointers) (xs ys : List Node) :
    elements ptrs (xs ++ ys) = elements ptrs xs ++ elements (ptrs.afterAll xs) ys := by
  induction xs generalizing ptrs with
  | nil => rfl
  | cons x xs ih =>
      rw [List.cons_append, elements, elements, ih, List.cons_append]
      rfl

/-- An IPv4 container with something to pass on. -/
def Carries (ipv4 : Node) : Prop :=
  ipv4.childLeaf "enabled" = some "true" ∨ ipv4.childLeaf "forwarding" = some "true" ∨
    ∃ text, ipv4.childLeaf "mtu" = some text ∧ uint16Of text ≠ 0

theorem flag_eq_zero_iff (value : Option String) :
    (value.map flagOf).getD 0 = 0 ↔ value ≠ some "true" := by
  cases value with
  | none => simp
  | some text =>
      by_cases h : text = "true"
      · simp [flagOf, h]
      · simp [flagOf, h]

theorem mtu_eq_zero_iff (value : Option String) :
    (value.map uint16Of).getD 0 = 0 ↔ ¬ ∃ text, value = some text ∧ uint16Of text ≠ 0 := by
  cases value with
  | none => simp
  | some text => simp

theorem inherit_empty {node : Node} (hread : Readable node) :
    inherit {} node (aloneElement node) = aloneElement node := by
  obtain ⟨ptrs, hnode⟩ := hread
  have hsame := hnode
  rw [interfaceFromLy_eq NodePointers.clean_empty, hnode, Exit.ok_bind] at hsame
  exact congrArg Prod.snd (Exit.ok.inj hsame)

/-- Without an IPv4 container an entry has no flags and no MTU of its own, so it
is unchanged when there is none to inherit. -/
theorem inherit_eq_self_iff {node : Node} (hread : Readable node)
    (h : node.childContainer "ipv4" = none) (ptrs : NodePointers) :
    inherit ptrs node (aloneElement node) = aloneElement node ↔
      (ptrs.ipv4Enabled.map flagOf).getD 0 = 0 ∧ (ptrs.ipv4Forwarding.map flagOf).getD 0 = 0 ∧
        (ptrs.ipv4Mtu.map uint16Of).getD 0 = 0 := by
  have hempty := inherit_empty hread
  revert hempty
  generalize aloneElement node = interface
  obtain ⟨name, type, enabled, ⟨v4enabled, v4forwarding, v4mtu, address, neighbor⟩, ipv6⟩ :=
      interface
  simp only [inherit, h, Option.isSome_none, Bool.false_eq_true, if_false, Interface.mk.injEq,
    Ipv4.mk.injEq, true_and, and_true, Option.map_none, Option.getD_none]
  intro ⟨henabled, hforwarding, hmtu⟩
  rw [← henabled, ← hforwarding, ← hmtu]

/-- An entry inherits nothing when it has an IPv4 container, or there is
nothing to inherit. -/
theorem inherit_afterAll_iff {node : Node} (hread : Readable node) (nodes : List Node) :
    inherit (({} : NodePointers).afterAll nodes) node (aloneElement node) = aloneElement node ↔
      (node.childContainer "ipv4" = none → ∀ ipv4, latestIpv4 nodes = some ipv4 →
        ¬ Carries ipv4) := by
  cases hipv4 : node.childContainer "ipv4" with
  | some ipv4 => simp [inherit, hipv4]
  | none =>
      rw [inherit_eq_self_iff hread hipv4, afterAll_eq]
      cases hlatest : latestIpv4 nodes with
      | none => simp
      | some ipv4 =>
          rw [flag_eq_zero_iff, flag_eq_zero_iff, mtu_eq_zero_iff]
          simp only [forall_const, Option.some.injEq, forall_eq', Carries, not_or]

/-! ## entry by entry -/

/-- No entry without an IPv4 container comes after one with something to pass
on, with none in between that sets the pointers anew. -/
def NothingInherited (nodes : List Node) : Prop :=
  ∀ pre node post, nodes = pre ++ node :: post → node.childContainer "ipv4" = none →
    ∀ ipv4, latestIpv4 pre = some ipv4 → ¬ Carries ipv4

/-- The element of an entry is the one it has when it is parsed alone, and the
result for a concatenation is the union of the results. -/
def ParsedEntryByEntry (nodes : List Node) : Prop :=
  (∀ node ∈ nodes, ∃ element, interfacesInterfaceHashFromLy [node] = (0, [element]) ∧
    interfaceHashGetElement (interfacesInterfaceHashFromLy nodes).2 element.name = some element) ∧
  ∀ xs ys, nodes = xs ++ ys → (interfacesInterfaceHashFromLy nodes).2 =
    (interfacesInterfaceHashFromLy xs).2 ++ (interfacesInterfaceHashFromLy ys).2

/-- Readable entries with distinct names. -/
structure Entries (nodes : List Node) : Prop where
  read : ∀ node ∈ nodes, Readable node
  names : (nodes.map fun node => (aloneElement node).name).Nodup

theorem Entries.fromLy {nodes : List Node} (h : Entries nodes) :
    interfacesInterfaceHashFromLy nodes = (0, elements {} nodes) :=
  interfacesFromLy_eq h.read NodePointers.clean_empty h.names

theorem Entries.append {xs ys : List Node} (h : Entries (xs ++ ys)) : Entries xs ∧ Entries ys := by
  have hnames := h.names
  rw [List.map_append] at hnames
  refine ⟨⟨fun n hn => h.read n (List.mem_append_left _ hn), hnames.of_append_left⟩, ?_⟩
  exact ⟨fun n hn => h.read n (List.mem_append_right _ hn), hnames.of_append_right⟩

theorem Entries.fromLy_singleton {nodes : List Node} (h : Entries nodes) {node : Node}
    (hnode : node ∈ nodes) : interfacesInterfaceHashFromLy [node] = (0, [aloneElement node]) := by
  have hsingle : Entries [node] := by
    refine ⟨fun n hn => ?_, List.nodup_singleton _⟩
    obtain rfl := List.mem_singleton.mp hn
    exact h.read n hnode
  rw [hsingle.fromLy, elements, elements, inherit_empty (h.read node hnode)]

/-- Where nothing is inherited the elements are those of the entries alone. -/
theorem elements_afterAll_eq (pre : List Node) {post : List Node}
    (hread : ∀ node ∈ post, Readable node)
    (hnothing : NothingInherited (pre ++ post)) :
    elements (({} : NodePointers).afterAll pre) post = post.map aloneElement := by
  induction post generalizing pre with
  | nil => rfl
  | cons node post ih =>
      have hself : inherit (({} : NodePointers).afterAll pre) node (aloneElement node) =
          aloneElement node :=
        (inherit_afterAll_iff (hread node List.mem_cons_self) pre).mpr (hnothing pre node post rfl)
      have hafter : (({} : NodePointers).afterAll pre).after node =
          ({} : NodePointers).afterAll (pre ++ [node]) := by
        simp [NodePointers.afterAll]
      have hrest := ih (pre ++ [node]) (fun n hn => hread n (List.mem_cons_of_mem _ hn))
        (by simpa using hnothing)
      rw [elements, hself, hafter, hrest, List.map_cons]

theorem latestIpv4_append_of_some {xs ys : List Node} {ipv4 : Node}
    (h : latestIpv4 ys = some ipv4) : latestIpv4 (xs ++ ys) = some ipv4 := by
  rw [latestIpv4] at h
  rw [latestIpv4, List.filterMap_append, List.getLast?_append, h, Option.some_or]

theorem NothingInherited.append {xs ys : List Node} (h : NothingInherited (xs ++ ys)) :
    NothingInherited xs ∧ NothingInherited ys := by
  constructor
  · intro pre node post hxs
    exact h pre node (post ++ ys) (by simp [hxs])
  · intro pre node post hys hnone ipv4 hlatest
    exact h (xs ++ pre) node post (by simp [hys]) hnone ipv4 (latestIpv4_append_of_some hlatest)

theorem Entries.fromLy_eq_map {nodes : List Node} (h : Entries nodes)
    (hnothing : NothingInherited nodes) :
    interfacesInterfaceHashFromLy nodes = (0, nodes.map aloneElement) := by
  have hmap := elements_afterAll_eq [] h.read hnothing
  rw [h.fromLy]
  exact congrArg _ hmap

theorem Entries.hashGetElement {nodes : List Node} (h : Entries nodes) {element : Interface}
    (hmem : element ∈ elements {} nodes) :
    interfaceHashGetElement (interfacesInterfaceHashFromLy nodes).2 element.name =
      some element := by
  have hnames : ((elements {} nodes).map Interface.name).Nodup := by
    rw [map_name_elements]
    exact h.names
  rw [h.fromLy]
  exact Keyed.lookup_of_mem hnames hmem

/-- When a list of entries with distinct names is read with success, it is read
entry by entry if and only if nothing is inherited. -/
theorem parsedEntryByEntry_iff {nodes : List Node}
    (hnames : (nodes.map fun node => node.childLeaf "name").Nodup)
    (hok : (interfacesInterfaceHashFromLy nodes).1 = 0) :
    ParsedEntryByEntry nodes ↔ NothingInherited nodes := by
  have hread : ∀ node ∈ nodes, Readable node :=
    readable_of_interfacesFromLy NodePointers.clean_empty hok
  have hentries : Entries nodes := by
    have hsome : (nodes.map fun node => node.childLeaf "name") =
        (nodes.map fun node => (aloneElement node).name).map some := by
      rw [List.map_map]
      exact List.map_congr_left fun node hnode => (hread node hnode).name
    rw [hsome] at hnames
    exact ⟨hread, hnames.of_map _⟩
  constructor
  · intro hparsed pre node post hnodes
    have hnode : node ∈ nodes := by simp [hnodes]
    obtain ⟨element, hsingle, hget⟩ := hparsed.1 node hnode
    rw [hentries.fromLy_singleton hnode] at hsingle
    obtain rfl : aloneElement node = element := by simpa using hsingle
    have hmem : inherit (({} : NodePointers).afterAll pre) node (aloneElement node) ∈
        elements {} nodes := by
      rw [hnodes, elements_append, elements]
      simp
    have hinherited := hentries.hashGetElement hmem
    rw [name_inherit, hget] at hinherited
    exact (inherit_afterAll_iff (hread node hnode) pre).mp (Option.some.inj hinherited).symm
  · intro hnothing
    have hwhole := hentries.fromLy_eq_map hnothing
    constructor
    · intro node hnode
      have hmem : aloneElement node ∈ elements {} nodes := by
        have hmap : elements {} nodes = nodes.map aloneElement :=
          elements_afterAll_eq [] hread hnothing
        rw [hmap]
        exact List.mem_map_of_mem hnode
      exact ⟨_, hentries.fromLy_singleton hnode, hentries.hashGetElement hmem⟩
    · intro xs ys hnodes
      subst hnodes
      have hleft := hentries.append.1.fromLy_eq_map hnothing.append.1
      have hright := hentries.append.2.fromLy_eq_map hnothing.append.2
      rw [hwhole, hleft, hright, List.map_append]

/-- An entry whose IPv4 is enabled. -/
def eth0Entry : Node := .list "interface" [
  .leaf "name" "eth0", .leaf "type" "iana-if-type:ethernetCsmacd",
  .container "ipv4" [.leaf "enabled" "true", .leaf "mtu" "1400"]]

/-- An entry that says nothing of IPv4. -/
def eth1Entry : Node := .list "interface" [
  .leaf "name" "eth1", .leaf "type" "iana-if-type:ethernetCsmacd"]

theorem parsedEntryByEntry_eth1_eth0 :
    ParsedEntryByEntry [eth1Entry, eth0Entry] ↔ NothingInherited [eth1Entry, eth0Entry] :=
  parsedEntryByEntry_iff (by decide) (by decide)

/-- In the other order `eth1` gets the flag and the MTU of `eth0`. -/
theorem eth1_not_alone :
    (interfacesInterfaceHashFromLy [eth0Entry, eth1Entry]).1 = 0 ∧
      (interfaceHashGetElement (interfacesInterfaceHashFromLy [eth0Entry, eth1Entry]).2 "eth1").map
        (fun x => (x.ipv4.enabled, x.ipv4.mtu)) = some (1, 1400) ∧
      (interfaceHashGetElement (interfacesInterfaceHashFromLy [eth1Entry]).2 "eth1").map
        (fun x => (x.ipv4.enabled, x.ipv4.mtu)) = some (0, 0) ∧
      ¬ ParsedEntryByEntry [eth0Entry, eth1Entry] := by
  refine ⟨by decide, by decide, by decide, fun hparsed => ?_⟩
  obtain ⟨element, hsingle, hget⟩ := hparsed.1 eth1Entry (by simp)
  have halone : interfacesInterfaceHashFromLy [eth1Entry] =
      (0, [{ name := "eth1", type := "iana-if-type:ethernetCsmacd" }]) := by decide
  rw [halone] at hsingle
  obtain rfl : ({ name := "eth1", type := "iana-if-type:ethernetCsmacd" } : Interface) =
      element := by
    simpa using hsingle
  revert hget
  decide

end SysrepoInterfaces.Interfaces
