import Mathlib.Data.List.TakeWhile
import SysrepoInterfaces.Interfaces.HashTree

/-!
# SysrepoInterfaces.Interfaces.RoundTrip

The hash as a tree and back.  What is lost on the way is what only the encoder
knows of: the IPv6 flags and MTU, and the neighbours.
-/

namespace SysrepoInterfaces.Interfaces

open CProg DataTree

/-! ## leaf values -/

/-- A digit is neither a blank nor a sign. -/
theorem isDigit_ne {c : Char} (h : c.isDigit = true) :
    c.isWhitespace = false ∧ c ≠ '-' ∧ c ≠ '+' := by
  have hne : ∀ d : Char, d.isDigit = false → c ≠ d := by
    intro d hd hcd
    rw [hcd, hd] at h
    cases h
  refine ⟨?_, hne '-' (by decide), hne '+' (by decide)⟩
  have hblank := hne ' ' (by decide)
  have htab := hne '\t' (by decide)
  have hcr := hne '\r' (by decide)
  have hnl := hne '\n' (by decide)
  simp [Char.isWhitespace, hblank, htab, hcr, hnl]

/-- `atoi` reads back what `snprintf` wrote with `%d` or `%u`. -/
theorem atoi_repr (n : Nat) : atoi n.repr = n := by
  have hdigit : ∀ c ∈ Nat.toDigits 10 n, c.isDigit = true :=
    fun c hc => Nat.isDigit_of_mem_toDigits (by decide) (by decide) hc
  have hvalue : Nat.ofDigitChars 10 ((Nat.toDigits 10 n).takeWhile Char.isDigit) 0 = n := by
    rw [List.takeWhile_eq_self_iff.mpr hdigit, Nat.ofDigitChars_ten_toDigits]
  rw [atoi, Nat.toList_repr]
  cases hdigits : Nat.toDigits 10 n with
  | nil => exact absurd hdigits Nat.toDigits_ne_nil
  | cons c cs =>
      rw [hdigits] at hvalue hdigit
      obtain ⟨hblank, hminus, hplus⟩ := isDigit_ne (hdigit c List.mem_cons_self)
      rw [List.dropWhile_cons_of_neg (by simp [hblank])]
      split
      · next heq => exact absurd (List.cons.inj heq).1 hminus
      · next heq => exact absurd (List.cons.inj heq).1 hplus
      · exact congrArg Nat.cast hvalue

@[simp] theorem uint8Of_repr (n : UInt8) : uint8Of n.toNat.repr = n := by
  have hmod : ((n.toNat : Int) % 2 ^ 8).toNat = n.toNat := by
    have := n.toNat_lt
    omega
  rw [uint8Of, atoi_repr, UInt8.ofInt, hmod, UInt8.ofNat_toNat]

@[simp] theorem uint16Of_repr (n : UInt16) : uint16Of n.toNat.repr = n := by
  have hmod : ((n.toNat : Int) % 2 ^ 16).toNat = n.toNat := by
    have := n.toNat_lt
    omega
  rw [uint16Of, atoi_repr, UInt16.ofInt, hmod, UInt16.ofNat_toNat]

/-- A flag as the loader sets it. -/
def IsFlag (flag : UInt8) : Prop := flag = 0 ∨ flag = 1

theorem flagOf_flagText {flag : UInt8} (h : IsFlag flag) : flagOf (flagText flag) = flag := by
  rcases h with rfl | rfl <;> decide

/-! ## the tree of an interface -/

def mtuLeaf (mtu : Nat) : List Node := if mtu ≠ 0 then [.leaf "mtu" (toString mtu)] else []

def subnetLeaf : Ipv4AddressSubnet → List Node
  | .none => []
  | .prefixLength length => [.leaf "prefix-length" (toString length.toNat)]
  | .netmask mask => [.leaf "netmask" mask]

def ipv4AddressLeaves (address : Ipv4Address) : List Node :=
  .leaf "ip" address.ip :: subnetLeaf address.subnet

def ipv6AddressLeaves (address : Ipv6Address) : List Node :=
  [.leaf "ip" address.ip, .leaf "prefix-length" (toString address.prefixLength.toNat)]

def neighborLeaves (neighbor : Neighbor) : List Node :=
  [.leaf "ip" neighbor.ip, .leaf "link-layer-address" neighbor.linkLayerAddress]

def ipv4Node (ipv4 : Ipv4) : Node :=
  .container "ipv4" ([.leaf "enabled" (flagText ipv4.enabled),
    .leaf "forwarding" (flagText ipv4.forwarding)] ++ mtuLeaf ipv4.mtu.toNat ++
    ipv4.address.map (fun x => .list "address" (ipv4AddressLeaves x)) ++
    ipv4.neighbor.map fun x => .list "neighbor" (neighborLeaves x))

def ipv6Node (ipv6 : Ipv6) : Node :=
  .container "ipv6" ([.leaf "enabled" (flagText ipv6.enabled),
    .leaf "forwarding" (flagText ipv6.forwarding)] ++ mtuLeaf ipv6.mtu.toNat ++
    ipv6.address.map (fun x => .list "address" (ipv6AddressLeaves x)) ++
    ipv6.neighbor.map fun x => .list "neighbor" (neighborLeaves x))

/-- The list instance of an interface. -/
def interfaceNode (interface : Interface) : Node :=
  .list "interface" [.leaf "name" interface.name, .leaf "enabled" (flagText interface.enabled),
    .leaf "type" interface.type, ipv4Node interface.ipv4, ipv6Node interface.ipv6]

section Encode

variable (lib : Nat → Bool)

theorem yields_lyCreate (node : Node) : Prog.Yields (lyCreate lib node) node := by
  intro n b n' h
  rw [lyCreate, Prog.run_bind_ok (Prog.run_get n), Prog.run_bind_ok (Prog.run_modify _ n)] at h
  cases hlib : lib n with
  | false =>
      rw [hlib] at h
      cases h
  | true =>
      rw [hlib] at h
      cases h
      rfl

theorem yields_mtuToLy (mtu : Nat) : Prog.Yields (mtuToLy lib mtu) (mtuLeaf mtu) := by
  rw [mtuToLy, mtuLeaf]
  split
  · exact (yields_lyCreate lib _).bind (Prog.yields_pure _)
  · exact Prog.yields_pure _

theorem yields_subnetToLy (subnet : Ipv4AddressSubnet) :
    Prog.Yields (subnetToLy lib subnet) (subnetLeaf subnet) := by
  cases subnet with
  | none => exact Prog.yields_pure _
  | prefixLength length => exact (yields_lyCreate lib _).bind (Prog.yields_pure _)
  | netmask mask => exact (yields_lyCreate lib _).bind (Prog.yields_pure _)

theorem yields_ipv4AddressToLy (address : Ipv4Address) :
    Prog.Yields (ipv4AddressToLy lib address) (.list "address" (ipv4AddressLeaves address)) := by
  refine (yields_lyCreate lib _).bind ?_
  exact (yields_subnetToLy lib address.subnet).bind (Prog.yields_pure _)

theorem yields_ipv6AddressToLy (address : Ipv6Address) :
    Prog.Yields (ipv6AddressToLy lib address) (.list "address" (ipv6AddressLeaves address)) := by
  refine (yields_lyCreate lib _).bind ?_
  exact (yields_lyCreate lib _).bind (Prog.yields_pure _)

theorem yields_neighborToLy (neighbor : Neighbor) :
    Prog.Yields (neighborToLy lib neighbor) (.list "neighbor" (neighborLeaves neighbor)) := by
  refine (yields_lyCreate lib _).bind ?_
  exact (yields_lyCreate lib _).bind (Prog.yields_pure _)

theorem yields_ipv4ToLy (ipv4 : Ipv4) : Prog.Yields (ipv4ToLy lib ipv4) (ipv4Node ipv4) := by
  refine (yields_lyCreate lib _).bind ?_
  refine (yields_lyCreate lib _).bind ((yields_lyCreate lib _).bind ?_)
  refine (yields_mtuToLy lib _).bind ?_
  refine (Prog.yields_mapM fun x _ => yields_ipv4AddressToLy lib x).bind ?_
  exact (Prog.yields_mapM fun x _ => yields_neighborToLy lib x).bind (Prog.yields_pure _)

theorem yields_ipv6ToLy (ipv6 : Ipv6) : Prog.Yields (ipv6ToLy lib ipv6) (ipv6Node ipv6) := by
  refine (yields_lyCreate lib _).bind ?_
  refine (yields_lyCreate lib _).bind ((yields_lyCreate lib _).bind ?_)
  refine (yields_mtuToLy lib _).bind ?_
  refine (Prog.yields_mapM fun x _ => yields_ipv6AddressToLy lib x).bind ?_
  exact (Prog.yields_mapM fun x _ => yields_neighborToLy lib x).bind (Prog.yields_pure _)

theorem yields_interfaceToLy (interface : Interface) :
    Prog.Yields (interfaceToLy lib interface) (interfaceNode interface) := by
  refine (yields_lyCreate lib _).bind ?_
  refine (yields_lyCreate lib _).bind ((yields_lyCreate lib _).bind ?_)
  refine (yields_ipv4ToLy lib interface.ipv4).bind ?_
  exact (yields_ipv6ToLy lib interface.ipv6).bind (Prog.yields_pure _)

/-- When every call succeeds, the tree has an instance for each element. -/
theorem interfacesInterfaceHashToLy_eq_ok {ifHash : InterfaceHash} {nodes : List Node} {n n' : Nat}
    (h : (interfacesInterfaceHashToLy lib ifHash).run n = (.ok (0, nodes), n')) :
    nodes = ifHash.map interfaceNode := by
  have hne : ((0 : Int), nodes) ≠ (-1, []) := by simp
  have hbody := Prog.run_of_status_ne h hne
  obtain ⟨nodes', n₁, hnodes, hret⟩ := Prog.bind_eq_ok hbody
  cases hret
  exact Prog.yields_mapM (fun x _ => yields_interfaceToLy lib x) _ _ _ hnodes

end Encode

/-! ## reading the tree -/

theorem childLeaf_mtu_ipv4Node (ipv4 : Ipv4) : (ipv4Node ipv4).childLeaf "mtu" =
    if ipv4.mtu.toNat ≠ 0 then some (toString ipv4.mtu.toNat) else none := by
  by_cases h : ipv4.mtu.toNat = 0
  · simp [ipv4Node, Node.childLeaf, mtuLeaf, h, List.findSome?_append]
  · simp [ipv4Node, Node.childLeaf, mtuLeaf, h]

theorem childLeaf_mtu_ipv6Node (ipv6 : Ipv6) : (ipv6Node ipv6).childLeaf "mtu" =
    if ipv6.mtu.toNat ≠ 0 then some (toString ipv6.mtu.toNat) else none := by
  by_cases h : ipv6.mtu.toNat = 0
  · simp [ipv6Node, Node.childLeaf, mtuLeaf, h, List.findSome?_append]
  · simp [ipv6Node, Node.childLeaf, mtuLeaf, h]

theorem childLeaf_ipv4Node (ipv4 : Ipv4) :
    (ipv4Node ipv4).childLeaf "enabled" = some (flagText ipv4.enabled) ∧
      (ipv4Node ipv4).childLeaf "forwarding" = some (flagText ipv4.forwarding) := by
  simp [ipv4Node, Node.childLeaf]

theorem filterMap_listNode_mtuLeaf (name : String) (mtu : Nat) :
    (mtuLeaf mtu).filterMap (Node.listNode name) = [] := by
  rw [mtuLeaf]
  split <;> simp

theorem childList_ipv4Node (ipv4 : Ipv4) : (ipv4Node ipv4).childList "address" =
    ipv4.address.map fun x => .list "address" (ipv4AddressLeaves x) := by
  simp [ipv4Node, Node.childList, List.filterMap_cons, filterMap_listNode_mtuLeaf]

theorem childList_ipv6Node (ipv6 : Ipv6) : (ipv6Node ipv6).childList "address" =
    ipv6.address.map fun x => .list "address" (ipv6AddressLeaves x) := by
  simp [ipv6Node, Node.childList, List.filterMap_cons, filterMap_listNode_mtuLeaf]

theorem mtu_ipv4Node (ipv4 : Ipv4) :
    (((ipv4Node ipv4).childLeaf "mtu").map uint16Of).getD 0 = ipv4.mtu := by
  rw [childLeaf_mtu_ipv4Node]
  split
  · simp
  · next h =>
      have hzero : ipv4.mtu.toNat = (0 : UInt16).toNat := by simpa using h
      exact (UInt16.toNat_inj.mp hzero).symm

/-- An address with a subnet is read back. -/
theorem ipv4AddressFromLy_leaves {address : Ipv4Address} (h : address.subnet ≠ .none) :
    ipv4AddressFromLy (.list "address" (ipv4AddressLeaves address)) = .ok address := by
  obtain ⟨ip, subnet⟩ := address
  cases subnet with
  | none => exact absurd rfl h
  | prefixLength length =>
      simp [ipv4AddressFromLy, ipv4AddressLeaves, subnetLeaf, Node.childLeaf]
  | netmask mask => simp [ipv4AddressFromLy, ipv4AddressLeaves, subnetLeaf, Node.childLeaf]

theorem ipv6AddressFromLy_leaves (address : Ipv6Address) :
    ipv6AddressFromLy (.list "address" (ipv6AddressLeaves address)) = .ok address := by
  simp [ipv6AddressFromLy, ipv6AddressLeaves, Node.childLeaf]

/-- An address loop reads the list backwards. -/
theorem addressesFromLy_map {α : Type} {fromLy : Node → Exit α} (toLy : α → Node) {xs : List α}
    (h : ∀ x ∈ xs, fromLy (toLy x) = .ok x) :
    addressesFromLy fromLy (xs.map toLy) = .ok xs.reverse := by
  suffices hloop : ∀ (list : List α), (xs.map toLy).foldlM (fun list node => do
      let element ← fromLy node
      return element :: list) list = Exit.ok (xs.reverse ++ list) by
    simpa [addressesFromLy] using hloop []
  induction xs with
  | nil => exact fun _ => rfl
  | cons x xs ih =>
      intro list
      have hx := h x List.mem_cons_self
      rw [List.map_cons, List.foldlM_cons, hx]
      refine (ih (fun y hy => h y (List.mem_cons_of_mem _ hy)) (x :: list)).trans ?_
      simp

/-! ## the round trip -/

/-- An interface of the kind `interfaces_load_interface` builds. -/
structure Loaded (interface : Interface) : Prop where
  enabled : IsFlag interface.enabled
  ipv4Enabled : IsFlag interface.ipv4.enabled
  ipv4Forwarding : IsFlag interface.ipv4.forwarding
  ipv4Subnets : ∀ address ∈ interface.ipv4.address, address.subnet ≠ .none
  ipv6Enabled : IsFlag interface.ipv6.enabled
  ipv6Forwarding : IsFlag interface.ipv6.forwarding

/-- What an interface comes back as. -/
def decoded (interface : Interface) : Interface :=
  { interface with
    ipv4 := { interface.ipv4 with address := interface.ipv4.address.reverse, neighbor := [] }
    ipv6 := { address := interface.ipv6.address.reverse } }

theorem childContainer_ipv4_interfaceNode (interface : Interface) :
    (interfaceNode interface).childContainer "ipv4" = some (ipv4Node interface.ipv4) := by
  simp [interfaceNode, Node.childContainer, ipv4Node, List.findSome?_cons]

theorem childContainer_ipv6_interfaceNode (interface : Interface) :
    (interfaceNode interface).childContainer "ipv6" = some (ipv6Node interface.ipv6) := by
  simp [interfaceNode, Node.childContainer, ipv4Node, ipv6Node, List.findSome?_cons]

/-- The pointers are all set anew, so what an earlier interface left in them
does not matter. -/
theorem interfaceFromLy_interfaceNode {interface : Interface} (h : Loaded interface)
    (ptrs : NodePointers) :
    ∃ ptrs', interfaceFromLy ptrs (interfaceNode interface) = .ok (ptrs', decoded interface) := by
  have hname : (interfaceNode interface).childLeaf "name" = some interface.name := by
    simp [interfaceNode, Node.childLeaf]
  have htype : (interfaceNode interface).childLeaf "type" = some interface.type := by
    simp [interfaceNode, Node.childLeaf]
  have henabled : (interfaceNode interface).childLeaf "enabled" =
      some (flagText interface.enabled) := by
    simp [interfaceNode, Node.childLeaf]
  have hipv4 := childContainer_ipv4_interfaceNode interface
  have hipv6 := childContainer_ipv6_interfaceNode interface
  obtain ⟨h4enabled, h4forwarding⟩ := childLeaf_ipv4Node interface.ipv4
  have haddr4 := addressesFromLy_map (fun x => Node.list "address" (ipv4AddressLeaves x))
    fun x hx => ipv4AddressFromLy_leaves (h.ipv4Subnets x hx)
  have haddr6 := addressesFromLy_map (fun x => Node.list "address" (ipv6AddressLeaves x))
    fun x (_ : x ∈ interface.ipv6.address) => ipv6AddressFromLy_leaves x
  rw [interfaceFromLy, hname, htype]
  simp only [hipv4, hipv6, NodePointers.enterIpv4, NodePointers.enterIpv6, childList_ipv4Node,
    childList_ipv6Node, haddr4, haddr6, Exit.ok_bind, Exit.pure_eq, henabled, h4enabled,
    h4forwarding, mtu_ipv4Node, Option.map_some, Option.getD_some, flagOf_flagText h.enabled,
    flagOf_flagText h.ipv4Enabled, flagOf_flagText h.ipv4Forwarding]
  exact ⟨_, rfl⟩

/-- An element with a new name is added at the end. -/
theorem interfaceHashAddElement_of_not_mem {ifHash : InterfaceHash} {newElement : Interface}
    (h : newElement.name ∉ ifHash.map Interface.name) :
    interfaceHashAddElement ifHash newElement = (0, ifHash ++ [newElement]) := by
  rw [interfaceHashAddElement, Keyed.lookup_eq_none_iff.mpr h]

/-- With distinct names, the loop adds what each instance is read as. -/
theorem interfacesFromLy_map {todo : InterfaceHash} (hloaded : ∀ x ∈ todo, Loaded x)
    {ifHash : InterfaceHash} (hnames : ((ifHash ++ todo).map Interface.name).Nodup)
    (ptrs : NodePointers) :
    interfacesFromLy ptrs ifHash (todo.map interfaceNode) = (0, ifHash ++ todo.map decoded) := by
  induction todo generalizing ifHash ptrs with
  | nil => simp [interfacesFromLy]
  | cons x todo ih =>
      obtain ⟨ptrs', hread⟩ := interfaceFromLy_interfaceNode (hloaded x List.mem_cons_self) ptrs
      have hnew : (decoded x).name ∉ ifHash.map Interface.name := by
        rw [List.map_append, List.nodup_append] at hnames
        intro hmem
        exact hnames.2.2 _ hmem _ List.mem_cons_self rfl
      have hnames' : (((ifHash ++ [decoded x]) ++ todo).map Interface.name).Nodup := by
        rw [List.append_assoc]
        simpa [decoded] using hnames
      have hrest := ih (fun y hy => hloaded y (List.mem_cons_of_mem _ hy)) hnames' ptrs'
      rw [List.map_cons, interfacesFromLy, hread]
      simp only [interfaceHashAddElement_of_not_mem hnew, hrest]
      simp

/-- The same interface, the lists compared as multisets. -/
structure SameInterface (a b : Interface) : Prop where
  name : a.name = b.name
  type : a.type = b.type
  enabled : a.enabled = b.enabled
  ipv4Enabled : a.ipv4.enabled = b.ipv4.enabled
  ipv4Forwarding : a.ipv4.forwarding = b.ipv4.forwarding
  ipv4Mtu : a.ipv4.mtu = b.ipv4.mtu
  ipv4Address : a.ipv4.address.Perm b.ipv4.address
  ipv4Neighbor : a.ipv4.neighbor.Perm b.ipv4.neighbor
  ipv6Enabled : a.ipv6.enabled = b.ipv6.enabled
  ipv6Forwarding : a.ipv6.forwarding = b.ipv6.forwarding
  ipv6Mtu : a.ipv6.mtu = b.ipv6.mtu
  ipv6Address : a.ipv6.address.Perm b.ipv6.address
  ipv6Neighbor : a.ipv6.neighbor.Perm b.ipv6.neighbor

/-- What only the encoder knows of is empty. -/
structure Lossless (interface : Interface) : Prop where
  ipv4Neighbor : interface.ipv4.neighbor = []
  ipv6Enabled : interface.ipv6.enabled = 0
  ipv6Forwarding : interface.ipv6.forwarding = 0
  ipv6Mtu : interface.ipv6.mtu = 0
  ipv6Neighbor : interface.ipv6.neighbor = []

theorem sameInterface_decoded_iff (interface : Interface) :
    SameInterface interface (decoded interface) ↔ Lossless interface := by
  constructor
  · intro h
    exact ⟨List.perm_nil.mp h.ipv4Neighbor, h.ipv6Enabled, h.ipv6Forwarding, h.ipv6Mtu,
      List.perm_nil.mp h.ipv6Neighbor⟩
  · intro h
    exact { name := rfl, type := rfl, enabled := rfl, ipv4Enabled := rfl, ipv4Forwarding := rfl
            ipv4Mtu := rfl
            ipv4Address := (List.reverse_perm _).symm
            ipv4Neighbor := h.ipv4Neighbor ▸ List.Perm.refl _
            ipv6Enabled := h.ipv6Enabled
            ipv6Forwarding := h.ipv6Forwarding
            ipv6Mtu := h.ipv6Mtu
            ipv6Address := (List.reverse_perm _).symm
            ipv6Neighbor := h.ipv6Neighbor ▸ List.Perm.refl _ }

/-- The hashes have elements of the same names, and the same interface under
each of them. -/
def SameHash (a b : InterfaceHash) : Prop :=
  ∀ name, Option.Rel SameInterface (interfaceHashGetElement a name) (interfaceHashGetElement b name)

theorem interfaceHashGetElement_map_decoded (ifHash : InterfaceHash) (name : String) :
    interfaceHashGetElement (ifHash.map decoded) name =
      (interfaceHashGetElement ifHash name).map decoded := by
  induction ifHash with
  | nil => rfl
  | cons x ifHash ih =>
      rw [interfaceHashGetElement, interfaceHashGetElement] at ih
      rw [interfaceHashGetElement, interfaceHashGetElement, List.map_cons, Keyed.lookup_cons,
        Keyed.lookup_cons]
      by_cases h : x.name = name
      · rw [if_pos h]
        exact if_pos h
      · rw [if_neg h, ← ih]
        exact if_neg h

/-- When the tree of a hash could be built, reading it succeeds and gives the
hash back, if and only if no element has IPv6 flags, an IPv6 MTU or
neighbours. -/
theorem fromLy_toLy_iff (lib : Nat → Bool) {ifHash : InterfaceHash} {nodes : List Node} {n n' : Nat}
    (hloaded : ∀ x ∈ ifHash, Loaded x) (hnames : (ifHash.map Interface.name).Nodup)
    (hto : (interfacesInterfaceHashToLy lib ifHash).run n = (.ok (0, nodes), n')) :
    (interfacesInterfaceHashFromLy nodes).1 = 0 ∧
        SameHash ifHash (interfacesInterfaceHashFromLy nodes).2 ↔
      ∀ x ∈ ifHash, Lossless x := by
  have hread : interfacesInterfaceHashFromLy nodes = (0, ifHash.map decoded) := by
    have hall : (([] ++ ifHash : InterfaceHash).map Interface.name).Nodup := hnames
    rw [interfacesInterfaceHashToLy_eq_ok lib hto]
    exact interfacesFromLy_map hloaded hall {}
  rw [hread]
  constructor
  · intro ⟨_, hsame⟩ x hx
    have hget : interfaceHashGetElement ifHash x.name = some x := Keyed.lookup_of_mem hnames hx
    have hrel := hsame x.name
    rw [interfaceHashGetElement_map_decoded, hget] at hrel
    cases hrel with
    | some h => exact (sameInterface_decoded_iff x).mp h
  · intro hlossless
    refine ⟨rfl, fun name => ?_⟩
    rw [interfaceHashGetElement_map_decoded]
    cases hget : interfaceHashGetElement ifHash name with
    | none => exact .none
    | some x =>
        have hx := hlossless x (Keyed.mem_of_lookup hget)
        exact .some ((sameInterface_decoded_iff x).mpr hx)

/-- An interface with addresses of every kind. -/
def eth0 : Interface where
  name := "eth0"
  type := "iana-if-type:ethernetCsmacd"
  enabled := 1
  ipv4 := { enabled := 1, mtu := 1500, address := [
    { ip := "192.0.2.1", subnet := .prefixLength 24 },
    { ip := "198.51.100.1", subnet := .netmask "255.255.255.0" }] }
  ipv6 := { address := [{ ip := "2001:db8::1", prefixLength := 64 }] }

/-- Another one, with an address that `eth0` has too. -/
def veth1 : Interface where
  name := "veth1"
  type := "iana-if-type:ilan"
  ipv4 := { forwarding := 1, mtu := 9000, address := [
    { ip := "192.0.2.1", subnet := .prefixLength 32 },
    { ip := "203.0.113.7", subnet := .prefixLength 24 }] }
  ipv6 := { address := [
    { ip := "2001:db8::2", prefixLength := 64 },
    { ip := "fe80::1", prefixLength := 10 }] }

theorem fromLy_toLy_eth0 :
    (interfacesInterfaceHashFromLy [interfaceNode eth0, interfaceNode veth1]).1 = 0 ∧
      SameHash [eth0, veth1]
        (interfacesInterfaceHashFromLy [interfaceNode eth0, interfaceNode veth1]).2 := by
  have hloaded : ∀ x ∈ [eth0, veth1], Loaded x := by
    intro x hx
    obtain rfl | hx := List.mem_cons.mp hx
    · exact { enabled := .inr rfl, ipv4Enabled := .inr rfl, ipv4Forwarding := .inl rfl
              ipv4Subnets := by decide
              ipv6Enabled := .inl rfl
              ipv6Forwarding := .inl rfl }
    · obtain rfl := List.mem_singleton.mp hx
      exact { enabled := .inl rfl, ipv4Enabled := .inl rfl, ipv4Forwarding := .inr rfl
              ipv4Subnets := by decide
              ipv6Enabled := .inl rfl
              ipv6Forwarding := .inl rfl }
  have hlossless : ∀ x ∈ [eth0, veth1], Lossless x := by
    intro x hx
    obtain rfl | hx := List.mem_cons.mp hx
    · exact ⟨rfl, rfl, rfl, rfl, rfl⟩
    · obtain rfl := List.mem_singleton.mp hx
      exact ⟨rfl, rfl, rfl, rfl, rfl⟩
  have hto : (interfacesInterfaceHashToLy (fun _ => true) [eth0, veth1]).run 0 =
      (.ok (0, [interfaceNode eth0, interfaceNode veth1]), 34) := rfl
  exact (fromLy_toLy_iff (fun _ => true) hloaded (by decide) hto).mpr hlossless

/-- The loopback interface, as the loader finds it. -/
def lo : Interface where
  name := "lo"
  type := "iana-if-type:softwareLoopback"
  ipv4 := { enabled := 1 }
  ipv6 := { enabled := 1 }

/-- Its IPv6 flag does not come back. -/
theorem lo_ipv6Enabled_lost :
    (interfacesInterfaceHashToLy (fun _ => true) [lo]).run 0 = (.ok (0, [interfaceNode lo]), 9) ∧
      interfacesInterfaceHashFromLy [interfaceNode lo] = (0, [{ lo with ipv6 := {} }]) ∧
      ¬ SameHash [lo] (interfacesInterfaceHashFromLy [interfaceNode lo]).2 := by
  have hread : interfacesInterfaceHashFromLy [interfaceNode lo] =
      (0, [{ lo with ipv6 := {} }]) := by
    decide
  refine ⟨rfl, hread, fun hsame => ?_⟩
  rw [hread] at hsame
  have hrel := hsame "lo"
  cases hrel with
  | some h => exact absurd h.ipv6Enabled (by decide)

end SysrepoInterfaces.Interfaces
