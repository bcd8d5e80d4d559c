import SysrepoInterfaces.Interfaces.AddressOrigin

/-!
# SysrepoInterfaces.Interfaces.Load

`interfaces_load_interface` and the `load.c` files below it: the kernel's links
as the interface hash the startup configuration is made from.  For each link
the address and the neighbour cache are dumped again, once for each family.
-/

namespace SysrepoInterfaces.Interfaces

open CProg

/-! ## the environment -/

/-- The library calls whose result is checked. -/
inductive LoadCall where
  | nlSocketAlloc
  | nlConnect
  | rtnlLinkAllocCache
  | rtnlAddrAllocCache
  | rtnlNeighAllocCache
  | strdup
deriving DecidableEq, Repr

/-- What the dumps of the kernel hold, and the library. -/
structure LoadEnv where
  links : List RtnlLink
  addrs : List OperAddr
  neighs : List RtnlNeigh
  /-- `nl_addr2str` -/
  nlAddr2str : NlAddr → String
  /-- outcome of the n-th checked call -/
  lib : Nat → LoadCall → Bool

/-- Every call succeeds, the dumps among them. -/
def LoadEnv.Succeeds (env : LoadEnv) : Prop := ∀ n call, env.lib n call = true

structure LoadState where
  ifHash : InterfaceHash := []
  /-- checked calls made -/
  calls : Nat := 0
deriving DecidableEq

abbrev LoadM := Prog LoadState

/-- Make a checked call and go to `error_out` unless it succeeds. -/
def loadChecked (env : LoadEnv) (call : LoadCall) : LoadM Unit := do
  let s ← Prog.get
  Prog.modify fun s => { s with calls := s.calls + 1 }
  if env.lib s.calls call then return () else Prog.fail

/-- A value the element gets a copy of. -/
def loadString (env : LoadEnv) (text : String) : LoadM String := do
  loadChecked env .strdup
  return text

/-! ## one interface -/

/-- `interfaces_interface_type_nl2ly`; `none` is an error. -/
def interfaceTypeNl2ly (nlType : Option String) : Option String :=
  match nlType with
  | none => some "iana-if-type:other"
  | some nlType =>
      if nlType = "veth" then some "iana-if-type:ethernetCsmacd"
      else if nlType = "vcan" then some "iana-if-type:softwareLoopback"
      else if nlType = "vlan" then some "iana-if-type:l2vlan"
      else if nlType = "dummy" then some "iana-if-type:other"
      else if nlType = "bridge" then some "iana-if-type:bridge"
      else none

def interfaceLoadName (env : LoadEnv) (link : RtnlLink) : LoadM String := loadString env link.name

def interfaceLoadType (env : LoadEnv) (link : RtnlLink) : LoadM String :=
  match interfaceTypeNl2ly link.type with
  | some lyType => loadString env lyType
  | none => Prog.fail

def IF_OPER_UNKNOWN : Nat := 0

def interfaceLoadEnabled (link : RtnlLink) : UInt8 :=
  if link.operstate = IF_OPER_UP ∨ link.operstate = IF_OPER_UNKNOWN then 1 else 0

/-- `(uint16_t)mtu`. -/
def interfaceIpv4LoadMtu (link : RtnlLink) : UInt16 := UInt16.ofNat link.mtu

/-- The cast is that of IPv4 here as well. -/
def interfaceIpv6LoadMtu (link : RtnlLink) : UInt32 := (UInt16.ofNat link.mtu).toUInt32

/-! ## its addresses and neighbours -/

/-- One round of the loop over a cache; an element is prepended. -/
def loadEntry {α β : Type} (listed : α → Bool) (element : α → LoadM β) (list : List β)
    (entry : α) : LoadM (List β) :=
  if listed entry then do
    let newElement ← element entry
    return newElement :: list
  else return list

/-- The loop over a cache.  One without a first object is an error. -/
def loadCache {α β : Type} (env : LoadEnv) (alloc : LoadCall) (cache : List α)
    (listed : α → Bool) (element : α → LoadM β) : LoadM (List β) := do
  loadChecked env alloc
  if cache = [] then Prog.fail
  else cache.foldlM (loadEntry listed element) []

/-- The addresses of a link in a family. -/
def addrListed (family : IpFamily) (link : RtnlLink) (addr : OperAddr) : Bool :=
  addr.ifindex = link.ifindex ∧ addr.localAddr.family = family.af

/-- The neighbours of a link in a family. -/
def neighListed (family : IpFamily) (link : RtnlLink) (neigh : RtnlNeigh) : Bool :=
  neigh.ifindex = link.ifindex ∧ neigh.dst.family = family.af

def ipv4AddressLoad (env : LoadEnv) (addr : OperAddr) : LoadM Ipv4Address := do
  let ip ← loadString env (cutPrefix (env.nlAddr2str addr.localAddr))
  return { ip, subnet := .prefixLength (UInt8.ofNat addr.prefixlen) }

def ipv6AddressLoad (env : LoadEnv) (addr : OperAddr) : LoadM Ipv6Address := do
  let ip ← loadString env (cutPrefix (env.nlAddr2str addr.localAddr))
  return { ip, prefixLength := UInt8.ofNat addr.prefixlen }

/-- `nl_addr2str` of a link layer address; it prints `none` for `NULL`. -/
def LoadEnv.lladdrText (env : LoadEnv) (lladdr : Option NlAddr) : String :=
  (lladdr.map env.nlAddr2str).getD "none"

def neighborLoad (env : LoadEnv) (neigh : RtnlNeigh) : LoadM Neighbor := do
  let ip ← loadString env (cutPrefix (env.nlAddr2str neigh.dst))
  let linkLayerAddress ← loadString env (env.lladdrText neigh.lladdr)
  return { ip, linkLayerAddress }

def interfaceIpv4LoadAddress (env : LoadEnv) (link : RtnlLink) : LoadM (List Ipv4Address) :=
  loadCache env .rtnlAddrAllocCache env.addrs (addrListed .ipv4 link) (ipv4AddressLoad env)

def interfaceIpv4LoadNeighbor (env : LoadEnv) (link : RtnlLink) : LoadM (List Neighbor) :=
  loadCache env .rtnlNeighAllocCache env.neighs (neighListed .ipv4 link) (neighborLoad env)

def interfaceIpv6LoadAddress (env : LoadEnv) (link : RtnlLink) : LoadM (List Ipv6Address) :=
  loadCache env .rtnlAddrAllocCache env.addrs (addrListed .ipv6 link) (ipv6AddressLoad env)

def interfaceIpv6LoadNeighbor (env : LoadEnv) (link : RtnlLink) : LoadM (List Neighbor) :=
  loadCache env .rtnlNeighAllocCache env.neighs (neighListed .ipv6 link) (neighborLoad env)

/-! ## all interfaces -/

/-- The element of one link.  `load_forwarding` is not implemented. -/
def loadElement (env : LoadEnv) (link : RtnlLink) : LoadM Interface := do
  let name ← interfaceLoadName env link
  let type ← interfaceLoadType env link
  let ipv4Address ← interfaceIpv4LoadAddress env link
  let ipv4Neighbor ← interfaceIpv4LoadNeighbor env link
  let ipv6Address ← interfaceIpv6LoadAddress env link
  let ipv6Neighbor ← interfaceIpv6LoadNeighbor env link
  return {
    name, type
    enabled := interfaceLoadEnabled link
    ipv4 := {
      enabled := 1
      mtu := interfaceIpv4LoadMtu link
      address := ipv4Address
      neighbor := ipv4Neighbor }
    ipv6 := {
      enabled := 1
      mtu := interfaceIpv6LoadMtu link
      address := ipv6Address
      neighbor := ipv6Neighbor } }

/-- One round of the link loop. -/
def loadLink (env : LoadEnv) (link : RtnlLink) : LoadM Unit := do
  let newElement ← loadElement env link
  let s ← Prog.get
  let (error, ifHash) := interfaceHashAddElement s.ifHash newElement
  if error ≠ 0 then Prog.fail
  else Prog.modify fun s => { s with ifHash }

/-- `interfaces_load_interface`. -/
def interfacesLoadInterface (env : LoadEnv) : LoadM Int :=
  Prog.exitCode (-1) do
    Prog.modify fun s => { s with ifHash := [] }
    loadChecked env .nlSocketAlloc
    loadChecked env .nlConnect
    loadChecked env .rtnlLinkAllocCache
    if env.links = [] then Prog.fail else forM env.links (loadLink env)

end SysrepoInterfaces.Interfaces
