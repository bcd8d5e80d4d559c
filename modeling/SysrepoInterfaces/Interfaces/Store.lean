import SysrepoInterfaces.Interfaces.Env
import SysrepoInterfaces.Interfaces.Netmask
import SysrepoInterfaces.Interfaces.Types

/-!
# SysrepoInterfaces.Interfaces.Store

`interfaces_store_interface` of `api/interfaces/store.c`: every interface of a
hash becomes a link with its addresses.  Two variables of the function are not
set in every round: the link type of an interface whose type is not supported
is that of an earlier one, and so is the prefix length of an address without a
subnet.
-/

namespace SysrepoInterfaces.Interfaces

open CProg

/-! ## requests -/

/-- The link of a `rtnl_link_add` request. -/
structure NewLink where
  name : String
  type : Option String
  up : Bool
  operstate : Nat
  mtu : Option Nat
deriving DecidableEq, Repr

/-- The requests, in the order they are sent. -/
inductive StoreRequest where
  | linkAdd (link : NewLink)
  | addrAdd (addr : RtnlAddr)
deriving DecidableEq, Repr

/-- The library calls whose result is checked, the requests among them. -/
inductive StoreCall where
  | nlSocketAlloc
  | nlConnect
  | rtnlLinkAllocCache
  | rtnlLinkAlloc
  | rtnlLinkSetType
  | rtnlLinkAdd
  | nlCacheRefill
  | rtnlLinkGetByName
  | rtnlAddrSetLocal
  | rtnlAddrAdd
deriving DecidableEq, Repr

structure StoreEnv where
  /-- `nl_addr_parse` with a family as a hint -/
  nlAddrParse : Nat → String → Option NlAddr
  /-- the byte order of the host -/
  littleEndian : Bool
  /-- the index of the link of a name, in the refilled cache -/
  ifindex : String → Nat
  /-- what lies in the stack where `prefix_length` is declared -/
  stackByte : UInt8
  /-- outcome of the n-th checked call -/
  lib : Nat → StoreCall → Bool

/-- The netlink calls succeed. -/
def StoreEnv.Succeeds (env : StoreEnv) : Prop := ∀ n call, env.lib n call = true

/-- The variables of the function that outlive a round, and what was sent. -/
structure StoreState where
  ifTypeLibnl : Option String := none
  prefixLength : UInt8 := 0
  /-- checked calls made -/
  calls : Nat := 0
  /-- the requests sent, oldest first -/
  sent : List StoreRequest := []
deriving DecidableEq, Repr

abbrev StoreM := Prog StoreState

/-- Make a checked call and go to `error_out` unless it succeeds. -/
def storeChecked (env : StoreEnv) (call : StoreCall) : StoreM Unit := do
  let s ← Prog.get
  Prog.modify fun s => { s with calls := s.calls + 1 }
  if env.lib s.calls call then return () else Prog.fail

def storeSend (env : StoreEnv) (call : StoreCall) (request : StoreRequest) : StoreM Unit := do
  Prog.modify fun s => { s with sent := s.sent ++ [request] }
  storeChecked env call

/-! ## links -/

/-- `if_type_libnl` after the comparisons. -/
def storeTypeLibnl (ifType : String) (ifTypeLibnl : Option String) : Option String :=
  if ifType = "iana-if-type:ethernetCsmacd" then some "veth"
  else if ifType = "iana-if-type:softwareLoopback" then some "vcan"
  else if ifType = "iana-if-type:l2vlan" then some "vlan"
  else if ifType = "iana-if-type:other" then some "dummy"
  else ifTypeLibnl

/-- The lesser MTU, where 0 is the least. -/
def storeMtu (i : Interface) : Nat :=
  if i.ipv4.mtu.toNat < i.ipv6.mtu.toNat then i.ipv4.mtu.toNat else i.ipv6.mtu.toNat

/-- The link of an interface, once the type is determined. -/
def storeNewLink (i : Interface) (ifTypeLibnl : Option String) : NewLink where
  name := i.name
  type := ifTypeLibnl
  up := i.enabled ≠ 0
  operstate := if i.enabled ≠ 0 then IF_OPER_UP else IF_OPER_DOWN
  mtu := if storeMtu i ≠ 0 then some (storeMtu i) else none

/-- The first half of a round; `rtnl_link_set_type` takes a type that is `NULL`. -/
def storeLink (env : StoreEnv) (i : Interface) : StoreM Unit := do
  storeChecked env .rtnlLinkAlloc
  Prog.modify fun s => { s with ifTypeLibnl := storeTypeLibnl i.type s.ifTypeLibnl }
  storeChecked env .rtnlLinkSetType
  let s ← Prog.get
  storeSend env .rtnlLinkAdd (.linkAdd (storeNewLink i s.ifTypeLibnl))
  storeChecked env .nlCacheRefill
  storeChecked env .rtnlLinkGetByName

/-! ## addresses -/

/-- `prefix_length` after the switch; the return code of the conversion is not
looked at. -/
def storePrefixLength (env : StoreEnv) (subnet : Ipv4AddressSubnet) (prefixLength : UInt8) :
    UInt8 :=
  match subnet with
  | .none => prefixLength
  | .prefixLength length => length
  | .netmask mask => ( interfaceIpv4AddressNetmask2prefix env.littleEndian mask prefixLength).2

/-- What both address loops do with an address that was parsed. -/
def storeAddr (env : StoreEnv) (name : String) (localAddr : NlAddr) (prefixLength : UInt8) :
    StoreM Unit := do
  storeChecked env .rtnlAddrSetLocal
  storeSend env .rtnlAddrAdd (.addrAdd {
    ifindex := env.ifindex name
    localAddr := { localAddr with prefixLen := prefixLength.toNat } })

/-- One round of the IPv4 loop. -/
def storeIpv4Address (env : StoreEnv) (name : String) (address : Ipv4Address) : StoreM Unit :=
  match env.nlAddrParse AF_INET address.ip with
  | none => Prog.fail
  | some localAddr => do
      Prog.modify fun s =>
        { s with prefixLength := storePrefixLength env address.subnet s.prefixLength }
      let s ← Prog.get
      storeAddr env name localAddr s.prefixLength

/-- One round of the IPv6 loop. -/
def storeIpv6Address (env : StoreEnv) (name : String) (address : Ipv6Address) : StoreM Unit :=
  match env.nlAddrParse AF_INET6 address.ip with
  | none => Prog.fail
  | some localAddr => storeAddr env name localAddr address.prefixLength

/-- One round of the loop over the hash. -/
def storeInterface (env : StoreEnv) (i : Interface) : StoreM Unit := do
  storeLink env i
  forM i.ipv4.address (storeIpv4Address env i.name)
  forM i.ipv6.address (storeIpv6Address env i.name)

def interfacesStoreInterface (env : StoreEnv) (ifHash : InterfaceHash) : StoreM Int :=
  Prog.exitCode (-1) do
    Prog.modify fun s => { s with ifTypeLibnl := none, prefixLength := env.stackByte }
    storeChecked env .nlSocketAlloc
    storeChecked env .nlConnect
    storeChecked env .rtnlLinkAllocCache
    forM ifHash (storeInterface env)

/-- `interfaces_interface_type_ly2nl` of `data/interfaces/interface.c`, which
`interfaces_store_interface` does not call. -/
def interfacesInterfaceTypeLy2nl (lyType : String) : Option String :=
  if lyType = "iana-if-type:ethernetCsmacd" then some "veth"
  else if lyType = "iana-if-type:softwareLoopback" then some "vcan"
  else if lyType = "iana-if-type:l2vlan" then some "vlan"
  else if lyType = "iana-if-type:other" then some "dummy"
  else none

/-- A type that is supported is stored as itself. -/
theorem storeTypeLibnl_eq (ifType : String) (ifTypeLibnl : Option String) :
    storeTypeLibnl ifType ifTypeLibnl = (interfacesInterfaceTypeLy2nl ifType).or ifTypeLibnl := by
  unfold storeTypeLibnl interfacesInterfaceTypeLy2nl
  split
  · rfl
  split
  · rfl
  split
  · rfl
  split <;> rfl

end SysrepoInterfaces.Interfaces
