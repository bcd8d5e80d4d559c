import SysrepoInterfaces.Lib.Keyed

/-!
# SysrepoInterfaces.Interfaces.Types

`types.h` of the interfaces plugin: the interface record with its IPv4 and IPv6
parts, and the hash of interfaces keyed by their names.
-/

namespace SysrepoInterfaces.Interfaces

/-! ## the interface record -/

/-- The subnet of an IPv4 address, a union with its tag. -/
inductive Ipv4AddressSubnet where
  | none
  | prefixLength (length : UInt8)
  | netmask (mask : String)
deriving DecidableEq, Repr

/-- `struct interfaces_interface_ipv4_address`. -/
structure Ipv4Address where
  ip : String
  subnet : Ipv4AddressSubnet
deriving DecidableEq, Repr

/-- `struct interfaces_interface_ipv6_address`. -/
structure Ipv6Address where
  ip : String
  prefixLength : UInt8
deriving DecidableEq, Repr

/-- `struct interfaces_interface_ipv4_neighbor`, and its IPv6 twin. -/
structure Neighbor where
  ip : String
  linkLayerAddress : String
deriving DecidableEq, Repr

/-- `struct interfaces_interface_ipv4`. -/
structure Ipv4 where
  enabled : UInt8 := 0
  forwarding : UInt8 := 0
  mtu : UInt16 := 0
  address : List Ipv4Address := []
  neighbor : List Neighbor := []
deriving DecidableEq, Repr

/-- `struct interfaces_interface_ipv6`, without the parts nothing reads. -/
structure Ipv6 where
  enabled : UInt8 := 0
  forwarding : UInt8 := 0
  mtu : UInt32 := 0
  address : List Ipv6Address := []
  neighbor : List Neighbor := []
deriving DecidableEq, Repr

/-- `struct interfaces_interface`, without the parts nothing reads.  Every
element that gets into a hash has a name and a type. -/
structure Interface where
  name : String
  type : String
  enabled : UInt8 := 0
  ipv4 : Ipv4 := {}
  ipv6 : Ipv6 := {}
deriving DecidableEq, Repr

/-! ## the interface hash -/

/-- Elements in order of insertion. -/
abbrev InterfaceHash := List Interface

/-- An element whose name is there already is not added. -/
def interfaceHashAddElement (hash : InterfaceHash) (newElement : Interface) :
    Int × InterfaceHash :=
  match Keyed.lookup Interface.name newElement.name hash with
  | some _ => (-1, hash)
  | none => (0, hash ++ [newElement])

def interfaceHashGetElement (hash : InterfaceHash) (name : String) : Option Interface :=
  Keyed.lookup Interface.name name hash

end SysrepoInterfaces.Interfaces
