import SysrepoInterfaces.Interfaces.Types
import SysrepoInterfaces.Lib.CProg
import SysrepoInterfaces.Lib.DataTree

/-!
# SysrepoInterfaces.Interfaces.HashTree

`data/interfaces/interface.c`: the interface hash as a YANG data tree, and back.
-/

namespace SysrepoInterfaces.Interfaces

open CProg DataTree

/-! ## numbers and flags in leaves -/

/-- `atoi`: blanks, a sign, and the digits that follow. -/
def atoi (text : String) : Int :=
  let digits (cs : List Char) : Int := (Nat.ofDigitChars 10 (cs.takeWhile Char.isDigit) 0 : Nat)
  match text.toList.dropWhile Char.isWhitespace with
  | '-' :: cs => - digits cs
  | '+' :: cs => digits cs
  | cs => digits cs

/-- `strcmp(value, "true") == 0 ? 1 : 0`. -/
def flagOf (value : String) : UInt8 := if value = "true" then 1 else 0

/-- `flag ? "true" : "false"`. -/
def flagText (flag : UInt8) : String := if flag ≠ 0 then "true" else "false"

/-! ## the hash as a tree -/

/-- A tree is built by calls of which the n-th succeeds when `lib n`. -/
abbrev LyM := Prog Nat

/-- A creating call of `srpc/ly_tree.h`. -/
def lyCreate (lib : Nat → Bool) (node : Node) : LyM Node := do
  let n ← Prog.get
  Prog.modify fun n => n + 1
  if lib n then return node else Prog.fail

/-- A leaf written only when its value is not 0. -/
def mtuToLy (lib : Nat → Bool) (mtu : Nat) : LyM (List Node) :=
  if mtu ≠ 0 then do
    let leaf ← lyCreate lib (.leaf "mtu" (toString mtu))
    return [leaf]
  else return []

/-- The switch over the subnet type. -/
def subnetToLy (lib : Nat → Bool) (subnet : Ipv4AddressSubnet) : LyM (List Node) :=
  match subnet with
  | .none => return []
  | .prefixLength length => do
      let leaf ← lyCreate lib (.leaf "prefix-length" (toString length.toNat))
      return [leaf]
  | .netmask mask => do
      let leaf ← lyCreate lib (.leaf "netmask" mask)
      return [leaf]

/-- An instance of an address list: its key, and then its other leaves. -/
def ipv4AddressToLy (lib : Nat → Bool) (address : Ipv4Address) : LyM Node := do
  let _ ← lyCreate lib (.list "address" [.leaf "ip" address.ip])
  let subnet ← subnetToLy lib address.subnet
  return .list "address" (.leaf "ip" address.ip :: subnet)

def ipv6AddressToLy (lib : Nat → Bool) (address : Ipv6Address) : LyM Node := do
  let _ ← lyCreate lib (.list "address" [.leaf "ip" address.ip])
  let length ← lyCreate lib (.leaf "prefix-length" (toString address.prefixLength.toNat))
  return .list "address" [.leaf "ip" address.ip, length]

def neighborToLy (lib : Nat → Bool) (neighbor : Neighbor) : LyM Node := do
  let _ ← lyCreate lib (.list "neighbor" [.leaf "ip" neighbor.ip])
  let lladdr ← lyCreate lib (.leaf "link-layer-address" neighbor.linkLayerAddress)
  return .list "neighbor" [.leaf "ip" neighbor.ip, lladdr]

def ipv4ToLy (lib : Nat → Bool) (ipv4 : Ipv4) : LyM Node := do
  let _ ← lyCreate lib (.container "ipv4" [])
  let enabled ← lyCreate lib (.leaf "enabled" (flagText ipv4.enabled))
  let forwarding ← lyCreate lib (.leaf "forwarding" (flagText ipv4.forwarding))
  let mtu ← mtuToLy lib ipv4.mtu.toNat
  let address ← ipv4.address.mapM (ipv4AddressToLy lib)
  let neighbor ← ipv4.neighbor.mapM (neighborToLy lib)
  return .container "ipv4" ([enabled, forwarding] ++ mtu ++ address ++ neighbor)

def ipv6ToLy (lib : Nat → Bool) (ipv6 : Ipv6) : LyM Node := do
  let _ ← lyCreate lib (.container "ipv6" [])
  let enabled ← lyCreate lib (.leaf "enabled" (flagText ipv6.enabled))
  let forwarding ← lyCreate lib (.leaf "forwarding" (flagText ipv6.forwarding))
  let mtu ← mtuToLy lib ipv6.mtu.toNat
  let address ← ipv6.address.mapM (ipv6AddressToLy lib)
  let neighbor ← ipv6.neighbor.mapM (neighborToLy lib)
  return .container "ipv6" ([enabled, forwarding] ++ mtu ++ address ++ neighbor)

/-- One round of the loop in `interfaces_interface_hash_to_ly`. -/
def interfaceToLy (lib : Nat → Bool) (interface : Interface) : LyM Node := do
  let _ ← lyCreate lib (.list "interface" [.leaf "name" interface.name])
  let enabled ← lyCreate lib (.leaf "enabled" (flagText interface.enabled))
  let type ← lyCreate lib (.leaf "type" interface.type)
  let ipv4 ← ipv4ToLy lib interface.ipv4
  let ipv6 ← ipv6ToLy lib interface.ipv6
  return .list "interface" [.leaf "name" interface.name, enabled, type, ipv4, ipv6]

/-- The instances of the interface list below the container; of a tree that
could not be finished nothing is kept here. -/
def interfacesInterfaceHashToLy (lib : Nat → Bool) (ifHash : InterfaceHash) :
    LyM (Int × List Node) :=
  Prog.status (-1, []) do
    let nodes ← ifHash.mapM (interfaceToLy lib)
    return (0, nodes)

/-! ## the tree as a hash -/

/-- The node pointers `interfaces_interface_hash_from_ly` carries from one
interface to the next and reads.  Those of the IPv6 leaves are set as well and
never read. -/
structure NodePointers where
  ipv4Enabled : Option String := none
  ipv4Forwarding : Option String := none
  ipv4Mtu : Option String := none
  ipv4Address : List Node := []
  ipv6Address : List Node := []

/-- Where there is no container, the pointers stay. -/
def NodePointers.enterIpv4 (ptrs : NodePointers) (container : Option Node) : NodePointers :=
  match container with
  | some ipv4 => { ptrs with
      ipv4Enabled := ipv4.childLeaf "enabled"
      ipv4Forwarding := ipv4.childLeaf "forwarding"
      ipv4Mtu := ipv4.childLeaf "mtu"
      ipv4Address := ipv4.childList "address" }
  | none => ptrs

def NodePointers.enterIpv6 (ptrs : NodePointers) (container : Option Node) : NodePointers :=
  match container with
  | some ipv6 => { ptrs with ipv6Address := ipv6.childList "address" }
  | none => ptrs

/-- `(uint8_t)atoi(value)`. -/
def uint8Of (value : String) : UInt8 := UInt8.ofInt (atoi value)

/-- `(uint16_t)atoi(value)`. -/
def uint16Of (value : String) : UInt16 := UInt16.ofInt (atoi value)

/-- The element a list instance of IPv4 addresses is read as. -/
def ipv4AddressFromLy (node : Node) : Exit Ipv4Address :=
  match node.childLeaf "ip" with
  | none => .error
  | some ip =>
      match node.childLeaf "prefix-length" with
      | some length => .ok { ip := ip, subnet := .prefixLength (uint8Of length) }
      | none =>
          match node.childLeaf "netmask" with
          | some mask => .ok { ip := ip, subnet := .netmask mask }
          | none => .error

def ipv6AddressFromLy (node : Node) : Exit Ipv6Address :=
  match node.childLeaf "ip", node.childLeaf "prefix-length" with
  | some ip, some length => .ok { ip := ip, prefixLength := uint8Of length }
  | some _, none => .error
  | none, _ => .error

/-- An address loop: each new element is prepended, and the pointer is `NULL`
at the end. -/
def addressesFromLy {α : Type} (fromLy : Node → Exit α) (nodes : List Node) : Exit (List α) :=
  nodes.foldlM (fun list node => do
    let element ← fromLy node
    return element :: list) []

/-- One round of the loop in `interfaces_interface_hash_from_ly`. -/
def interfaceFromLy (ptrs : NodePointers) (node : Node) : Exit (NodePointers × Interface) :=
  match node.childLeaf "name", node.childLeaf "type" with
  | some name, some type => do
      let ptrs := ptrs.enterIpv4 (node.childContainer "ipv4")
      let ptrs := ptrs.enterIpv6 (node.childContainer "ipv6")
      let ipv4Address ← addressesFromLy ipv4AddressFromLy ptrs.ipv4Address
      let ipv6Address ← addressesFromLy ipv6AddressFromLy ptrs.ipv6Address
      return ({ ptrs with ipv4Address := [], ipv6Address := [] },
        { name := name
          type := type
          enabled := ((node.childLeaf "enabled").map flagOf).getD 0
          ipv4 := {
            enabled := (ptrs.ipv4Enabled.map flagOf).getD 0
            forwarding := (ptrs.ipv4Forwarding.map flagOf).getD 0
            mtu := (ptrs.ipv4Mtu.map uint16Of).getD 0
            address := ipv4Address }
          ipv6 := { address := ipv6Address } })
  | some _, none => .error
  | none, _ => .error

/-- The loop of `interfaces_interface_hash_from_ly`. -/
def interfacesFromLy : NodePointers → InterfaceHash → List Node → Int × InterfaceHash
  | _, ifHash, [] => (0, ifHash)
  | ptrs, ifHash, node :: nodes =>
      match interfaceFromLy ptrs node with
      | .ok (ptrs, newElement) =>
          interfacesFromLy ptrs (interfaceHashAddElement ifHash newElement).2 nodes
      | .error => (-1, ifHash)
      | .crash => (-1, ifHash)

/-- The instances of the interface list, as a hash. -/
def interfacesInterfaceHashFromLy (nodes : List Node) : Int × InterfaceHash :=
  interfacesFromLy {} [] nodes

end SysrepoInterfaces.Interfaces
