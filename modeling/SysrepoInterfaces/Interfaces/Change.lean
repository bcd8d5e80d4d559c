import SysrepoInterfaces.Interfaces.Env
import SysrepoInterfaces.Interfaces.HashTree
import SysrepoInterfaces.Interfaces.Netmask

/-!
# SysrepoInterfaces.Interfaces.Change

The change handlers below `api/interfaces/interface` and the callback of
`subscription/change.c` that runs them in sixteen phases.  The families of
handlers that differ in the address family alone are one definition each, with
the members under the names of the source.
-/

namespace SysrepoInterfaces.Interfaces

open CProg

/-! ## helpers -/

/-- `interfacecs_interface_extract_name`. -/
def interfacecsInterfaceExtractName (env : InterfacesEnv) (change : Change) :
    InterfacesM String := do
  checked env .lydPath
  checked env .srXpathKeyValue
  return change.ifName

/-- `lyd_path`, and `srpc_extract_xpath_key_value` for the interface. -/
def extractInterfaceName (env : InterfacesEnv) (change : Change) : InterfacesM String := do
  checked env .lydPath
  checked env .srpcExtractXpathKeyValue
  return change.ifName

/-- `srpc_extract_xpath_key_value` for the address or neighbour. -/
def extractIp (env : InterfacesEnv) (change : Change) : InterfacesM String := do
  checked env .srpcExtractXpathKeyValue
  return change.ip

/-- A request whose refusal leads to `error_out`. -/
def request (env : InterfacesEnv) (r : Request) : InterfacesM Unit := (send env r).require

/-! ## name, type and enabled -/

def interfacesInterfaceChangeName (env : InterfacesEnv) (change : Change) : InterfacesM Int :=
  Prog.exitCode (-1) do
    match change.operation with
    | .created => do
        match ← rtnlLinkGetByName change.nodeValue with
        | none => do
            checked env .rtnlLinkAlloc
            checked env .rtnlLinkSetType
            request env (.linkAdd change.nodeValue "dummy")
        | some _ => return ()
    | .modified => Prog.fail
    | .deleted => do
        let oldLink ← currentLink change.nodeValue
        request env (.linkDelete oldLink.ifindex)
    | .moved => return ()

def interfacesInterfaceChangeDescription (_ : Change) : InterfacesM Int := return 0

def interfacesInterfaceChangeLinkUpDownTrapEnable (_ : Change) : InterfacesM Int := return 0

/-- The link types of the supported YANG types. -/
def typePairs : List (String × String) := [
  ("iana-if-type:ethernetCsmacd", "veth"),
  ("iana-if-type:softwareLoopback", "lo"),
  ("iana-if-type:l2vlan", "vlan"),
  ("iana-if-type:other", "dummy")]

/-- The first two cases of the switch. -/
def changeLinkType (env : InterfacesEnv) (change : Change) : InterfacesM Unit := do
  let name ← interfacecsInterfaceExtractName env change
  let currentLink ← currentLink name
  checked env .rtnlLinkAlloc
  match typePairs.find? fun pair => pair.1 = change.nodeValue with
  | some pair => request env (.linkChange currentLink.ifindex { name, type := some pair.2 } 0)
  | none => Prog.fail

def interfacesInterfaceChangeType (env : InterfacesEnv) (change : Change) : InterfacesM Int :=
  Prog.exitCode (-1) do
    match change.operation with
    | .created | .modified => changeLinkType env change
    | .deleted | .moved => return ()

/-- The request that sets a link up or down. -/
def enabledRequest (link : RtnlLink) (name : String) (up : Bool) : Request :=
  .linkChange link.ifindex {
    name
    type := link.type
    up := some up
    operstate := some (if up then IF_OPER_UP else IF_OPER_DOWN) } NLM_F_REPLACE

/-- The first two cases of the switch. -/
def changeLinkEnabled (env : InterfacesEnv) (change : Change) (name : String) :
    InterfacesM Unit := do
  let currentLink ← currentLink name
  checked env .rtnlLinkAlloc
  request env (enabledRequest currentLink name (change.nodeValue = "true"))

/-- A deleted leaf goes back to its default; that the link is gone already is
no error here. -/
def resetLinkEnabled (env : InterfacesEnv) (name : String) : InterfacesM Unit := do
  match ← rtnlLinkGetByName name with
  | some currentLink => do
      checked env .rtnlLinkAlloc
      request env (enabledRequest currentLink name true)
  | none => return ()

def interfacesInterfaceChangeEnabled (env : InterfacesEnv) (change : Change) : InterfacesM Int :=
  Prog.exitCode (-1) do
    let name ← interfacecsInterfaceExtractName env change
    match change.operation with
    | .created | .modified => changeLinkEnabled env change name
    | .deleted => resetLinkEnabled env name
    | .moved => return ()

/-! ## ipv4/mtu and ipv4/enabled -/

/-- The request that sets the MTU; a deleted leaf goes back to 1500. -/
def mtuRequest (link : RtnlLink) (change : Change) : Request :=
  .linkChange link.ifindex {
    name := link.name
    type := link.type
    mtu := match change.operation with
      | .created | .modified => some (uint16Of change.nodeValue).toNat
      | .deleted => some 1500
      | .moved => none } 0

def interfacesInterfaceIpv4ChangeMtu (env : InterfacesEnv) (change : Change) : InterfacesM Int :=
  Prog.exitCode (-1) do
    let name ← extractInterfaceName env change
    let currentLink ← currentLink name
    checked env .rtnlLinkSetType
    request env (mtuRequest currentLink change)

/-- `nl_cache_get_first` on the address cache, which must not be empty. -/
def firstAddr : InterfacesM Unit := do
  let s ← Prog.get
  if s.modCtx.addrCache = [] then Prog.fail else return ()

/-- The path of the addresses of an interface. -/
def ipv4AddressPath (name : String) : String :=
  "/ietf-interfaces:interfaces/interface[name=\"" ++ name ++ "\"]/ietf-ip:ipv4/address"

/-- The handler returns `error`, into which `snprintf` has put the length of
the path when IPv4 is disabled. -/
def interfacesInterfaceIpv4ChangeEnabled (env : InterfacesEnv) (change : Change) :
    InterfacesM Int :=
  Prog.status (-1) do
    let name ← extractInterfaceName env change
    let _ ← currentLink name
    firstAddr
    checked env .srSessionGetConnection
    checked env .srSessionStart
    match change.operation with
    | .created | .modified =>
        if change.nodeValue = "false" then return ((ipv4AddressPath name).utf8ByteSize : Int)
        else return 0
    | .deleted | .moved => return 0

/-! ## prefix lengths and netmasks -/

/-- `ip/length`. -/
def addressText (ip length : String) : String := ip ++ "/" ++ length

/-- The address with the old prefix length is deleted, and then the one with
the new prefix length is added. -/
def replaceAddress (env : InterfacesEnv) (family : Nat) (link : RtnlLink)
    (address oldAddress : String) : InterfacesM Unit := do
  let localAddr ← nlAddrParse env family address
  let oldLocalAddr ← nlAddrParse env family oldAddress
  checked env .rtnlAddrSetLocal
  checked env .rtnlAddrSetLocal
  request env (.addrDelete { ifindex := link.ifindex, localAddr := oldLocalAddr })
  request env (.addrAdd { ifindex := link.ifindex, localAddr := localAddr })

def addressChangePrefixLength (family : IpFamily) (env : InterfacesEnv) (change : Change) :
    InterfacesM Int :=
  Prog.exitCode (-1) do
    let name ← extractInterfaceName env change
    let ip ← extractIp env change
    let currentLink ← currentLink name
    match change.operation with
    | .modified =>
        replaceAddress env family.af currentLink (addressText ip change.nodeValue)
          (addressText ip change.previousValue)
    -- created and deleted leaves are left to the handler of the ip
    | .created | .deleted | .moved => return ()

def interfacesInterfaceIpv4AddressChangePrefixLength := addressChangePrefixLength .ipv4

def interfacesInterfaceIpv6AddressChangePrefixLength := addressChangePrefixLength .ipv6

/-- `netmask2prefix`; a text that is not an address leads to `error_out`. -/
def netmaskLength (env : InterfacesEnv) (netmask : String) : InterfacesM UInt8 :=
  match netmask2prefix env.littleEndian netmask with
  | some length => return length
  | none => Prog.fail

def interfacesInterfaceIpv4AddressChangeNetmask (env : InterfacesEnv) (change : Change) :
    InterfacesM Int :=
  Prog.exitCode (-1) do
    let name ← extractInterfaceName env change
    let ip ← extractIp env change
    let currentLink ← currentLink name
    match change.operation with
    | .modified => do
        let length ← netmaskLength env change.nodeValue
        let oldLength ← netmaskLength env change.previousValue
        replaceAddress env AF_INET currentLink (addressText ip (toString length.toNat))
          (addressText ip (toString oldLength.toNat))
    | .created | .deleted | .moved => return ()

/-! ## addresses -/

/-- The nested callback that reads a prefix length; it asserts that the leaf
was created. -/
def addressGetPrefixLength (family : IpFamily) (change : Change) : InterfacesM Int :=
  match change.operation with
  | .created => do
      Prog.modify fun s => s.updateModData family fun data =>
        { data with prefixLength := uint8Of change.nodeValue, prefixSet := true }
      return 0
  | .modified | .deleted | .moved => Prog.lift .crash

def interfacesInterfaceIpv4AddressGetPrefixLength := addressGetPrefixLength .ipv4

def interfacesInterfaceIpv6AddressGetPrefixLength := addressGetPrefixLength .ipv6

/-- The nested callback that reads a netmask. -/
def interfacesInterfaceIpv4AddressGetNetmask (env : InterfacesEnv) (change : Change) :
    InterfacesM Int :=
  match change.operation with
  | .created =>
      match netmask2prefix env.littleEndian change.nodeValue with
      | some length => do
          Prog.modify fun s => s.updateModData .ipv4 fun data =>
            { data with prefixLength := length, prefixSet := true }
          return 0
      | none => do
          Prog.modify fun s => s.updateModData .ipv4 fun data => { data with prefixSet := false }
          return -1
  | .modified | .deleted | .moved => Prog.lift .crash

/-- A nested `srpc_iterate_changes`, without callbacks of its own. -/
def nestedIterateChanges (env : InterfacesEnv) (changes : List Change)
    (handler : Change → InterfacesM Int) : InterfacesM Unit :=
  (srpcIterateChanges env changes handler (return 0) id).require

def modDataOf (family : IpFamily) : InterfacesM FamilyData := do
  let s ← Prog.get
  return s.modCtx.modData.get family

/-- The netmask is looked up where no prefix length was found, and then there
has to be one. -/
def ipv4NetmaskLookup (env : InterfacesEnv) (session : Session) (name ip : String) :
    InterfacesM Unit := do
  if (← modDataOf .ipv4).prefixSet then return ()
  else do
    nestedIterateChanges env (session.changesAt .ipv4AddressNetmask name ip)
      (interfacesInterfaceIpv4AddressGetNetmask env)
    if (← modDataOf .ipv4).prefixSet then return () else Prog.fail

/-- The prefix length of a created IPv4 address, out of its other leaf. -/
def createdIpv4PrefixLength (env : InterfacesEnv) (session : Session) (name ip : String) :
    InterfacesM UInt8 := do
  nestedIterateChanges env (session.changesAt (.addressPrefixLength .ipv4) name ip)
    interfacesInterfaceIpv4AddressGetPrefixLength
  ipv4NetmaskLookup env session name ip
  return (← modDataOf .ipv4).prefixLength

/-- The prefix length of a created IPv6 address. -/
def createdIpv6PrefixLength (env : InterfacesEnv) (session : Session) (name ip : String) :
    InterfacesM UInt8 := do
  nestedIterateChanges env (session.changesAt (.addressPrefixLength .ipv6) name ip)
    interfacesInterfaceIpv6AddressGetPrefixLength
  return (← modDataOf .ipv6).prefixLength

/-- The prefix length an IPv4 address has in the running datastore. -/
def runningIpv4PrefixLength (env : InterfacesEnv) (session : Session) (name ip : String) :
    InterfacesM UInt8 := do
  checked env .srGetItem
  match session.running.prefixLength .ipv4 name ip with
  | some length => return length
  | none => do
      checked env .srGetItem
      match session.running.netmask name ip with
      | some netmask => netmaskLength env netmask
      | none => Prog.fail

/-- The prefix length an IPv6 address has in the running datastore. -/
def runningIpv6PrefixLength (env : InterfacesEnv) (session : Session) (name ip : String) :
    InterfacesM UInt8 := do
  checked env .srGetItem
  match session.running.prefixLength .ipv6 name ip with
  | some length => return length
  | none => Prog.fail

/-- The steps the ip handlers of both families have in common: `created` and
`running` find the prefix length. -/
def addressChangeIp (family : IpFamily)
    (created running : InterfacesEnv → Session → String → String → InterfacesM UInt8)
    (env : InterfacesEnv) (session : Session) (change : Change) : InterfacesM Int :=
  Prog.exitCode (-1) <| Prog.out (fun s => s.updateModData family fun data =>
      { data with prefixLength := 0, prefixSet := false }) do
    let name ← extractInterfaceName env change
    let currentLink ← currentLink name
    checked env .srSessionGetConnection
    checked env .srSessionStart
    match change.operation with
    | .created => do
        let localAddr ← nlAddrParse env family.af change.nodeValue
        let length ← created env session name change.nodeValue
        checked env .rtnlAddrSetLocal
        request env (.addrAdd {
          ifindex := currentLink.ifindex
          localAddr := { localAddr with prefixLen := length.toNat } })
    | .modified => Prog.fail
    | .deleted => do
        let length ← running env session name change.nodeValue
        let localAddr ← nlAddrParse env family.af
          (addressText change.nodeValue (toString length.toNat))
        checked env .rtnlAddrSetLocal
        request env (.addrDelete { ifindex := currentLink.ifindex, localAddr := localAddr })
    | .moved => return ()

def interfacesInterfaceIpv4AddressChangeIp :=
  addressChangeIp .ipv4 createdIpv4PrefixLength runningIpv4PrefixLength

def interfacesInterfaceIpv6AddressChangeIp :=
  addressChangeIp .ipv6 createdIpv6PrefixLength runningIpv6PrefixLength

/-! ## neighbours -/

def neighborChangeLinkLayerAddress (family : IpFamily) (env : InterfacesEnv) (change : Change) :
    InterfacesM Int :=
  Prog.exitCode (-1) do
    let name ← extractInterfaceName env change
    let ip ← extractIp env change
    let currentLink ← currentLink name
    match change.operation with
    | .modified => do
        let dstAddr ← nlAddrParse env family.af ip
        let llAddr ← nlAddrParse env AF_LLC change.nodeValue
        checked env .rtnlNeighSetDst
        request env (.neighAdd {
          ifindex := currentLink.ifindex, dst := dstAddr, lladdr := some llAddr } NLM_F_REPLACE)
    | .created | .deleted | .moved => return ()

def interfacesInterfaceIpv4NeighborChangeLinkLayerAddress := neighborChangeLinkLayerAddress .ipv4

def interfacesInterfaceIpv6NeighborChangeLinkLayerAddress := neighborChangeLinkLayerAddress .ipv6

/-- The nested callback that reads a link layer address. -/
def neighborGetLinkLayerAddress (family : IpFamily) (env : InterfacesEnv) (change : Change) :
    InterfacesM Int :=
  match change.operation with
  | .created => Prog.exitCode (-1) do
      checked env .strdup
      Prog.modify fun s => s.updateModData family fun data =>
        { data with linkLayerAddress := some change.nodeValue }
  | .modified | .deleted | .moved => Prog.lift .crash

def interfacesInterfaceIpv4NeighborGetLinkLayerAddress := neighborGetLinkLayerAddress .ipv4

def interfacesInterfaceIpv6NeighborGetLinkLayerAddress := neighborGetLinkLayerAddress .ipv6

/-- The link layer address the nested lookup has found; without one `NULL` is
parsed. -/
def foundLinkLayerAddress (family : IpFamily) (env : InterfacesEnv) : InterfacesM NlAddr := do
  match (← modDataOf family).linkLayerAddress with
  | some text => nlAddrParse env AF_LLC text
  | none => Prog.lift .crash

def neighborChangeIp (family : IpFamily) (env : InterfacesEnv) (session : Session)
    (change : Change) : InterfacesM Int :=
  Prog.exitCode (-1) <| Prog.out (fun s => s.updateModData family fun data =>
      { data with linkLayerAddress := none }) do
    let name ← extractInterfaceName env change
    let currentLink ← currentLink name
    match change.operation with
    | .created => do
        let dstAddr ← nlAddrParse env family.af change.nodeValue
        nestedIterateChanges env
          (session.changesAt (.neighborLinkLayerAddress family) name change.nodeValue)
          (neighborGetLinkLayerAddress family env)
        let llAddr ← foundLinkLayerAddress family env
        checked env .rtnlNeighSetDst
        request env (.neighAdd {
          ifindex := currentLink.ifindex, dst := dstAddr, lladdr := some llAddr } NLM_F_CREATE)
    | .modified => Prog.fail
    | .deleted => do
        let dstAddr ← nlAddrParse env family.af change.nodeValue
        checked env .rtnlNeighSetDst
        request env (.neighDelete { ifindex := currentLink.ifindex, dst := dstAddr })
    | .moved => return ()

def interfacesInterfaceIpv4NeighborChangeIp := neighborChangeIp .ipv4

def interfacesInterfaceIpv6NeighborChangeIp := neighborChangeIp .ipv6

/-! ## the callback -/

/-- The handler registered for a leaf. -/
def changeHandler (env : InterfacesEnv) (session : Session) (change : Change) :
    Leaf → InterfacesM Int
  | .name => interfacesInterfaceChangeName env change
  | .description => interfacesInterfaceChangeDescription change
  | .type => interfacesInterfaceChangeType env change
  | .enabled => interfacesInterfaceChangeEnabled env change
  | .linkUpDownTrapEnable => interfacesInterfaceChangeLinkUpDownTrapEnable change
  | .ipv4Mtu => interfacesInterfaceIpv4ChangeMtu env change
  | .ipv4Enabled => interfacesInterfaceIpv4ChangeEnabled env change
  | .addressIp .ipv4 => interfacesInterfaceIpv4AddressChangeIp env session change
  | .addressPrefixLength .ipv4 => interfacesInterfaceIpv4AddressChangePrefixLength env change
  | .ipv4AddressNetmask => interfacesInterfaceIpv4AddressChangeNetmask env change
  | .neighborIp .ipv4 => interfacesInterfaceIpv4NeighborChangeIp env session change
  | .neighborLinkLayerAddress .ipv4 =>
      interfacesInterfaceIpv4NeighborChangeLinkLayerAddress env change
  | .addressIp .ipv6 => interfacesInterfaceIpv6AddressChangeIp env session change
  | .addressPrefixLength .ipv6 => interfacesInterfaceIpv6AddressChangePrefixLength env change
  | .neighborIp .ipv6 => interfacesInterfaceIpv6NeighborChangeIp env session change
  | .neighborLinkLayerAddress .ipv6 =>
      interfacesInterfaceIpv6NeighborChangeLinkLayerAddress env change
  -- no handler is registered for any other node
  | .other _ => return 0

/-- The leaves of the sixteen phases, in the order in which they run. -/
def phases : List Leaf := [
  .name, .description, .type, .enabled, .linkUpDownTrapEnable, .ipv4Mtu, .ipv4Enabled,
  .addressIp .ipv4, .addressPrefixLength .ipv4, .ipv4AddressNetmask, .neighborIp .ipv4,
  .neighborLinkLayerAddress .ipv4, .addressIp .ipv6, .addressPrefixLength .ipv6,
  .neighborIp .ipv6, .neighborLinkLayerAddress .ipv6]

/-- One phase: the handler of a leaf on each change of the leaf. -/
def phase (env : InterfacesEnv) (session : Session) (leaf : Leaf) : InterfacesM Int :=
  srpcIterateChanges env (session.changesOf leaf)
    (fun change => changeHandler env session change leaf)
    (interfacesChangeInterfaceInit env) interfacesChangeInterfaceFree

/-- `interfaces_subscription_change_interfaces_interface`. -/
def interfacesSubscriptionChangeInterfacesInterface (env : InterfacesEnv) (session : Session) :
    SrEvent → InterfacesM Int
  | .abort => return SR_ERR_CALLBACK_FAILED
  | .change => Prog.exitCode SR_ERR_CALLBACK_FAILED do
      forM phases fun leaf => (phase env session leaf).require
  | .done | .other => return SR_ERR_OK

end SysrepoInterfaces.Interfaces
