import SysrepoInterfaces.Interfaces.Kernel
import SysrepoInterfaces.Lib.CProg

/-!
# SysrepoInterfaces.Interfaces.Env

What a change callback of the interfaces plugin works with: the session with
its changes and the running datastore, the library calls, the kernel, and the
context `mod_ctx` that the callbacks share.
-/

namespace SysrepoInterfaces.Interfaces

open CProg

/-! ## the session -/

inductive IpFamily where
  | ipv4
  | ipv6
deriving DecidableEq, Repr

/-- The address family libnl knows it by. -/
def IpFamily.af : IpFamily → Nat
  | .ipv4 => AF_INET
  | .ipv6 => AF_INET6

/-- The leaves of an interface entry that a phase of the callback handles, and
any other node. -/
inductive Leaf where
  | name
  | description
  | type
  | enabled
  | linkUpDownTrapEnable
  | ipv4Mtu
  | ipv4Enabled
  | ipv4AddressNetmask
  | addressIp (family : IpFamily)
  | addressPrefixLength (family : IpFamily)
  | neighborIp (family : IpFamily)
  | neighborLinkLayerAddress (family : IpFamily)
  | other (path : String)
deriving DecidableEq, Repr

/-- One change of the session, below an entry of the interface list. -/
structure Change where
  operation : SrChangeOper
  leaf : Leaf
  /-- the key of the interface -/
  ifName : String
  /-- the key of the address or neighbour the leaf belongs to, if any -/
  ip : String := ""
  /-- `lyd_get_value` -/
  nodeValue : String
  /-- the value before, for a modified leaf -/
  previousValue : String := ""
deriving DecidableEq, Repr

/-- The addresses of the running datastore, by interface and ip; during a
change event it still holds what was there before. -/
structure Running where
  prefixLength : IpFamily → String → String → Option UInt8 := fun _ _ _ => none
  netmask : String → String → Option String := fun _ _ => none

structure Session where
  changes : List Change
  running : Running := {}

/-- The changes of one leaf. -/
def Session.changesOf (session : Session) (leaf : Leaf) : List Change :=
  session.changes.filter fun c => c.leaf = leaf

/-- The changes of one leaf of one address or neighbour of an interface. -/
def Session.changesAt (session : Session) (leaf : Leaf) (ifName ip : String) : List Change :=
  session.changes.filter fun c => c.leaf = leaf ∧ c.ifName = ifName ∧ c.ip = ip

/-! ## the environment -/

/-- The library calls whose result is checked. -/
inductive Call where
  | nlSocketAlloc
  | nlConnect
  | rtnlLinkAllocCache
  | rtnlAddrAllocCache
  | srGetChangesIter
  | lydPath
  | srXpathKeyValue
  | srpcExtractXpathKeyValue
  | srSessionGetConnection
  | srSessionStart
  | srGetItem
  | rtnlLinkAlloc
  | rtnlLinkSetType
  | rtnlAddrSetLocal
  | rtnlNeighSetDst
  | strdup
deriving DecidableEq, Repr

structure InterfacesEnv where
  /-- `nl_addr_parse` with a family as a hint -/
  nlAddrParse : Nat → String → Option NlAddr
  /-- the byte order of the host -/
  littleEndian : Bool
  /-- outcome of the n-th checked call -/
  lib : Nat → Call → Bool
  /-- answer to the n-th request -/
  answer : Nat → Int
  /-- what the kernel makes of a request it accepts -/
  carryOut : Kernel → Request → Kernel

/-! ## the state -/

/-- What the nested lookups leave in `mod_ctx.mod_data` for one family. -/
structure FamilyData where
  prefixLength : UInt8 := 0
  prefixSet : Bool := false
  linkLayerAddress : Option String := none
deriving DecidableEq, Repr

/-- `mod_ctx.mod_data`. -/
structure ModData where
  ipv4 : FamilyData := {}
  ipv6 : FamilyData := {}
deriving DecidableEq, Repr

def ModData.get (data : ModData) : IpFamily → FamilyData
  | .ipv4 => data.ipv4
  | .ipv6 => data.ipv6

def ModData.update (data : ModData) (f : FamilyData → FamilyData) : IpFamily → ModData
  | .ipv4 => { data with ipv4 := f data.ipv4 }
  | .ipv6 => { data with ipv6 := f data.ipv6 }

/-- `struct interfaces_mod_changes_ctx_s`, with the caches as lists. -/
structure ModCtx where
  linkCache : List RtnlLink := []
  addrCache : List RtnlAddr := []
  modData : ModData := {}
deriving DecidableEq

structure InterfacesState where
  kernel : Kernel
  modCtx : ModCtx := {}
  /-- checked calls made -/
  calls : Nat := 0
  /-- the requests sent, oldest first, each with its answer -/
  sent : List (Request × Int) := []
deriving DecidableEq

/-- A function of the plugin. -/
abbrev InterfacesM := Prog InterfacesState

def InterfacesState.setModCtx (s : InterfacesState) (ctx : ModCtx) : InterfacesState :=
  { s with modCtx := ctx }

/-- Write to `mod_ctx.mod_data` of a family. -/
def InterfacesState.updateModData (s : InterfacesState) (family : IpFamily)
    (f : FamilyData → FamilyData) : InterfacesState :=
  s.setModCtx { s.modCtx with modData := s.modCtx.modData.update f family }

/-! ## primitive steps -/

/-- Make a checked call; the caller gets to see its outcome. -/
def attempt (env : InterfacesEnv) (c : Call) : InterfacesM Bool := do
  let s ← Prog.get
  Prog.modify fun s => { s with calls := s.calls + 1 }
  return env.lib s.calls c

/-- Make a checked call and go to `error_out` unless it succeeds. -/
def checked (env : InterfacesEnv) (c : Call) : InterfacesM Unit := do
  if ← attempt env c then return () else Prog.fail

/-- Send a request to the kernel; the answer is 0 when it was carried out. -/
def send (env : InterfacesEnv) (r : Request) : InterfacesM Int := do
  let s ← Prog.get
  let answer := env.answer s.sent.length
  Prog.modify fun s => { s with
    sent := s.sent ++ [(r, answer)]
    kernel := if answer = 0 then env.carryOut s.kernel r else s.kernel }
  return answer

/-- `nl_addr_parse`; an address that cannot be parsed leads to `error_out`. -/
def nlAddrParse (env : InterfacesEnv) (family : Nat) (text : String) : InterfacesM NlAddr :=
  match env.nlAddrParse family text with
  | some addr => return addr
  | none => Prog.fail

/-- `rtnl_link_get_by_name` on the link cache. -/
def rtnlLinkGetByName (name : String) : InterfacesM (Option RtnlLink) := do
  let s ← Prog.get
  return Keyed.lookup RtnlLink.name name s.modCtx.linkCache

/-- The same where a link that is not there leads to `error_out`. -/
def currentLink (name : String) : InterfacesM RtnlLink := do
  match ← rtnlLinkGetByName name with
  | some link => return link
  | none => Prog.fail

/-! ## iterating over changes -/

/-- `srpc_iterate_changes`: the init callback, the handler on each change up to
the first error, and the free callback. -/
def srpcIterateChanges (env : InterfacesEnv) (changes : List Change)
    (handler : Change → InterfacesM Int) (init : InterfacesM Int)
    (free : InterfacesState → InterfacesState) : InterfacesM Int :=
  Prog.exitCode (-1) <| Prog.out free do
    init.require
    checked env .srGetChangesIter
    forM changes fun change => (handler change).require

/-- `interfaces_change_interface_init`: the caches are taken from the kernel. -/
def interfacesChangeInterfaceInit (env : InterfacesEnv) : InterfacesM Int :=
  Prog.exitCode (-1) do
    checked env .nlSocketAlloc
    checked env .nlConnect
    checked env .rtnlLinkAllocCache
    Prog.modify fun s => s.setModCtx { s.modCtx with linkCache := s.kernel.links.links }
    checked env .rtnlAddrAllocCache
    Prog.modify fun s => s.setModCtx { s.modCtx with addrCache := s.kernel.addrs }

/-- The state with the caches of a phase that begins. -/
def InterfacesState.withCaches (s : InterfacesState) : InterfacesState :=
  s.setModCtx { s.modCtx with linkCache := s.kernel.links.links, addrCache := s.kernel.addrs }

/-- `interfaces_change_interface_free` clears the whole of `mod_ctx`. -/
def interfacesChangeInterfaceFree (s : InterfacesState) : InterfacesState := s.setModCtx {}

theorem run_attempt (env : InterfacesEnv) (c : Call) (s : InterfacesState) :
    (attempt env c).run s = (.ok (env.lib s.calls c), { s with calls := s.calls + 1 }) := rfl

theorem run_checked (env : InterfacesEnv) (c : Call) (s : InterfacesState) :
    (checked env c).run s =
      (if env.lib s.calls c then .ok () else .error, { s with calls := s.calls + 1 }) := by
  rw [checked, Prog.run_bind_ok (run_attempt ..)]
  cases env.lib s.calls c <;> rfl

theorem run_send (env : InterfacesEnv) (r : Request) (s : InterfacesState) :
    (send env r).run s = (.ok (env.answer s.sent.length), { s with
      sent := s.sent ++ [(r, env.answer s.sent.length)]
      kernel := if env.answer s.sent.length = 0 then env.carryOut s.kernel r else s.kernel }) := rfl

theorem run_rtnlLinkGetByName (name : String) (s : InterfacesState) :
    (rtnlLinkGetByName name).run s =
      (.ok (Keyed.lookup RtnlLink.name name s.modCtx.linkCache), s) := rfl

theorem run_currentLink (name : String) (s : InterfacesState) :
    (currentLink name).run s =
      (match Keyed.lookup RtnlLink.name name s.modCtx.linkCache with
        | some link => .ok link
        | none => .error, s) := by
  rw [currentLink, Prog.run_bind_ok (run_rtnlLinkGetByName ..)]
  split <;> rfl

/-! ## a small world -/

def addr4 (bits prefixLen : Nat) : NlAddr := { family := AF_INET, bits, prefixLen }

/-- Addresses of the documentation ranges, as libnl reads them. -/
def sampleAddrs : List (String × NlAddr) := [
  ("192.0.2.1", addr4 0xc0000201 32),
  ("192.0.2.1/16", addr4 0xc0000201 16),
  ("192.0.2.1/24", addr4 0xc0000201 24),
  ("198.51.100.1", addr4 0xc6336401 32),
  ("198.51.100.1/24", addr4 0xc6336401 24)]

/-- A world in which every call and every request succeeds. -/
def sampleEnv : InterfacesEnv where
  nlAddrParse _ text := (sampleAddrs.find? fun a => a.1 = text).map Prod.snd
  littleEndian := true
  lib _ _ := true
  answer _ := 0
  carryOut := Kernel.obey

/-- One link with one address. -/
def sampleKernel : Kernel where
  links := {
    links := [{ ifindex := 2, name := "eth0" }]
    names := by decide
    ifindexes := by decide }
  addrs := [{ ifindex := 2, localAddr := addr4 0xc0000201 24 }]

end SysrepoInterfaces.Interfaces
