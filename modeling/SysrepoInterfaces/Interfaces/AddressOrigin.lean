import Mathlib.Data.List.TakeWhile
import Mathlib.Data.Nat.Bitwise
import SysrepoInterfaces.Interfaces.Operational
import SysrepoInterfaces.Interfaces.Schema

/-!
# SysrepoInterfaces.Interfaces.AddressOrigin

The callbacks for the addresses of a link, and those for the origin and the
status of one address.  The list is taken from the address cache.  Origin and
status look for the same address in the cache again, with the prefix length the
running datastore has for it.
-/

namespace SysrepoInterfaces.Interfaces

open CProg

/-! ## the callbacks -/

def IFA_F_PERMANENT : UInt32 := 0x80

/-- The library functions on addresses, and the running datastore. -/
structure AddressEnv where
  lib : OperLib
  nlAddr2str : NlAddr → String
  nlAddrParse : Nat → String → Option NlAddr
  running : Running
  /-- whether libyang makes a leaf of the value `NULL` -/
  createsNull : Bool

/-- `strchr(text, '/')` ends the text. -/
def cutPrefix (text : String) : String := String.ofList (text.toList.takeWhile (· ≠ '/'))

/-- The text of an address without its prefix length. -/
def AddressEnv.ipText (env : AddressEnv) (addr : NlAddr) : String := cutPrefix (env.nlAddr2str addr)

/-- The loop body of the address callbacks. -/
def addAddress (env : AddressEnv) (family : IpFamily) (link : OperLink) (addr : OperAddr) :
    OperM Unit :=
  if addr.ifindex = link.ifindex ∧ addr.localAddr.family = family.af then do
    let ip := env.ipText addr.localAddr
    operChecked env.lib .snprintf
    lyTreeCreate env.lib (.address family ip)
    lyTreeCreate env.lib (.addressPrefixLength family ip (toString addr.prefixlen))
  else return ()

def addressesOf (env : AddressEnv) (family : IpFamily) (links : LinkCache)
    (addrCache : List OperAddr) (name : String) : OperM Int :=
  Prog.exitCode SR_ERR_CALLBACK_FAILED do
    operChecked env.lib .lydPath
    let link ← interfacesGetCurrentLink env.lib links name
    forM addrCache (addAddress env family link)

/-- `interfaces_subscription_operational_interfaces_interface_ipv4_address`. -/
def interfaceIpv4Address (env : AddressEnv) : LinkCache → List OperAddr → String → OperM Int :=
  addressesOf env .ipv4

/-- `interfaces_subscription_operational_interfaces_interface_ipv6_address`. -/
def interfaceIpv6Address (env : AddressEnv) : LinkCache → List OperAddr → String → OperM Int :=
  addressesOf env .ipv6

/-- `rtnl_addr_get`. -/
def rtnlAddrGet (addrCache : List OperAddr) (ifindex : Nat) (addr : NlAddr) : Option OperAddr :=
  addrCache.find? fun a => (ifindex = 0 ∨ a.ifindex = ifindex) ∧ a.localAddr = addr

/-- A pointer that must not be `NULL`. -/
def operNotNull {α : Type} (pointer : Option α) : OperM α :=
  match pointer with
  | some a => return a
  | none => Prog.fail

/-- The address of the cache with an ip and the prefix length that `sr_get_item`
reads, from a session on the running datastore. -/
def findAddr (env : AddressEnv) (family : IpFamily) (addrCache : List OperAddr)
    (link : OperLink) (ip : String) : OperM OperAddr := do
  let prefixLength ← operNotNull (env.running.prefixLength family link.name ip)
  operChecked env.lib .snprintf
  let addr ← operNotNull (env.nlAddrParse family.af (addressText ip (toString prefixLength.toNat)))
  operNotNull (rtnlAddrGet addrCache link.ifindex addr)

/-- The first part of the origin and status callbacks, up to the address. -/
def currentAddr (env : AddressEnv) (family : IpFamily) (links : LinkCache)
    (addrCache : List OperAddr) (name ip : String) : OperM OperAddr := do
  operChecked env.lib .srSessionGetConnection
  operChecked env.lib .srSessionStart
  operChecked env.lib .lydPath
  let link ← interfacesGetCurrentLink env.lib links name
  (extractKey env.lib).require
  operChecked env.lib .snprintf
  operChecked env.lib .srGetItem
  findAddr env family addrCache link ip

/-- `static` or `dhcp`. -/
def originOf (flags : UInt32) : String :=
  if flags &&& IFA_F_PERMANENT > 0 then "static" else "dhcp"

def addressOriginOf (env : AddressEnv) (family : IpFamily) (links : LinkCache)
    (addrCache : List OperAddr) (name ip : String) : OperM Int :=
  Prog.exitCode SR_ERR_CALLBACK_FAILED do
    let addr ← currentAddr env family links addrCache name ip
    lyTreeCreate env.lib (.addressOrigin family (originOf addr.flags))

/-- `interfaces_subscription_operational_interfaces_interface_ipv4_address_origin`. -/
def interfaceIpv4AddressOrigin (env : AddressEnv) :
    LinkCache → List OperAddr → String → String → OperM Int := addressOriginOf env .ipv4

/-- `interfaces_subscription_operational_interfaces_interface_ipv6_address_origin`. -/
def interfaceIpv6AddressOrigin (env : AddressEnv) :
    LinkCache → List OperAddr → String → String → OperM Int := addressOriginOf env .ipv6

/-- `interfaces_subscription_operational_interfaces_interface_ipv6_address_status`. -/
def interfaceIpv6AddressStatus (env : AddressEnv) (links : LinkCache)
    (addrCache : List OperAddr) (name ip : String) : OperM Int :=
  Prog.exitCode SR_ERR_CALLBACK_FAILED do
    let _ ← currentAddr env .ipv6 links addrCache name ip
    lyTreeCreate env.lib (.addressStatus "preferred")

/-! ## what is reported -/

/-- The callback ends well and has added one node. -/
def ReportsNode (p : OperM Int) (node : OperNode) : Prop :=
  ∃ s, p.run {} = (.ok SR_ERR_OK, s) ∧ s.nodes = [node]

/-- The address callback of a family. -/
def interfaceAddress (env : AddressEnv) :
    IpFamily → LinkCache → List OperAddr → String → OperM Int
  | .ipv4 => interfaceIpv4Address env
  | .ipv6 => interfaceIpv6Address env

/-- It lists an ip for a link. -/
def ListsAddress (env : AddressEnv) (family : IpFamily) (links : LinkCache)
    (addrCache : List OperAddr) (name ip : String) : Prop :=
  ∃ s, (interfaceAddress env family links addrCache name).run {} = (.ok SR_ERR_OK, s) ∧
    .address family ip ∈ s.nodes

/-- An address with bit 7 of the flags, `IFA_F_PERMANENT`, is a static one;
others come from DHCP. -/
def HasOrigin (addr : OperAddr) (origin : String) : Prop :=
  origin = "static" ∧ addr.flags.toNat.testBit 7 ∨
    origin = "dhcp" ∧ ¬ addr.flags.toNat.testBit 7

/-- Origin and, for IPv6, status of an ip are those of an address. -/
def ReportsOrigin (env : AddressEnv) (links : LinkCache) (addrCache : List OperAddr)
    (name ip : String) (addr : OperAddr) : IpFamily → Prop
  | .ipv4 => ∃ origin, HasOrigin addr origin ∧
      ReportsNode (interfaceIpv4AddressOrigin env links addrCache name ip)
        (.addressOrigin .ipv4 origin)
  | .ipv6 => (∃ origin, HasOrigin addr origin ∧
      ReportsNode (interfaceIpv6AddressOrigin env links addrCache name ip)
        (.addressOrigin .ipv6 origin)) ∧
    ReportsNode (interfaceIpv6AddressStatus env links addrCache name ip)
      (.addressStatus "preferred")

/-- A mask with bit 7. -/
theorem and_0x80_pos (flags : UInt32) : flags &&& 0x80 > 0 ↔ flags.toNat.testBit 7 := by
  have hand : flags.toNat &&& 128 = (flags.toNat.testBit 7).toNat * 128 :=
    Nat.and_two_pow flags.toNat 7
  rw [gt_iff_lt, UInt32.lt_iff_toNat_lt, UInt32.toNat_and]
  show 0 < flags.toNat &&& 128 ↔ _
  rw [hand]
  cases flags.toNat.testBit 7 <;> simp

theorem hasOrigin_iff (addr : OperAddr) (origin : String) :
    HasOrigin addr origin ↔ origin = originOf addr.flags := by
  unfold HasOrigin originOf IFA_F_PERMANENT
  rw [← and_0x80_pos]
  split <;> simp_all

/-! ## addresses and their texts -/

/-- An address of a family. -/
structure InFamily (family : IpFamily) (addr : NlAddr) : Prop where
  af : addr.family = family.af
  bits : addr.bits < 2 ^ family.width
  prefixLen : addr.prefixLen ≤ family.width

/-- The text of an address without its prefix length is read back, with any
prefix length. -/
def AddressEnv.ReadsBack (env : AddressEnv) (family : IpFamily) : Prop :=
  ∀ addr, InFamily family addr → ∀ length ≤ family.width,
    env.nlAddrParse family.af (addressText (env.ipText addr) (toString length)) =
      some { addr with prefixLen := length }

/-- An address cache: no two addresses of a link have one ip. -/
structure AddrCache (family : IpFamily) where
  addrs : List OperAddr
  inFamily : ∀ addr ∈ addrs, addr.localAddr.family = family.af → InFamily family addr.localAddr
  ips : (addrs.map fun addr =>
    (addr.ifindex, addr.localAddr.family, addr.localAddr.bits)).Nodup

/-- The address of a link that has an ip. -/
structure IsAddressOf (env : AddressEnv) (family : IpFamily) (addrCache : List OperAddr)
    (link : OperLink) (ip : String) (addr : OperAddr) : Prop where
  mem : addr ∈ addrCache
  ifindex : addr.ifindex = link.ifindex
  family : addr.localAddr.family = family.af
  ip : env.ipText addr.localAddr = ip

section Cache

variable {env : AddressEnv} {family : IpFamily} {cache : AddrCache family} {links : LinkCache}
  {link : OperLink} {ip : String} {addr : OperAddr}

/-- The address is found under its own prefix length only. -/
theorem rtnlAddrGet_eq (haddr : addr ∈ cache.addrs) (hifindex : addr.ifindex ≠ 0) (length : Nat) :
    rtnlAddrGet cache.addrs addr.ifindex { addr.localAddr with prefixLen := length } =
      if length = addr.localAddr.prefixLen then some addr else none := by
  have hsame : ∀ a ∈ cache.addrs, a.ifindex = addr.ifindex →
      a.localAddr = { addr.localAddr with prefixLen := length } → a = addr := by
    intro a ha hindex hlocal
    have hkey : (a.ifindex, a.localAddr.family, a.localAddr.bits) =
        (addr.ifindex, addr.localAddr.family, addr.localAddr.bits) := by simp [hindex, hlocal]
    exact List.inj_on_of_nodup_map cache.ips ha haddr hkey
  unfold rtnlAddrGet
  split
  · next hlength =>
      subst hlength
      cases hfind : cache.addrs.find? fun a =>
          (addr.ifindex = 0 ∨ a.ifindex = addr.ifindex) ∧ a.localAddr = addr.localAddr with
      | none =>
          have hnone := List.find?_eq_none.mp hfind addr haddr
          simp at hnone
      | some a =>
          have ha := List.find?_some hfind
          simp only [hifindex, false_or, decide_eq_true_eq] at ha
          have heq := hsame a (List.mem_of_find?_eq_some hfind) ha.1 ha.2
          rw [heq]
  · next hlength =>
      rw [List.find?_eq_none]
      intro a ha hfound
      simp only [hifindex, false_or, decide_eq_true_eq] at hfound
      have heq := hsame a ha hfound.1 hfound.2
      have hlocal := hfound.2
      rw [heq] at hlocal
      exact hlength (congrArg NlAddr.prefixLen hlocal).symm

end Cache

/-! ## the list -/

/-- The nodes of an address, if it is one of the link. -/
def addressNodes (env : AddressEnv) (family : IpFamily) (link : OperLink) (addr : OperAddr) :
    List OperNode :=
  if addr.ifindex = link.ifindex ∧ addr.localAddr.family = family.af then
    [.address family (env.ipText addr.localAddr),
      .addressPrefixLength family (env.ipText addr.localAddr) (toString addr.prefixlen)]
  else []

section Run

variable {env : AddressEnv} {family : IpFamily} {cache : AddrCache family} {links : LinkCache}
  {link : OperLink} {ip : String} {addr : OperAddr}

theorem adds_addAddress (hlib : env.lib.Succeeds) (addr : OperAddr) :
    Adds (addAddress env family link addr) () (addressNodes env family link addr) := by
  unfold addAddress addressNodes
  split
  · refine (adds_operChecked hlib .snprintf).bind (f := fun _ => _) ?_
    exact (adds_lyTreeCreate hlib _).bind (f := fun _ => _) (adds_lyTreeCreate hlib _)
  · exact adds_pure ()

/-- The list has the addresses of the link. -/
theorem adds_addressesOf (hlib : env.lib.Succeeds) (hlink : link ∈ links.links)
    (addrCache : List OperAddr) :
    Adds (addressesOf env family links addrCache link.name) SR_ERR_OK
      (addrCache.flatMap (addressNodes env family link)) := by
  have hloop : Adds (forM addrCache (addAddress env family link)) ()
      (addrCache.flatMap (addressNodes env family link)) :=
    adds_forM fun addr _ => adds_addAddress hlib addr
  have hlink' := (adds_currentLink hlib hlink).bind (f := fun link : OperLink =>
    forM addrCache (addAddress env family link)) hloop
  exact ((adds_operChecked hlib .lydPath).bind (f := fun _ => _) hlink').exitCode _

theorem listsAddress_iff (hlib : env.lib.Succeeds) (hlink : link ∈ links.links)
    (addrCache : List OperAddr) :
    ListsAddress env family links addrCache link.name ip ↔
      ∃ addr, IsAddressOf env family addrCache link ip addr := by
  have hcallback : interfaceAddress env family = addressesOf env family := by cases family <;> rfl
  obtain ⟨calls, hrun⟩ := @adds_addressesOf env family links link hlib hlink addrCache {}
  have hlists : ListsAddress env family links addrCache link.name ip ↔
      .address family ip ∈ addrCache.flatMap (addressNodes env family link) := by
    simp [ListsAddress, hcallback, hrun]
  rw [hlists, List.mem_flatMap]
  constructor
  · intro ⟨addr, hmem, hnode⟩
    unfold addressNodes at hnode
    split at hnode
    · next h =>
        have hip : ip = env.ipText addr.localAddr := by simpa using hnode
        exact ⟨addr, hmem, h.1, h.2, hip.symm⟩
    · cases hnode
  · intro ⟨addr, h⟩
    refine ⟨addr, h.mem, ?_⟩
    rw [addressNodes, if_pos ⟨h.ifindex, h.family⟩, h.ip]
    exact List.mem_cons_self

/-! ## origin and status -/

theorem adds_operNotNull {α : Type} (a : α) : Adds (operNotNull (some a)) a [] := adds_pure a

theorem fails_operNotNull {α : Type} : FailsWith (operNotNull (none : Option α)) [] :=
  failsWith_fail

/-- The running datastore knows the prefix length of an address. -/
def KnowsPrefix (running : Running) (family : IpFamily) (name ip : String) (addr : OperAddr) :
    Prop :=
  ∃ length, running.prefixLength family name ip = some length ∧
    length.toNat = addr.localAddr.prefixLen

theorem findAddr_of_knows (hlib : env.lib.Succeeds) (hreads : env.ReadsBack family)
    (hrunning : Schema.ValidRunning env.running) (hifindex : link.ifindex ≠ 0)
    (h : IsAddressOf env family cache.addrs link ip addr) :
    (KnowsPrefix env.running family link.name ip addr →
        Adds (findAddr env family cache.addrs link ip) addr []) ∧
      (¬ KnowsPrefix env.running family link.name ip addr →
        FailsWith (findAddr env family cache.addrs link ip) []) := by
  have hindex : addr.ifindex ≠ 0 := by
    rw [h.ifindex]
    exact hifindex
  unfold findAddr
  cases hlength : env.running.prefixLength family link.name ip with
  | none =>
      constructor
      · intro ⟨_, hsome, _⟩
        cases hlength.symm.trans hsome
      · intro _ s
        exact ⟨s.calls, Prog.run_bind_error (by simp [operNotNull])⟩
  | some length =>
      have hle := hrunning.prefixLength family link.name ip length hlength
      have hparse := hreads addr.localAddr (cache.inFamily addr h.mem h.family) length.toNat hle
      rw [h.ip] at hparse
      have hget := rtnlAddrGet_eq h.mem hindex length.toNat
      rw [h.ifindex] at hget
      have hknows : KnowsPrefix env.running family link.name ip addr ↔
          length.toNat = addr.localAddr.prefixLen := by
        simp [KnowsPrefix, hlength]
      rw [hknows]
      constructor
      · intro heq
        refine (adds_operNotNull length).bind (f := fun _ => _) ?_
        refine (adds_operChecked hlib .snprintf).bind (f := fun _ => _) ?_
        rw [hparse]
        refine (adds_operNotNull _).bind (f := fun _ => _) ?_
        rw [hget, if_pos heq]
        exact adds_operNotNull addr
      · intro hne
        refine (adds_operNotNull length).bind_fails (f := fun _ => _) ?_
        refine (adds_operChecked hlib .snprintf).bind_fails (f := fun _ => _) ?_
        rw [hparse]
        refine (adds_operNotNull _).bind_fails (f := fun _ => _) ?_
        rw [hget, if_neg hne]
        exact fails_operNotNull

/-- Before it looks for the address, `currentAddr` only makes calls. -/
theorem run_currentAddr (hlib : env.lib.Succeeds) (hlink : link ∈ links.links)
    (addrCache : List OperAddr) (s : OperState) :
    ∃ calls, (currentAddr env family links addrCache link.name ip).run s =
      (findAddr env family addrCache link ip).run { nodes := s.nodes, calls } := by
  have hcalls : Adds (do
      operChecked env.lib .srSessionGetConnection
      operChecked env.lib .srSessionStart
      operChecked env.lib .lydPath
      let link ← interfacesGetCurrentLink env.lib links link.name
      (extractKey env.lib).require
      operChecked env.lib .snprintf
      operChecked env.lib .srGetItem
      return link) link [] := by
    refine (adds_operChecked hlib _).bind (f := fun _ => _) ?_
    refine (adds_operChecked hlib _).bind (f := fun _ => _) ?_
    refine (adds_operChecked hlib _).bind (f := fun _ => _) ?_
    refine (adds_currentLink hlib hlink).bind (f := fun _ => _) ?_
    refine (adds_extractKey hlib).require.bind (f := fun _ => _) ?_
    refine (adds_operChecked hlib _).bind (f := fun _ => _) ?_
    exact (adds_operChecked hlib _).bind (f := fun _ => _) (adds_pure link)
  obtain ⟨calls, hrun⟩ := hcalls s
  refine ⟨calls, ?_⟩
  rw [List.append_nil] at hrun
  have hbind := Prog.run_bind_ok (f := fun link : OperLink => findAddr env family addrCache link ip)
    hrun
  rw [← hbind]
  simp only [bind_assoc, pure_bind, currentAddr]

/-- A callback that adds a node for the address it finds. -/
theorem reportsNode_iff {p : OperM OperAddr} (node : OperAddr → OperNode)
    (hlib : env.lib.Succeeds) {known : Prop}
    (hp : (known → Adds p addr []) ∧ (¬ known → FailsWith p [])) :
    ReportsNode (Prog.exitCode SR_ERR_CALLBACK_FAILED do
      let addr ← p
      lyTreeCreate env.lib (node addr)) (node addr) ↔ known := by
  constructor
  · intro ⟨s, hrun, _⟩
    by_contra hunknown
    obtain ⟨calls, herror⟩ := hp.2 hunknown {}
    rw [Prog.run_exitCode, Prog.run_bind_error herror] at hrun
    cases hrun
  · intro hknown
    have hadds := (hp.1 hknown).bind (f := fun addr => lyTreeCreate env.lib (node addr))
      (adds_lyTreeCreate hlib (node addr))
    obtain ⟨calls, hrun⟩ := hadds.exitCode SR_ERR_CALLBACK_FAILED {}
    exact ⟨_, hrun, rfl⟩

theorem currentAddr_of_knows (hlib : env.lib.Succeeds) (hreads : env.ReadsBack family)
    (hrunning : Schema.ValidRunning env.running) (hlink : link ∈ links.links)
    (h : IsAddressOf env family cache.addrs link ip addr) :
    (KnowsPrefix env.running family link.name ip addr →
        Adds (currentAddr env family links cache.addrs link.name ip) addr []) ∧
      (¬ KnowsPrefix env.running family link.name ip addr →
        FailsWith (currentAddr env family links cache.addrs link.name ip) []) := by
  obtain ⟨hfinds, hfails⟩ := findAddr_of_knows hlib hreads hrunning (links.nonzero link hlink) h
  constructor
  · intro hknows s
    obtain ⟨calls, hrun⟩ := @run_currentAddr env family links link ip hlib hlink cache.addrs s
    obtain ⟨calls', hrun'⟩ := hfinds hknows { nodes := s.nodes, calls }
    exact ⟨calls', hrun.trans hrun'⟩
  · intro hunknown s
    obtain ⟨calls, hrun⟩ := @run_currentAddr env family links link ip hlib hlink cache.addrs s
    obtain ⟨calls', hrun'⟩ := hfails hunknown { nodes := s.nodes, calls }
    exact ⟨calls', hrun.trans hrun'⟩

theorem reportsOrigin_iff (hlib : env.lib.Succeeds) (hreads : env.ReadsBack family)
    (hrunning : Schema.ValidRunning env.running) (hlink : link ∈ links.links)
    (h : IsAddressOf env family cache.addrs link ip addr) :
    ReportsOrigin env links cache.addrs link.name ip addr family ↔
      KnowsPrefix env.running family link.name ip addr := by
  have hcurrent := currentAddr_of_knows hlib hreads hrunning hlink h
  have horigin := reportsNode_iff (fun addr => .addressOrigin family (originOf addr.flags)) hlib
    hcurrent
  have hstatus := reportsNode_iff (fun _ => .addressStatus "preferred") hlib hcurrent
  have horigin : (∃ origin, HasOrigin addr origin ∧ ReportsNode
      (addressOriginOf env family links cache.addrs link.name ip)
        (.addressOrigin family origin)) ↔ KnowsPrefix env.running family link.name ip addr := by
    simp only [hasOrigin_iff, exists_eq_left]
    exact horigin
  cases family with
  | ipv4 => exact horigin
  | ipv6 => exact (and_congr horigin hstatus).trans (and_self_iff)

/-- For each ip that is listed, the callbacks report the origin of the kernel
address exactly when the running datastore has its prefix length. -/
theorem listed_reportsOrigin_iff (hlib : env.lib.Succeeds) (hreads : env.ReadsBack family)
    (hrunning : Schema.ValidRunning env.running) (hlink : link ∈ links.links)
    (hlisted : ListsAddress env family links cache.addrs link.name ip) :
    ∃ addr, IsAddressOf env family cache.addrs link ip addr ∧
      (ReportsOrigin env links cache.addrs link.name ip addr family ↔
        KnowsPrefix env.running family link.name ip addr) := by
  obtain ⟨addr, haddr⟩ := (listsAddress_iff hlib hlink cache.addrs).mp hlisted
  exact ⟨addr, haddr, reportsOrigin_iff hlib hreads hrunning hlink haddr⟩

end Run

/-! ## a link with one address -/

/-- `nl_addr2str` on IPv4 addresses. -/
def ipv4Addr2str (addr : NlAddr) : String :=
  if addr.prefixLen = 32 then dottedQuad (octetsOf addr.bits)
  else addressText (dottedQuad (octetsOf addr.bits)) (toString addr.prefixLen)

theorem cutPrefix_ipv4Addr2str (addr : NlAddr) :
    cutPrefix (ipv4Addr2str addr) = dottedQuad (octetsOf addr.bits) := by
  have hall : ∀ c ∈ (dottedQuad (octetsOf addr.bits)).toList, decide (c ≠ '/') = true := by
    intro c hc
    have hslash := slash_notMem_dottedQuad (octetsOf addr.bits)
    simp only [decide_eq_true_eq]
    exact fun h => hslash (h ▸ hc)
  unfold cutPrefix ipv4Addr2str
  split
  · rw [List.takeWhile_eq_self_iff.mpr hall, String.ofList_toList]
  · simp only [addressText, String.toList_append]
    rw [List.append_assoc, List.takeWhile_append_of_pos hall]
    simp

/-- A world with one link, whose running datastore has a prefix length for
192.0.2.1 on it or not. -/
def originEnv (prefixLength : Option UInt8) : AddressEnv where
  lib _ _ := true
  nlAddr2str := ipv4Addr2str
  nlAddrParse _ text := parseIpv4 text
  running := { prefixLength := fun _ name ip =>
    if name = "eth0" ∧ ip = "192.0.2.1" then prefixLength else none }
  createsNull := false

theorem originEnv_readsBack (prefixLength : Option UInt8) :
    (originEnv prefixLength).ReadsBack .ipv4 := by
  intro addr haddr length hlength
  have htext : (originEnv prefixLength).ipText addr = dottedQuad (octetsOf addr.bits) :=
    cutPrefix_ipv4Addr2str addr
  have hcall : (originEnv prefixLength).nlAddrParse IpFamily.ipv4.af = parseIpv4 := rfl
  have hparse := parseIpv4_addressText (octetsOf addr.bits) hlength
  have hbits := bits_octetsOf haddr.bits
  have hfamily : addr.family = AF_INET := haddr.af
  rw [hcall, htext, hparse, hbits, addr4, hfamily]

def originLinks : LinkCache where
  links := [{ ifindex := 2, name := "eth0" }]
  names := by decide
  ifindexes := by decide
  nonzero := by decide

/-- An address from DHCP. -/
def originCache : AddrCache .ipv4 where
  addrs := [{ ifindex := 2, localAddr := addr4 0xc0000201 24, prefixlen := 24, flags := 0 }]
  inFamily addr haddr _ := by
    obtain rfl := List.mem_singleton.mp haddr
    exact ⟨rfl, by decide, by decide⟩
  ips := by decide

theorem validRunning_originEnv : Schema.ValidRunning (originEnv (some 24)).running where
  prefixLength family name ip length h := by
    have hlength : length = 24 := by
      simp only [originEnv, Option.ite_none_right_eq_some, Option.some.injEq] at h
      exact h.2.symm
    rw [hlength]
    cases family <;> decide
  netmask _ _ _ h := by cases h

theorem originEnv_listsAddress (prefixLength : Option UInt8) :
    ListsAddress (originEnv prefixLength) .ipv4 originLinks originCache.addrs "eth0"
      "192.0.2.1" := by
  have hlink : ({ ifindex := 2, name := "eth0" } : OperLink) ∈ originLinks.links := by decide
  refine (listsAddress_iff (fun _ _ => rfl) hlink originCache.addrs).mpr ?_
  refine ⟨_, List.mem_singleton.mpr rfl, rfl, rfl, ?_⟩
  exact (cutPrefix_ipv4Addr2str _).trans (by decide)

theorem listed_reportsOrigin_iff_originEnv :
    ∃ addr, IsAddressOf (originEnv (some 24)) .ipv4 originCache.addrs
        { ifindex := 2, name := "eth0" } "192.0.2.1" addr ∧
      (ReportsOrigin (originEnv (some 24)) originLinks originCache.addrs "eth0" "192.0.2.1" addr
          .ipv4 ↔
        KnowsPrefix (originEnv (some 24)).running .ipv4 "eth0" "192.0.2.1" addr) :=
  have hlink : ({ ifindex := 2, name := "eth0" } : OperLink) ∈ originLinks.links := by decide
  listed_reportsOrigin_iff (fun _ _ => rfl) (originEnv_readsBack (some 24))
    validRunning_originEnv hlink (originEnv_listsAddress (some 24))

/-- The address from DHCP is listed, and its origin callback fails. -/
theorem dhcpAddress_without_origin :
    ListsAddress (originEnv none) .ipv4 originLinks originCache.addrs "eth0" "192.0.2.1" ∧
      ∃ s, (interfaceIpv4AddressOrigin (originEnv none) originLinks originCache.addrs "eth0"
        "192.0.2.1").run {} = (.ok SR_ERR_CALLBACK_FAILED, s) :=
  ⟨originEnv_listsAddress none, _, rfl⟩

end SysrepoInterfaces.Interfaces
