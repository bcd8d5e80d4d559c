import SysrepoInterfaces.Interfaces.NestedLookup
import SysrepoInterfaces.Lib.Plans

/-!
# SysrepoInterfaces.Interfaces.Planned

The requests of a change event.  A phase takes the links from the kernel when it
begins; the requests of a change are given by these links, the session and the
change.  Every handler carries out what is planned for its change, or stops
with nothing sent or at a refused request.
-/

namespace SysrepoInterfaces.Interfaces

open CProg Requests

/-! ## what is planned for a change -/

/-- The kernel's names of the link types. -/
def linkTypeOf : String → Option String
  | "iana-if-type:ethernetCsmacd" => some "veth"
  | "iana-if-type:softwareLoopback" => some "lo"
  | "iana-if-type:l2vlan" => some "vlan"
  | "iana-if-type:other" => some "dummy"
  | _ => none

/-- A link is set up, its operational state to 6, or down, to 2; the request
replaces. -/
def setLink (link : RtnlLink) (name : String) (up : Bool) : Request :=
  .linkChange link.ifindex
    { name, type := link.type, up := some up, operstate := some (if up then 6 else 2) } 0x100

/-- The MTU of a link: the sixteen bits of a number, or 1500 for a leaf that is
gone. -/
def changedMtu (change : Change) : Option Nat :=
  match change.operation with
  | .created | .modified => some (atoi change.nodeValue % 65536).toNat
  | .deleted => some 1500
  | .moved => none

/-- The prefix length of a created address; without a leaf an IPv6 address gets
0. -/
def Session.createdPrefixLength (littleEndian : Bool) (session : Session) (family : IpFamily)
    (name ip : String) : Option UInt8 :=
  match family with
  | .ipv4 => session.changedPrefixLength littleEndian .ipv4 name ip
  | .ipv6 => some ((session.changedPrefixLength littleEndian .ipv6 name ip).getD 0)

/-- The old address goes and then the new one comes. -/
def replacing (env : InterfacesEnv) (family : Nat) (link : RtnlLink) (old new : String) :
    Option (List Request) := do
  let newAddr ← env.nlAddrParse family new
  let oldAddr ← env.nlAddrParse family old
  some [.addrDelete { ifindex := link.ifindex, localAddr := oldAddr },
    .addrAdd { ifindex := link.ifindex, localAddr := newAddr }]

/-- The requests of a change, in a phase that began with these links.  There are
none where the change cannot be handled. -/
def planned (env : InterfacesEnv) (session : Session) (links : LinkTable) (change : Change) :
    Option (List Request) :=
  match change.leaf, change.operation with
  | .name, .created =>
      if (links.getByName change.nodeValue).isSome then some []
      else some [.linkAdd change.nodeValue "dummy"]
  | .name, .modified => none
  | .name, .deleted => do
      let link ← links.getByName change.nodeValue
      some [.linkDelete link.ifindex]
  | .type, .created | .type, .modified => do
      let link ← links.getByName change.ifName
      let type ← linkTypeOf change.nodeValue
      some [.linkChange link.ifindex { name := change.ifName, type := some type } 0]
  | .enabled, .created | .enabled, .modified => do
      let link ← links.getByName change.ifName
      some [setLink link change.ifName (change.nodeValue = "true")]
  | .enabled, .deleted =>
      match links.getByName change.ifName with
      | some link => some [setLink link change.ifName true]
      | none => some []
  | .ipv4Mtu, _ => do
      let link ← links.getByName change.ifName
      some [.linkChange link.ifindex
        { name := change.ifName, type := link.type, mtu := changedMtu change } 0]
  | .addressIp family, .created => do
      let link ← links.getByName change.ifName
      let addr ← env.nlAddrParse family.af change.nodeValue
      let length ← session.createdPrefixLength env.littleEndian family change.ifName
        change.nodeValue
      some [.addrAdd {
        ifindex := link.ifindex, localAddr := { addr with prefixLen := length.toNat } }]
  | .addressIp _, .modified => none
  | .addressIp family, .deleted => do
      let link ← links.getByName change.ifName
      let length ← session.running.addressLength env.littleEndian family change.ifName
        change.nodeValue
      let addr ← env.nlAddrParse family.af (change.nodeValue ++ "/" ++ toString length.toNat)
      some [.addrDelete { ifindex := link.ifindex, localAddr := addr }]
  | .addressPrefixLength family, .modified => do
      let link ← links.getByName change.ifName
      replacing env family.af link (change.ip ++ "/" ++ change.previousValue)
        (change.ip ++ "/" ++ change.nodeValue)
  | .ipv4AddressNetmask, .modified => do
      let link ← links.getByName change.ifName
      let new ← netmask2prefix env.littleEndian change.nodeValue
      let old ← netmask2prefix env.littleEndian change.previousValue
      replacing env AF_INET link (change.ip ++ "/" ++ toString old.toNat)
        (change.ip ++ "/" ++ toString new.toNat)
  | .neighborIp family, .created => do
      let link ← links.getByName change.ifName
      let dst ← env.nlAddrParse family.af change.nodeValue
      let text ← session.changedLinkLayerAddress family change.ifName change.nodeValue
      let lladdr ← env.nlAddrParse AF_LLC text
      some [.neighAdd { ifindex := link.ifindex, dst, lladdr := some lladdr } 0x400]
  | .neighborIp _, .modified => none
  | .neighborIp family, .deleted => do
      let link ← links.getByName change.ifName
      let dst ← env.nlAddrParse family.af change.nodeValue
      some [.neighDelete { ifindex := link.ifindex, dst }]
  | .neighborLinkLayerAddress family, .modified => do
      let link ← links.getByName change.ifName
      let dst ← env.nlAddrParse family.af change.ip
      let lladdr ← env.nlAddrParse AF_LLC change.nodeValue
      some [.neighAdd { ifindex := link.ifindex, dst, lladdr := some lladdr } 0x100]
  | _, _ => some []

theorem replacing_eq_some {env : InterfacesEnv} {family : Nat} {link : RtnlLink}
    {old new : String} {asked : List Request} (h : replacing env family link old new = some asked) :
    ∃ oldAddr newAddr, asked = [.addrDelete { ifindex := link.ifindex, localAddr := oldAddr },
      .addrAdd { ifindex := link.ifindex, localAddr := newAddr }] := by
  simp only [replacing, Option.bind_eq_bind, Option.bind_eq_some_iff, Option.some.injEq] at h
  obtain ⟨newAddr, -, oldAddr, -, rfl⟩ := h
  exact ⟨oldAddr, newAddr, rfl⟩

/-- Only a modified prefix length or netmask plans two requests: the old address
goes and the new one comes. -/
theorem planned_two {env : InterfacesEnv} {session : Session} {links : LinkTable} {change : Change}
    {r r' : Request} {rest : List Request}
    (h : planned env session links change = some (r :: r' :: rest)) :
    (change.operation = .modified ∧
      (change.leaf = .ipv4AddressNetmask ∨ ∃ family, change.leaf = .addressPrefixLength family)) ∧
      rest = [] ∧ ∃ ifindex old new, r = .addrDelete { ifindex, localAddr := old } ∧
        r' = .addrAdd { ifindex, localAddr := new } := by
  have hreplace : ∀ (link : RtnlLink) family old new,
      replacing env family link old new = some (r :: r' :: rest) →
        rest = [] ∧ ∃ ifindex old new, r = .addrDelete { ifindex, localAddr := old } ∧
          r' = .addrAdd { ifindex, localAddr := new } := by
    intro link family old new h
    obtain ⟨oldAddr, newAddr, hasked⟩ := replacing_eq_some h
    simp only [List.cons.injEq] at hasked
    exact ⟨hasked.2.2, link.ifindex, oldAddr, newAddr, hasked.1, hasked.2.1⟩
  unfold planned at h
  split at h
  -- the length of an address is modified
  case h_13 hleaf hop =>
    obtain ⟨link, -, h⟩ := Option.bind_eq_some_iff.mp h
    exact ⟨⟨hop, .inr ⟨_, hleaf⟩⟩, hreplace link _ _ _ h⟩
  -- its netmask is
  case h_14 hleaf hop =>
    obtain ⟨link, -, h⟩ := Option.bind_eq_some_iff.mp h
    obtain ⟨new, -, h⟩ := Option.bind_eq_some_iff.mp h
    obtain ⟨old, -, h⟩ := Option.bind_eq_some_iff.mp h
    exact ⟨⟨hop, .inl hleaf⟩, hreplace link _ _ _ h⟩
  -- a created name and a deleted `enabled` ask whether the link is there
  case h_1 | h_8 =>
    split at h <;> simp at h
  -- the other changes ask for one request or for none
  all_goals simp [Option.bind_eq_some_iff] at h

/-! ## the handlers -/

/-- The link cache of a phase is that of its beginning. -/
def SeesLinks (links : LinkTable) (s : InterfacesState) : Prop := s.modCtx.linkCache = links.links

/-- And no lookup has left anything. -/
def SeesOnlyLinks (links : LinkTable) (s : InterfacesState) : Prop := SeesLinks links s ∧ NoLookup s

section Handlers

variable {env : InterfacesEnv} {session : Session} {links : LinkTable} {change : Change}
  {family : IpFamily} {name : String} {leaf : Leaf} {α : Type} {plan : Option (List Request)}
  {I : InterfacesState → Prop}

theorem ensures_rtnlLinkGetByName :
    Prog.Ensures (SeesLinks links) (rtnlLinkGetByName name) fun link s =>
      links.getByName name = link ∧ SeesLinks links s := by
  intro s link s' hs hrun
  rw [run_rtnlLinkGetByName] at hrun
  cases hrun
  exact ⟨by rw [LinkTable.getByName, hs], hs⟩

/-- The link the cache has. -/
theorem attempts_currentLink {f : RtnlLink → InterfacesM α}
    (hI : ∀ s, I s → SeesLinks links s)
    (hf : ∀ link, links.getByName name = some link → (kernel env).Attempts I (f link) plan) :
    (kernel env).Attempts I (currentLink name >>= f) plan := by
  have hlink : Prog.Ensures I (currentLink name) fun link s =>
      links.getByName name = some link ∧ I s := by
    refine ensures_currentLink.weaken (fun _ => id) fun link s hs => ⟨?_, hs.2⟩
    rw [LinkTable.getByName, ← hI s hs.2]
    exact hs.1
  exact Link.Attempts.quiet_bind (quiet_currentLink _) hlink fun link =>
    Link.attempts_of_fact (hf link)

theorem attempts_checked {c : Call} {f : Unit → InterfacesM α}
    (hI : ∀ s n, I s → I { s with calls := n })
    (hf : (kernel env).Attempts I (f ()) plan) :
    (kernel env).Attempts I (checked env c >>= f) plan :=
  Link.Attempts.quiet_bind (quiet_checked env c) (ensures_checked hI c) fun _ => hf

theorem attempts_nlAddrParse {f : NlAddr → InterfacesM α} {family : Nat} {text : String}
    (hf : ∀ addr, env.nlAddrParse family text = some addr →
      (kernel env).Attempts I (f addr) plan) :
    (kernel env).Attempts I (nlAddrParse env family text >>= f) plan :=
  Link.Attempts.quiet_bind (quiet_nlAddrParse env _ _) ensures_nlAddrParse fun addr =>
    Link.attempts_of_fact (hf addr)

theorem attempts_netmaskLength {f : UInt8 → InterfacesM α} {text : String}
    (hf : ∀ length, netmask2prefix env.littleEndian text = some length →
      (kernel env).Attempts I (f length) plan) :
    (kernel env).Attempts I (netmaskLength env text >>= f) plan :=
  Link.Attempts.quiet_bind (quiet_netmaskLength env _) ensures_netmaskLength fun length =>
    Link.attempts_of_fact (hf length)

/-- The name of the interface, and the link it has. -/
theorem attempts_preamble {f : String → RtnlLink → InterfacesM α}
    (hcalls : ∀ s n, I s → I { s with calls := n }) (hI : ∀ s, I s → SeesLinks links s)
    (hf : ∀ link, links.getByName change.ifName = some link →
      (kernel env).Attempts I (f change.ifName link) plan) :
    (kernel env).Attempts I (do
      let name ← extractInterfaceName env change
      let link ← currentLink name
      f name link) plan := by
  refine Link.Attempts.quiet_bind quiet_extractInterfaceName
    (ensures_extractInterfaceName hcalls) fun name => Link.attempts_of_fact fun hname => ?_
  subst hname
  exact attempts_currentLink hI hf

theorem attempts_preamble_ip {f : String → RtnlLink → InterfacesM α}
    (hf : ∀ link, links.getByName change.ifName = some link →
      (kernel env).Attempts (SeesLinks links) (f change.ip link) plan) :
    (kernel env).Attempts (SeesLinks links) (do
      let name ← extractInterfaceName env change
      let ip ← extractIp env change
      let link ← currentLink name
      f ip link) plan := by
  refine Link.Attempts.quiet_bind quiet_extractInterfaceName
    (ensures_extractInterfaceName fun _ _ hs => hs) fun name =>
    Link.attempts_of_fact fun hname => ?_
  subst hname
  refine Link.Attempts.quiet_bind quiet_extractIp (ensures_extractIp fun _ _ hs => hs) fun ip =>
    Link.attempts_of_fact fun hip => ?_
  subst hip
  exact attempts_currentLink (fun _ hs => hs) hf

theorem attempts_exitCode {p : InterfacesM Unit} (h : (kernel env).Attempts I p plan) :
    (kernel env).Attempts I (p.exitCode (-1)).require plan := by
  rw [Prog.require_exitCode (by decide)]
  exact h

theorem attempts_changeName (hleaf : change.leaf = .name) :
    (kernel env).Attempts (SeesLinks links) (interfacesInterfaceChangeName env change).require
      (planned env session links change) := by
  refine attempts_exitCode ?_
  cases hop : change.operation with
  | created =>
      refine Link.Attempts.quiet_bind (quiet_rtnlLinkGetByName _) ensures_rtnlLinkGetByName
        fun link => Link.attempts_of_fact fun hlink => ?_
      cases link with
      | none =>
          refine attempts_checked (fun _ _ hs => hs) (attempts_checked (fun _ _ hs => hs) ?_)
          refine (sends_send env _).attempts ?_
          simp [planned, hleaf, hop, hlink]
      | some link =>
          refine Link.attempts_pure ?_
          simp [planned, hleaf, hop, hlink]
  | modified => exact Link.attempts_fail
  | deleted =>
      refine attempts_currentLink (fun _ hs => hs) fun link hlink => ?_
      refine (sends_send env _).attempts ?_
      simp [planned, hleaf, hop, hlink]
  | moved =>
      refine Link.attempts_pure ?_
      simp [planned, hleaf, hop]

theorem linkTypeOf_eq (text : String) :
    linkTypeOf text = (typePairs.find? fun pair => pair.1 = text).map Prod.snd := by
  unfold linkTypeOf
  split
  · rfl
  · rfl
  · rfl
  · rfl
  · next h₁ h₂ h₃ h₄ =>
      have hne : ∀ pair ∈ typePairs, ¬ pair.1 = text := by
        simp only [typePairs, List.forall_mem_cons]
        grind
      rw [List.find?_eq_none.mpr (by simpa using hne), Option.map_none]

theorem attempts_changeLinkType (hleaf : change.leaf = .type)
    (hop : change.operation = .created ∨ change.operation = .modified) :
    (kernel env).Attempts (SeesLinks links) (changeLinkType env change)
      (planned env session links change) := by
  refine Link.Attempts.quiet_bind quiet_interfacecsInterfaceExtractName
    (ensures_interfacecsInterfaceExtractName fun _ _ hs => hs) fun name =>
      Link.attempts_of_fact fun hname => ?_
  subst hname
  refine attempts_currentLink (fun _ hs => hs) fun link hlink => ?_
  refine attempts_checked (fun _ _ hs => hs) ?_
  have htype := linkTypeOf_eq change.nodeValue
  cases hpair : typePairs.find? fun pair => pair.1 = change.nodeValue with
  | none => exact Link.attempts_fail
  | some pair =>
      rw [hpair] at htype
      refine (sends_send env _).attempts ?_
      rcases hop with hop | hop <;> simp [planned, hleaf, hop, hlink, htype]

theorem attempts_changeType (hleaf : change.leaf = .type) :
    (kernel env).Attempts (SeesLinks links) (interfacesInterfaceChangeType env change).require
      (planned env session links change) := by
  refine attempts_exitCode ?_
  cases hop : change.operation with
  | created => exact attempts_changeLinkType hleaf (.inl hop)
  | modified => exact attempts_changeLinkType hleaf (.inr hop)
  | deleted =>
      refine Link.attempts_pure ?_
      simp [planned, hleaf, hop]
  | moved =>
      refine Link.attempts_pure ?_
      simp [planned, hleaf, hop]

/-- What the code asks for is what is planned. -/
theorem enabledRequest_eq (link : RtnlLink) (name : String) (up : Bool) :
    enabledRequest link name up = setLink link name up := by
  cases up <;> rfl

theorem attempts_changeLinkEnabled (hleaf : change.leaf = .enabled)
    (hop : change.operation = .created ∨ change.operation = .modified) :
    (kernel env).Attempts (SeesLinks links) (changeLinkEnabled env change change.ifName)
      (planned env session links change) := by
  refine attempts_currentLink (fun _ hs => hs) fun link hlink => ?_
  refine attempts_checked (fun _ _ hs => hs) ?_
  rw [enabledRequest_eq]
  refine (sends_send env _).attempts ?_
  rcases hop with hop | hop <;> simp [planned, hleaf, hop, hlink]

theorem attempts_resetLinkEnabled (hleaf : change.leaf = .enabled)
    (hop : change.operation = .deleted) :
    (kernel env).Attempts (SeesLinks links) (resetLinkEnabled env change.ifName)
      (planned env session links change) := by
  refine Link.Attempts.quiet_bind (quiet_rtnlLinkGetByName _) ensures_rtnlLinkGetByName
    fun link => Link.attempts_of_fact fun hlink => ?_
  cases link with
  | none =>
      refine Link.attempts_pure ?_
      simp [planned, hleaf, hop, hlink]
  | some link =>
      refine attempts_checked (fun _ _ hs => hs) ?_
      rw [enabledRequest_eq]
      refine (sends_send env _).attempts ?_
      simp [planned, hleaf, hop, hlink]

theorem attempts_changeEnabled (hleaf : change.leaf = .enabled) :
    (kernel env).Attempts (SeesLinks links) (interfacesInterfaceChangeEnabled env change).require
      (planned env session links change) := by
  refine attempts_exitCode ?_
  refine Link.Attempts.quiet_bind quiet_interfacecsInterfaceExtractName
    (ensures_interfacecsInterfaceExtractName fun _ _ hs => hs) fun name =>
      Link.attempts_of_fact fun hname => ?_
  subst hname
  cases hop : change.operation with
  | created => exact attempts_changeLinkEnabled hleaf (.inl hop)
  | modified => exact attempts_changeLinkEnabled hleaf (.inr hop)
  | deleted => exact attempts_resetLinkEnabled hleaf hop
  | moved =>
      refine Link.attempts_pure ?_
      simp [planned, hleaf, hop]

/-- The code casts the number to sixteen bits. -/
theorem mtuRequest_eq {link : RtnlLink} (hname : link.name = change.ifName) :
    mtuRequest link change = .linkChange link.ifindex
      { name := change.ifName, type := link.type, mtu := changedMtu change } 0 := by
  have hmtu : (uint16Of change.nodeValue).toNat = (atoi change.nodeValue % 65536).toNat := by
    have hsmall : (atoi change.nodeValue % 65536).toNat < 65536 := by omega
    exact (UInt16.toNat_ofNat' ..).trans (Nat.mod_eq_of_lt hsmall)
  cases hop : change.operation <;> simp [mtuRequest, changedMtu, hop, hname, hmtu]

theorem attempts_ipv4ChangeMtu (hleaf : change.leaf = .ipv4Mtu) :
    (kernel env).Attempts (SeesLinks links) (interfacesInterfaceIpv4ChangeMtu env change).require
      (planned env session links change) := by
  refine attempts_exitCode (attempts_preamble (fun _ _ hs => hs) (fun _ hs => hs)
    fun link hlink => ?_)
  refine attempts_checked (fun _ _ hs => hs) ?_
  rw [mtuRequest_eq (Keyed.key_of_lookup hlink)]
  refine (sends_send env _).attempts ?_
  simp [planned, hleaf, hlink]

/-- The handler of the IPv4 flag asks for nothing. -/
theorem attempts_ipv4ChangeEnabled (hleaf : change.leaf = .ipv4Enabled) :
    (kernel env).Attempts (SeesLinks links)
      (interfacesInterfaceIpv4ChangeEnabled env change).require
      (planned env session links change) := by
  have hquiet : (kernel env).Quiet (interfacesInterfaceIpv4ChangeEnabled env change) := by
    refine Prog.within_status _ ?_
    refine Prog.within_bind quiet_extractInterfaceName fun name => ?_
    refine Prog.within_bind (quiet_currentLink name) fun _ => ?_
    refine Prog.within_bind quiet_firstAddr fun _ => ?_
    refine Prog.within_bind (quiet_checked env _) fun _ => ?_
    refine Prog.within_bind (quiet_checked env _) fun _ => ?_
    split
    · split <;> exact Prog.within_pure _
    · split <;> exact Prog.within_pure _
    · exact Prog.within_pure _
    · exact Prog.within_pure _
  refine Link.Quiet.attempts (Prog.within_require hquiet) fun _ _ _ _ _ => ?_
  simp [planned, hleaf]

theorem attempts_replaceAddress {family : Nat} {link : RtnlLink} {address oldAddress : String}
    (hplan : plan = replacing env family link oldAddress address) :
    (kernel env).Attempts (SeesLinks links) (replaceAddress env family link address oldAddress)
      plan := by
  refine attempts_nlAddrParse fun new hnew => attempts_nlAddrParse fun old hold => ?_
  refine attempts_checked (fun _ _ hs => hs) (attempts_checked (fun _ _ hs => hs) ?_)
  refine (sends_send env _).attempts_two (sends_send env _) ?_
  simp [hplan, replacing, hnew, hold]

theorem attempts_addressChangePrefixLength (hleaf : change.leaf = .addressPrefixLength family) :
    (kernel env).Attempts (SeesLinks links) (addressChangePrefixLength family env change).require
      (planned env session links change) := by
  refine attempts_exitCode (attempts_preamble_ip fun link hlink => ?_)
  cases hop : change.operation with
  | modified =>
      refine attempts_replaceAddress ?_
      simp [planned, hleaf, hop, hlink, addressText]
  | created =>
      refine Link.attempts_pure ?_
      simp [planned, hleaf, hop]
  | deleted =>
      refine Link.attempts_pure ?_
      simp [planned, hleaf, hop]
  | moved =>
      refine Link.attempts_pure ?_
      simp [planned, hleaf, hop]

theorem attempts_ipv4AddressChangeNetmask (hleaf : change.leaf = .ipv4AddressNetmask) :
    (kernel env).Attempts (SeesLinks links)
      (interfacesInterfaceIpv4AddressChangeNetmask env change).require
      (planned env session links change) := by
  refine attempts_exitCode (attempts_preamble_ip fun link hlink => ?_)
  cases hop : change.operation with
  | modified =>
      refine attempts_netmaskLength fun new hnew => attempts_netmaskLength fun old hold => ?_
      refine attempts_replaceAddress ?_
      simp [planned, hleaf, hop, hlink, hnew, hold, addressText]
  | created =>
      refine Link.attempts_pure ?_
      simp [planned, hleaf, hop]
  | deleted =>
      refine Link.attempts_pure ?_
      simp [planned, hleaf, hop]
  | moved =>
      refine Link.attempts_pure ?_
      simp [planned, hleaf, hop]

/-! ## the handlers of an ip -/

theorem seesOnlyLinks_calls : ∀ s n, SeesOnlyLinks links s →
    SeesOnlyLinks links { s with calls := n } := fun _ _ hs => hs

theorem attempts_cleared {p : InterfacesM Unit} (f : FamilyData → FamilyData)
    (h : (kernel env).Attempts I p plan) :
    (kernel env).Attempts I
      (Prog.exitCode (-1) (Prog.out (fun s => s.updateModData family f) p)).require plan :=
  attempts_exitCode (h.out fun s => unchanged_updateModData env s family f)

/-- The last prefix length found is in `mod_data`, or else the 0 it began with. -/
theorem ensures_createdIpv6PrefixLength_getD {ip : String} :
    Prog.Ensures NoLookup (createdIpv6PrefixLength env session name ip) fun length _ =>
      session.createdPrefixLength env.littleEndian .ipv6 name ip = some length := by
  have hround : ∀ (change : Change) (v : UInt8),
      Prog.Ensures (Reads (fun data => (data.get .ipv6).prefixLength) v)
        (addressGetPrefixLength .ipv6 change).require
        fun _ => Reads (fun data => (data.get .ipv6).prefixLength) (uint8Of change.nodeValue) := by
    intro change v s _ s' _ hrun
    rw [Prog.require_eq_ok, addressGetPrefixLength] at hrun
    cases hop : change.operation <;> rw [hop] at hrun <;> cases hrun
    rfl
  have hstart : ∀ s, NoLookup s → Reads (fun data => (data.get .ipv6).prefixLength) 0 s := by
    intro s hs
    rw [Reads, show s.modCtx.modData = {} from hs]
    rfl
  unfold createdIpv6PrefixLength
  refine ((ensures_nestedIterateChanges hround _ 0).weaken hstart fun _ _ => id).bind fun _ => ?_
  refine ensures_modDataOf.bind fun data => Prog.ensures_pure fun s hs => ?_
  obtain ⟨rfl, hreads⟩ := hs
  rw [show (s.modCtx.modData.get .ipv6).prefixLength = _ from hreads,
    Session.createdPrefixLength, Session.changedPrefixLength]
  cases (session.changesAt (.addressPrefixLength .ipv6) name ip).getLast? <;> rfl

theorem attempts_addressChangeIp
    {created running : InterfacesEnv → Session → String → String → InterfacesM UInt8}
    (hleaf : change.leaf = .addressIp family)
    (hquiet : ∀ name ip, (kernel env).Quiet (created env session name ip))
    (hcreated : ∀ name ip, Prog.Ensures NoLookup (created env session name ip) fun length _ =>
      session.createdPrefixLength env.littleEndian family name ip = some length)
    (hquiet' : ∀ name ip, (kernel env).Quiet (running env session name ip))
    (hrunning : ∀ name ip, Prog.Ensures NoLookup (running env session name ip) fun length _ =>
      session.running.addressLength env.littleEndian family name ip = some length) :
    (kernel env).Attempts (SeesOnlyLinks links)
      (addressChangeIp family created running env session change).require
      (planned env session links change) := by
  refine attempts_cleared _ (attempts_preamble seesOnlyLinks_calls (fun _ hs => hs.1)
    fun link hlink => ?_)
  refine attempts_checked seesOnlyLinks_calls (attempts_checked seesOnlyLinks_calls ?_)
  cases hop : change.operation with
  | created =>
      refine attempts_nlAddrParse fun addr haddr => ?_
      refine Link.Attempts.quiet_bind (hquiet _ _)
        ((hcreated _ _).weaken (fun _ hs => hs.2) fun _ _ => id) fun length =>
          Link.attempts_of_fact_only fun hlength => ?_
      refine attempts_checked (fun _ _ hs => hs) ((sends_send env _).attempts ?_)
      simp [planned, hleaf, hop, hlink, haddr, hlength]
  | modified => exact Link.attempts_fail
  | deleted =>
      refine Link.Attempts.quiet_bind (hquiet' _ _)
        ((hrunning _ _).weaken (fun _ hs => hs.2) fun _ _ => id) fun length =>
          Link.attempts_of_fact_only fun hlength => ?_
      refine attempts_nlAddrParse fun addr haddr => ?_
      rw [addressText] at haddr
      refine attempts_checked (fun _ _ hs => hs) ((sends_send env _).attempts ?_)
      simp only [planned, hleaf, hop, hlink, hlength, haddr, Option.bind_eq_bind, Option.bind_some]
  | moved =>
      refine Link.attempts_pure ?_
      simp [planned, hleaf, hop]

theorem attempts_neighborChangeLinkLayerAddress
    (hleaf : change.leaf = .neighborLinkLayerAddress family) :
    (kernel env).Attempts (SeesLinks links)
      (neighborChangeLinkLayerAddress family env change).require
      (planned env session links change) := by
  refine attempts_exitCode (attempts_preamble_ip fun link hlink => ?_)
  cases hop : change.operation with
  | modified =>
      refine attempts_nlAddrParse fun dst hdst => attempts_nlAddrParse fun lladdr hlladdr => ?_
      refine attempts_checked (fun _ _ hs => hs) ((sends_send env _).attempts ?_)
      simp [planned, hleaf, hop, hlink, hdst, hlladdr, NLM_F_REPLACE]
  | created =>
      refine Link.attempts_pure ?_
      simp [planned, hleaf, hop]
  | deleted =>
      refine Link.attempts_pure ?_
      simp [planned, hleaf, hop]
  | moved =>
      refine Link.attempts_pure ?_
      simp [planned, hleaf, hop]

theorem attempts_neighborChangeIp (hleaf : change.leaf = .neighborIp family) :
    (kernel env).Attempts (SeesOnlyLinks links)
      (neighborChangeIp family env session change).require (planned env session links change) := by
  refine attempts_cleared _ (attempts_preamble seesOnlyLinks_calls (fun _ hs => hs.1)
    fun link hlink => ?_)
  cases hop : change.operation with
  | created =>
      refine attempts_nlAddrParse fun dst hdst => ?_
      refine Link.Attempts.quiet_bind (quiet_nestedIterateChanges fun _ =>
        quiet_neighborGetLinkLayerAddress) (ensures_linkLayerAddressLookup.weaken
          (fun _ hs => hs.2) fun _ _ => id) fun _ => ?_
      refine Link.Attempts.quiet_bind quiet_foundLinkLayerAddress ensures_foundLinkLayerAddress
        fun lladdr => Link.attempts_of_fact_only fun hfound => ?_
      obtain ⟨text, htext, hlladdr⟩ := hfound
      refine attempts_checked (fun _ _ hs => hs) ((sends_send env _).attempts ?_)
      simp [planned, hleaf, hop, hlink, hdst, htext, hlladdr, NLM_F_CREATE]
  | modified => exact Link.attempts_fail
  | deleted =>
      refine attempts_nlAddrParse fun dst hdst => ?_
      refine attempts_checked seesOnlyLinks_calls ((sends_send env _).attempts ?_)
      simp [planned, hleaf, hop, hlink, hdst]
  | moved =>
      refine Link.attempts_pure ?_
      simp [planned, hleaf, hop]

/-- What a phase promises a handler: the links, and for the handler of an ip
that no lookup has left anything. -/
def Ready (links : LinkTable) (leaf : Leaf) (s : InterfacesState) : Prop :=
  SeesLinks links s ∧ (leaf.isIp = true → NoLookup s)

/-- Every handler carries out the plan of its change, or stops. -/
theorem attempts_changeHandler (hleaf : change.leaf = leaf) :
    (kernel env).Attempts (Ready links leaf) (changeHandler env session change leaf).require
      (planned env session links change) := by
  have hlinks : ∀ s, Ready links leaf s → SeesLinks links s := fun _ hs => hs.1
  have hip (h : leaf.isIp = true) : ∀ s, Ready links leaf s → SeesOnlyLinks links s :=
    fun _ hs => ⟨hs.1, hs.2 h⟩
  have hnothing : planned env session links change = some [] →
      (kernel env).Attempts (Ready links leaf) (pure 0 : InterfacesM Int).require
        (planned env session links change) :=
    fun h => Link.Quiet.attempts (Prog.within_require (Prog.within_pure _)) fun _ _ _ _ _ => h
  cases leaf with
  | name => exact (attempts_changeName hleaf).of_pre hlinks
  | description => exact hnothing (by simp [planned, hleaf])
  | type => exact (attempts_changeType hleaf).of_pre hlinks
  | enabled => exact (attempts_changeEnabled hleaf).of_pre hlinks
  | linkUpDownTrapEnable => exact hnothing (by simp [planned, hleaf])
  | ipv4Mtu => exact (attempts_ipv4ChangeMtu hleaf).of_pre hlinks
  | ipv4Enabled => exact (attempts_ipv4ChangeEnabled hleaf).of_pre hlinks
  | ipv4AddressNetmask => exact (attempts_ipv4AddressChangeNetmask hleaf).of_pre hlinks
  | addressIp family =>
      cases family with
      | ipv4 =>
          exact (attempts_addressChangeIp hleaf (fun _ _ => quiet_createdIpv4PrefixLength)
            (fun _ _ => ensures_createdIpv4PrefixLength)
            (fun _ _ => quiet_runningIpv4PrefixLength)
            fun _ _ => ensures_runningIpv4PrefixLength).of_pre (hip rfl)
      | ipv6 =>
          exact (attempts_addressChangeIp hleaf (fun _ _ => quiet_createdIpv6PrefixLength)
            (fun _ _ => ensures_createdIpv6PrefixLength_getD)
            (fun _ _ => quiet_runningIpv6PrefixLength)
            fun _ _ => ensures_runningIpv6PrefixLength).of_pre (hip rfl)
  | addressPrefixLength family =>
      cases family <;> exact (attempts_addressChangePrefixLength hleaf).of_pre hlinks
  | neighborIp family => cases family <;> exact (attempts_neighborChangeIp hleaf).of_pre (hip rfl)
  | neighborLinkLayerAddress family =>
      cases family <;> exact (attempts_neighborChangeLinkLayerAddress hleaf).of_pre hlinks
  | other path => exact hnothing (by simp [planned, hleaf])

end Handlers

/-! ## the phases -/

/-- The requests of some changes of one phase, each as planned, and the kernel
after them. -/
def plannedChanges (env : InterfacesEnv) (session : Session) (links : LinkTable) :
    List Change → Kernel → Option (List Request × Kernel) :=
  Link.planRounds env.carryOut fun _ => planned env session links

/-- The requests of a phase that begins with a kernel. -/
def plannedPhase (env : InterfacesEnv) (session : Session) (k : Kernel) (leaf : Leaf) :
    Option (List Request) :=
  (plannedChanges env session k.links (session.changesOf leaf) k).map Prod.fst

/-- The requests of some phases, and the kernel after them. -/
def plannedPhases (env : InterfacesEnv) (session : Session) :
    List Leaf → Kernel → Option (List Request × Kernel) :=
  Link.planRounds env.carryOut (plannedPhase env session)

/-- The phases before that of a leaf. -/
def phasesBefore (leaf : Leaf) : List Leaf := phases.takeWhile fun other => other ≠ leaf

/-- In an event that began with the kernel `k` the phase of a leaf begins with
`k'`: the phases before it asked for `asked`, and all of it was accepted. -/
def PhaseBegins (env : InterfacesEnv) (session : Session) (k : Kernel) (leaf : Leaf)
    (asked : List Request) (k' : Kernel) : Prop :=
  leaf ∈ phases ∧ plannedPhases env session (phasesBefore leaf) k = some (asked, k')

theorem phasesBefore_eq {before after : List Leaf} {leaf : Leaf}
    (h : phases = before ++ leaf :: after) : phasesBefore leaf = before := by
  have hnodup : (before ++ leaf :: after).Nodup := h ▸ by decide
  have hnew : ∀ other ∈ before, other ≠ leaf := by
    intro other hother
    exact (List.nodup_append.mp hnodup).2.2 other hother leaf List.mem_cons_self
  rw [phasesBefore, h, List.takeWhile_append_of_pos (by simpa using hnew)]
  simp

theorem phases_eq_append {leaf : Leaf} (h : leaf ∈ phases) :
    ∃ after, phases = phasesBefore leaf ++ leaf :: after := by
  obtain ⟨before, after, hphases⟩ := List.append_of_mem h
  exact ⟨after, by rw [phasesBefore_eq hphases, ← hphases]⟩

/-- A phase that was left: before one of its changes, at that change, or before
it came to any. -/
def phaseLeft (env : InterfacesEnv) (session : Session) (k : Kernel) (leaf : Leaf) :
    Language (Request × Int) :=
  { w | w = [] ∨ w ∈ Link.leftIn env.carryOut (fun _ => planned env session k.links)
    (fun _ change => Link.stops (planned env session k.links change)) (session.changesOf leaf) k }

section Phases

variable {env : InterfacesEnv} {session : Session} {links : LinkTable} {leaf : Leaf}
  {change : Change} {k : Kernel}

theorem preserves_changeHandler : Prog.Preserves (Ready links leaf)
    (changeHandler env session change leaf).require := by
  have hcontext := @keepsContext_changeHandler env session change leaf
  intro s hs hcrash
  have hcaches : Prog.Within SameCaches (changeHandler env session change leaf).require :=
    Prog.within_require hcontext.caches
  exact ⟨(hcaches s).1.trans hs.1, fun h => hcontext.preserves.require s (hs.2 h) hcrash⟩

/-- A phase carries out the plans of its changes, or is left. -/
theorem traces_phase (k : Kernel) (leaf : Leaf) :
    (kernel env).Traces (fun s => (leaf.isIp = true → NoLookup s) ∧ s.kernel = k)
      (phase env session leaf).require (Link.carriesOut (plannedPhase env session k leaf))
      (phaseLeft env session k leaf) fun _ => NoLookup := by
  have hround : ∀ change ∈ session.changesOf leaf, ∀ k', (kernel env).Traces
      (fun s => Ready k.links leaf s ∧ (kernel env).server s = k')
      (changeHandler env session change leaf).require
      (Link.carriesOut (planned env session k.links change))
      (Link.stops (planned env session k.links change)) fun _ => Ready k.links leaf := by
    intro change hchange k'
    have hleaf : change.leaf = leaf := by simpa using (List.mem_filter.mp hchange).2
    exact (attempts_changeHandler hleaf).round preserves_changeHandler k'
  have hloop := Link.traces_planRounds hround k
  have hfull : Link.carriesOutRounds (kernel env).apply (fun _ => planned env session k.links)
      (session.changesOf leaf) k ≤ Link.carriesOut (plannedPhase env session k leaf) := by
    rintro w ⟨asked, k', hplan, rfl⟩
    exact ⟨asked, by rw [plannedPhase, plannedChanges]; exact congrArg (Option.map Prod.fst) hplan,
      rfl⟩
  have hbody := hloop.weaken hfull (fun w hw => show w ∈ phaseLeft env session k leaf from .inr hw)
    fun _ _ hs => hs
  have hinit : Prog.Ensures (fun s => (leaf.isIp = true → NoLookup s) ∧ s.kernel = k)
      (interfacesChangeInterfaceInit env).require
      fun _ s => Ready k.links leaf s ∧ (kernel env).server s = k := by
    refine ensures_interfacesChangeInterfaceInit fun s n hs => ?_
    obtain ⟨hnone, rfl⟩ := hs
    exact ⟨⟨rfl, hnone⟩, rfl⟩
  have hiter : Prog.Ensures (fun s => Ready k.links leaf s ∧ (kernel env).server s = k)
      (checked env .srGetChangesIter)
      fun _ s => Ready k.links leaf s ∧ (kernel env).server s = k :=
    ensures_checked (fun _ _ hs => hs) _
  have hiterate := Link.Traces.quiet_bind (quiet_checked env _) hiter (fun _ => hbody) (.inl rfl)
  have hphase := Link.Traces.quiet_bind
    (Prog.within_require (quiet_interfacesChangeInterfaceInit env)) hinit (fun _ => hiterate)
    (.inl rfl)
  rw [phase, srpcIterateChanges, Prog.require_exitCode (by decide)]
  exact hphase.out (fun s => unchanged_setModCtx env s {}) fun _ _ _ => rfl

/-- Phases carry out their plans, or are left in one.  Between them nothing is
left of a lookup, and the first one makes none. -/
theorem traces_phases {leaves : List Leaf} (hfirst : ∀ leaf ∈ leaves.head?, leaf.isIp = false)
    (k : Kernel) :
    (kernel env).Traces (fun s => s.kernel = k)
      (forM leaves fun leaf => (phase env session leaf).require)
      (Link.carriesOutRounds env.carryOut (plannedPhase env session) leaves k)
      (Link.leftIn env.carryOut (plannedPhase env session) (phaseLeft env session) leaves k)
      fun _ _ => True := by
  have hlater : ∀ leaf k, (kernel env).Traces
      (fun s => NoLookup s ∧ (kernel env).server s = k) (phase env session leaf).require
      (Link.carriesOut (plannedPhase env session k leaf)) (phaseLeft env session k leaf)
      fun _ => NoLookup :=
    fun leaf k => (traces_phase k leaf).of_pre fun _ hs => ⟨fun _ => hs.1, hs.2⟩
  cases leaves with
  | nil =>
      intro s hs
      exact ⟨[], (kernel env).sent_nil s, .inl ⟨⟨⟩, rfl, ⟨[], k, rfl, rfl⟩, trivial⟩⟩
  | cons leaf leaves =>
      have hhead : (kernel env).Traces (fun s => True ∧ (kernel env).server s = k)
          (phase env session leaf).require (Link.carriesOut (plannedPhase env session k leaf))
          (phaseLeft env session k leaf) fun _ => NoLookup := by
        intro s hs
        refine traces_phase k leaf s ⟨fun hip => ?_, hs.2⟩
        rw [hfirst leaf rfl] at hip
        cases hip
      have hall := Link.traces_planRounds_cons hhead fun k =>
        Link.traces_planRounds (fun leaf (_ : leaf ∈ leaves) k => hlater leaf k) k
      exact (hall.weaken le_rfl le_rfl fun _ _ _ => trivial).of_pre fun s hs => ⟨trivial, hs⟩

end Phases

end SysrepoInterfaces.Interfaces
