import SysrepoInterfaces.Interfaces.Schema
import SysrepoInterfaces.Interfaces.Deletion

/-!
# SysrepoInterfaces.Interfaces.Accepted

When a change is accepted.  With every call successful the handlers of fifteen
leaves return 0 on every change the schema admits; the one of the IPv4 flag
does not on an empty address cache, nor when it is to disable IPv4.
-/

namespace SysrepoInterfaces.Interfaces

open CProg

/-! ## what a handler keeps -/

/-- The handler of the change looks up the link and needs to find it. -/
def Change.looksUp (change : Change) : Prop :=
  match change.leaf with
  | .name => change.operation = .deleted
  | .type | .enabled => change.operation = .created ∨ change.operation = .modified
  | leaf => leaf.needsLink

/-- A predicate that calls, nested lookups and accepted requests keep, whatever
the kernel makes of these. -/
structure Kept (I : InterfacesState → Prop) : Prop where
  calls : Stable I
  modData : ∀ s family f, I s → I (s.updateModData family f)
  accept : ∀ s r k, I s → I { s with sent := s.sent ++ [(r, 0)], kernel := k }

section Handlers

variable {env : InterfacesEnv} {schema : Schema} {session : Session} {change : Change}
  {I : InterfacesState → Prop}

theorem Kept.request (hI : Kept I) (hsucc : env.Succeeds schema) (r : Request) :
    Prog.Ends I (request env r) fun _ => I :=
  ends_request (fun _ _ => hsucc.answers _) fun s hs => hI.accept s r _ hs

/-- The steps the handlers have in common. -/
theorem Kept.preamble (hI : Kept I) (hsucc : env.Succeeds schema)
    (hlink : ∀ s, I s → (cachedLink s change.ifName).isSome) {α : Type}
    {f : String → RtnlLink → InterfacesM α} {post : α → InterfacesState → Prop}
    (hf : ∀ link, Prog.Ends I (f change.ifName link) post) :
    Prog.Ends I (do
      let name ← extractInterfaceName env change
      let link ← currentLink name
      f name link) post := by
  refine (ends_extractInterfaceName hsucc.calls hI.calls).bind fun name => ?_
  intro s ⟨hname, hs⟩
  subst hname
  exact ((ends_currentLink hlink).bind fun link s hs => hf link s hs.2) s hs

/-- The same below a list entry. -/
theorem Kept.preamble_ip (hI : Kept I) (hsucc : env.Succeeds schema)
    (hlink : ∀ s, I s → (cachedLink s change.ifName).isSome) {α : Type}
    {f : String → RtnlLink → InterfacesM α} {post : α → InterfacesState → Prop}
    (hf : ∀ link, Prog.Ends I (f change.ip link) post) :
    Prog.Ends I (do
      let name ← extractInterfaceName env change
      let ip ← extractIp env change
      let link ← currentLink name
      f ip link) post := by
  refine (ends_extractInterfaceName hsucc.calls hI.calls).bind fun name => ?_
  intro s ⟨hname, hs⟩
  subst hname
  refine ((ends_extractIp hsucc.calls hI.calls).bind fun ip => ?_) s hs
  intro s ⟨hip, hs⟩
  subst hip
  exact ((ends_currentLink hlink).bind fun link s hs => hf link s hs.2) s hs

/-- What a handler does on success, after the reset of its data. -/
theorem Kept.cleared (hI : Kept I) {p : InterfacesM Unit} (family : IpFamily)
    (f : FamilyData → FamilyData) (h : Prog.Ends I p fun _ => I) :
    Prog.Ends I (Prog.exitCode (-1) (Prog.out (fun s => s.updateModData family f) p)).require
      fun _ => I :=
  ends_exitCode_require (h.out fun _ s hs => hI.modData s family f hs)

/-! ## type, enabled and mtu -/

theorem ends_changeType (hsucc : env.Succeeds schema) (hI : Kept I)
    (hleaf : change.leaf = .type) (hsupported : Supported change)
    (hlink : change.looksUp → ∀ s, I s → (cachedLink s change.ifName).isSome) :
    Prog.Ends I (interfacesInterfaceChangeType env change).require fun _ => I := by
  have hfound : ((typePairs.find? fun pair => pair.1 = change.nodeValue)).isSome := by
    rw [List.find?_isSome]
    obtain ⟨pair, hpair, hvalue⟩ := List.mem_map.mp (hsupported.2 hleaf)
    exact ⟨pair, hpair, by simp [hvalue]⟩
  obtain ⟨pair, hpair⟩ := Option.isSome_iff_exists.mp hfound
  have hset (hop : change.operation = .created ∨ change.operation = .modified) :
      Prog.Ends I (changeLinkType env change) fun _ => I := by
    have hlooks : change.looksUp := by
      rw [Change.looksUp, hleaf]
      exact hop
    refine (ends_interfacecsInterfaceExtractName hsucc.calls hI.calls).bind fun name => ?_
    intro s ⟨hname, hs⟩
    subst hname
    refine ((ends_currentLink (hlink hlooks)).bind fun link => ?_) s hs
    refine (Prog.Ends.weaken (ends_checked hsucc.calls hI.calls _) (fun _ hs => hs.2)
      fun _ _ hs => hs).bind fun _ => ?_
    rw [hpair]
    exact hI.request hsucc _
  refine ends_exitCode_require ?_
  cases hop : change.operation with
  | created => exact hset (.inl hop)
  | modified => exact hset (.inr hop)
  | deleted => exact Prog.ends_pure fun _ hs => hs
  | moved => exact Prog.ends_pure fun _ hs => hs

theorem ends_changeEnabled (hsucc : env.Succeeds schema) (hI : Kept I)
    (hleaf : change.leaf = .enabled)
    (hlink : change.looksUp → ∀ s, I s → (cachedLink s change.ifName).isSome) :
    Prog.Ends I (interfacesInterfaceChangeEnabled env change).require fun _ => I := by
  have hsend : ∀ link up, Prog.Ends I (request env (enabledRequest link change.ifName up))
      fun _ => I := by
    intro link up
    exact hI.request hsucc _
  have hset (hop : change.operation = .created ∨ change.operation = .modified) :
      Prog.Ends I (changeLinkEnabled env change change.ifName) fun _ => I := by
    have hlooks : change.looksUp := by
      rw [Change.looksUp, hleaf]
      exact hop
    refine (ends_currentLink (hlink hlooks)).bind fun link => ?_
    refine (Prog.Ends.weaken (ends_checked hsucc.calls hI.calls _) (fun _ hs => hs.2)
      fun _ _ hs => hs).bind fun _ => hsend link _
  have hreset : Prog.Ends I (resetLinkEnabled env change.ifName) fun _ => I := by
    intro s hs
    rw [resetLinkEnabled, Prog.run_bind_ok (run_rtnlLinkGetByName ..)]
    cases Keyed.lookup RtnlLink.name change.ifName s.modCtx.linkCache with
    | none => exact ⟨(), s, rfl, hs⟩
    | some link =>
        exact ((ends_checked hsucc.calls hI.calls _).bind fun _ => hsend link true) s hs
  refine ends_exitCode_require ?_
  refine (ends_interfacecsInterfaceExtractName hsucc.calls hI.calls).bind fun name => ?_
  rintro s ⟨rfl, hs⟩
  revert s
  show Prog.Ends I _ _
  cases hop : change.operation with
  | created => exact hset (.inl hop)
  | modified => exact hset (.inr hop)
  | deleted => exact hreset
  | moved => exact Prog.ends_pure fun _ hs => hs

theorem ends_changeMtu (hsucc : env.Succeeds schema) (hI : Kept I)
    (hlink : ∀ s, I s → (cachedLink s change.ifName).isSome) :
    Prog.Ends I (interfacesInterfaceIpv4ChangeMtu env change).require fun _ => I := by
  refine ends_exitCode_require (hI.preamble hsucc hlink fun link => ?_)
  exact (ends_checked hsucc.calls hI.calls _).bind fun _ => hI.request hsucc _

/-! ## prefix lengths and netmasks -/

theorem Kept.replaceAddress (hI : Kept I) (hsucc : env.Succeeds schema)
    {family : Nat} {link : RtnlLink} {address oldAddress : String}
    (hnew : (env.nlAddrParse family address).isSome)
    (hold : (env.nlAddrParse family oldAddress).isSome) :
    Prog.Ends I (replaceAddress env family link address oldAddress) fun _ => I :=
  (ends_nlAddrParse hnew).bind fun _ => (ends_nlAddrParse hold).bind fun _ =>
    (ends_checked hsucc.calls hI.calls _).bind fun _ =>
      (ends_checked hsucc.calls hI.calls _).bind fun _ =>
        (hI.request hsucc _).bind fun _ => hI.request hsucc _

theorem ends_changePrefixLength {family : IpFamily} (hsucc : env.Succeeds schema)
    (hI : Kept I)
    (hleaf : change.leaf = .addressPrefixLength family)
    (hvalid : schema.ValidChange session change)
    (hlink : ∀ s, I s → (cachedLink s change.ifName).isSome) :
    Prog.Ends I (addressChangePrefixLength family env change).require fun _ => I := by
  refine ends_exitCode_require (hI.preamble_ip hsucc hlink fun link => ?_)
  cases hop : change.operation with
  | modified =>
      have hip : schema.ipAddress family change.ip := hvalid.ip family (by rw [hleaf]; rfl)
      have hnew : PrefixLengthText family change.nodeValue := by
        have := hvalid.value
        rwa [hleaf] at this
      have hold : PrefixLengthText family change.previousValue := by
        have := hvalid.previous hop
        rwa [hleaf] at this
      exact hI.replaceAddress hsucc (hsucc.address_text hip hnew)
        (hsucc.address_text hip hold)
  | created => exact Prog.ends_pure fun _ hs => hs
  | deleted => exact Prog.ends_pure fun _ hs => hs
  | moved => exact Prog.ends_pure fun _ hs => hs

theorem ends_changeNetmask (hsucc : env.Succeeds schema)
    (hI : Kept I) (hleaf : change.leaf = .ipv4AddressNetmask)
    (hvalid : schema.ValidChange session change)
    (hlink : ∀ s, I s → (cachedLink s change.ifName).isSome) :
    Prog.Ends I (interfacesInterfaceIpv4AddressChangeNetmask env change).require fun _ => I := by
  refine ends_exitCode_require (hI.preamble_ip hsucc hlink fun link => ?_)
  cases hop : change.operation with
  | modified =>
      have hip : schema.ipAddress .ipv4 change.ip := hvalid.ip .ipv4 (by rw [hleaf]; rfl)
      have hnew : NetmaskText change.nodeValue := by
        have := hvalid.value
        rwa [hleaf] at this
      have hold : NetmaskText change.previousValue := by
        have := hvalid.previous hop
        rwa [hleaf] at this
      refine (ends_netmaskLength hnew).bind fun length => ?_
      intro s ⟨hlength, hs⟩
      refine ((ends_netmaskLength hold).bind fun oldLength => ?_) s hs
      intro s ⟨holdLength, hs⟩
      exact hI.replaceAddress hsucc
        (hsucc.address .ipv4 _ _ hip hlength) (hsucc.address .ipv4 _ _ hip holdLength) s hs
  | created => exact Prog.ends_pure fun _ hs => hs
  | deleted => exact Prog.ends_pure fun _ hs => hs
  | moved => exact Prog.ends_pure fun _ hs => hs

/-! ## addresses -/

/-- A nested iteration whose callbacks succeed. -/
theorem Kept.nested (hI : Kept I) (hsucc : env.Succeeds schema) {changes : List Change}
    {handler : Change → InterfacesM Int} {J : InterfacesState → Prop}
    (hloop : Prog.Ends I (forM changes fun c => (handler c).require) fun _ => J) :
    Prog.Ends I (nestedIterateChanges env changes handler) fun _ => J := by
  have hinit : Prog.Ends I (pure 0 : InterfacesM Int).require fun _ => I :=
    fun s hs => ⟨(), s, rfl, hs⟩
  refine ends_exitCode_require (Prog.Ends.out ?_ fun _ _ hs => hs)
  exact hinit.bind fun _ => (ends_checked hsucc.calls hI.calls _).bind fun _ => hloop

/-- A prefix length has been found. -/
def PrefixFound (family : IpFamily) (I : InterfacesState → Prop) (s : InterfacesState) : Prop :=
  I s ∧ (s.modCtx.modData.get family).prefixSet = true

theorem get_updateModData (s : InterfacesState) (family : IpFamily) (f : FamilyData → FamilyData) :
    (s.updateModData family f).modCtx.modData.get family = f (s.modCtx.modData.get family) := by
  cases family <;> rfl

theorem Kept.getPrefixLength (hI : Kept I) {family : IpFamily} {c : Change}
    (hop : c.operation = .created) :
    Prog.Ends I (addressGetPrefixLength family c).require fun _ => PrefixFound family I := by
  rw [addressGetPrefixLength, hop]
  intro s hs
  refine ⟨(), _, rfl, hI.modData s family _ hs, ?_⟩
  rw [get_updateModData]

theorem Kept.getNetmask (hI : Kept I) {c : Change} (hop : c.operation = .created)
    (htext : NetmaskText c.nodeValue) :
    Prog.Ends I (interfacesInterfaceIpv4AddressGetNetmask env c).require
      fun _ => PrefixFound .ipv4 I := by
  obtain ⟨octets, hocts⟩ := htext
  obtain ⟨length, hlength, -⟩ := netmask2prefix_dottedQuad env.littleEndian octets
  rw [interfacesInterfaceIpv4AddressGetNetmask, hop, hocts, hlength]
  intro s hs
  exact ⟨(), _, rfl, hI.modData s .ipv4 _ hs, rfl⟩

theorem ends_modDataOf {family : IpFamily} :
    Prog.Ends I (modDataOf family) fun data s => data = s.modCtx.modData.get family ∧ I s :=
  fun s hs => ⟨_, s, rfl, rfl, hs⟩

/-- The netmask is not looked for once a prefix length has been found. -/
theorem ends_netmaskLookup_found (ip : String) :
    Prog.Ends (PrefixFound .ipv4 I) (ipv4NetmaskLookup env session change.ifName ip)
      fun _ => I := by
  refine ends_modDataOf.bind fun data => ?_
  intro s ⟨hdata, hs, hfound⟩
  rw [if_pos (show data.prefixSet = true by rw [hdata, hfound])]
  exact ⟨(), s, rfl, hs⟩

theorem Kept.netmaskLookup (hI : Kept I) (hsucc : env.Succeeds schema) {ip : String}
    (hne : session.changesAt .ipv4AddressNetmask change.ifName ip ≠ [])
    (hnetmask : ∀ c ∈ session.changesAt .ipv4AddressNetmask change.ifName ip,
      Prog.Ends I (interfacesInterfaceIpv4AddressGetNetmask env c).require
        fun _ => PrefixFound .ipv4 I) :
    Prog.Ends I (ipv4NetmaskLookup env session change.ifName ip) fun _ => I := by
  refine ends_modDataOf.bind fun data => ?_
  intro s ⟨_, hs⟩
  by_cases hset : data.prefixSet = true
  · rw [if_pos hset]
    exact ⟨(), s, rfl, hs⟩
  · rw [if_neg hset]
    have hloop := Prog.ends_forM_of_ne_nil hne hnetmask fun _ hs => hs.1
    refine ((hI.nested hsucc hloop).bind fun _ => ends_modDataOf.bind fun data => ?_) s hs
    intro s ⟨hdata, hs, hfound⟩
    rw [if_pos (show data.prefixSet = true by rw [hdata, hfound])]
    exact ⟨(), s, rfl, hs⟩

/-- A created entry has the leaf that holds its prefix length. -/
theorem Kept.createdIpv4PrefixLength (hI : Kept I) (hsucc : env.Succeeds schema)
    (hleaf : change.leaf = .addressIp .ipv4) (hop : change.operation = .created)
    (hvalid : schema.ValidChange session change) :
    Prog.Ends I (createdIpv4PrefixLength env session change.ifName change.nodeValue)
      fun _ => I := by
  have hcreated := hvalid.created hop
  have hmandatory := hvalid.mandatory hop
  rw [hleaf] at hcreated hmandatory
  have hround : ∀ c ∈ session.changesAt (.addressPrefixLength .ipv4) change.ifName
      change.nodeValue, Prog.Ends I (addressGetPrefixLength .ipv4 c).require
        fun _ => PrefixFound .ipv4 I :=
    fun c hc => hI.getPrefixLength (hcreated _ (by decide) c hc).1
  have hnetmask : ∀ c ∈ session.changesAt .ipv4AddressNetmask change.ifName change.nodeValue,
      Prog.Ends I (interfacesInterfaceIpv4AddressGetNetmask env c).require
        fun _ => PrefixFound .ipv4 I := by
    intro c hc
    obtain ⟨hopc, htext⟩ := hcreated _ (by decide) c hc
    exact hI.getNetmask hopc htext
  have hend : Prog.Ends I (do return (← modDataOf .ipv4).prefixLength) fun _ => I :=
    ends_modDataOf.bind fun _ => Prog.ends_pure fun _ hs => hs.2
  by_cases hne : session.changesAt (.addressPrefixLength .ipv4) change.ifName
      change.nodeValue = []
  · have hsubnet : session.changesAt .ipv4AddressNetmask change.ifName change.nodeValue ≠ [] := by
      obtain ⟨leaf, hmem, hsome⟩ := hmandatory (by decide)
      simp only [Leaf.entryLeaves, List.mem_cons, List.not_mem_nil, or_false] at hmem
      rcases hmem with rfl | rfl
      · exact absurd hne hsome
      · exact hsome
    have hloop := Prog.ends_forM fun c hc => (hround c hc).weaken (fun _ hs => hs)
        fun _ _ hs => hs.1
    refine (hI.nested hsucc hloop).bind fun _ => ?_
    exact (hI.netmaskLookup hsucc hsubnet hnetmask).bind fun _ => hend
  · have hloop := Prog.ends_forM_of_ne_nil hne hround fun _ hs => hs.1
    exact (hI.nested hsucc hloop).bind fun _ => (ends_netmaskLookup_found _).bind fun _ => hend

theorem Kept.createdIpv6PrefixLength (hI : Kept I) (hsucc : env.Succeeds schema)
    (hleaf : change.leaf = .addressIp .ipv6) (hop : change.operation = .created)
    (hvalid : schema.ValidChange session change) :
    Prog.Ends I (createdIpv6PrefixLength env session change.ifName change.nodeValue)
      fun _ => I := by
  have hcreated := hvalid.created hop
  rw [hleaf] at hcreated
  have hround : ∀ c ∈ session.changesAt (.addressPrefixLength .ipv6) change.ifName
      change.nodeValue, Prog.Ends I (addressGetPrefixLength .ipv6 c).require fun _ => I := by
    intro c hc
    exact (hI.getPrefixLength (hcreated _ (by decide) c hc).1).weaken (fun _ hs => hs)
      fun _ _ hs => hs.1
  exact (hI.nested hsucc (Prog.ends_forM hround)).bind fun _ =>
    ends_modDataOf.bind fun _ => Prog.ends_pure fun _ hs => hs.2

/-- The running datastore has the prefix length of a deleted address. -/
theorem Kept.runningIpv4PrefixLength (hI : Kept I) (hsucc : env.Succeeds schema)
    (hrunning : Schema.ValidRunning session.running) {name ip : String}
    (hsubnet : session.running.HasSubnet .ipv4 name ip) :
    Prog.Ends I (runningIpv4PrefixLength env session name ip) fun length s =>
      length.toNat ≤ IpFamily.ipv4.width ∧ I s := by
  refine (ends_checked hsucc.calls hI.calls _).bind fun _ => ?_
  cases hlength : session.running.prefixLength .ipv4 name ip with
  | some length =>
      exact Prog.ends_pure fun _ hs => ⟨hrunning.prefixLength _ _ _ _ hlength, hs⟩
  | none =>
      refine (ends_checked hsucc.calls hI.calls _).bind fun _ => ?_
      cases htext : session.running.netmask name ip with
      | some text => exact ends_netmaskLength (hrunning.netmask _ _ _ htext)
      | none =>
          rw [Running.HasSubnet, hlength, htext] at hsubnet
          simp at hsubnet

theorem Kept.runningIpv6PrefixLength (hI : Kept I) (hsucc : env.Succeeds schema)
    (hrunning : Schema.ValidRunning session.running) {name ip : String}
    (hsubnet : session.running.HasSubnet .ipv6 name ip) :
    Prog.Ends I (runningIpv6PrefixLength env session name ip) fun length s =>
      length.toNat ≤ IpFamily.ipv6.width ∧ I s := by
  refine (ends_checked hsucc.calls hI.calls _).bind fun _ => ?_
  cases hlength : session.running.prefixLength .ipv6 name ip with
  | some length =>
      exact Prog.ends_pure fun _ hs => ⟨hrunning.prefixLength _ _ _ _ hlength, hs⟩
  | none =>
      rw [Running.HasSubnet, hlength] at hsubnet
      cases hsubnet

theorem ends_changeAddressIp {family : IpFamily}
    {created running : InterfacesEnv → Session → String → String → InterfacesM UInt8}
    (hsucc : env.Succeeds schema) (hI : Kept I)
    (hleaf : change.leaf = .addressIp family) (hsupported : Supported change)
    (hvalid : schema.ValidChange session change)
    (hlink : ∀ s, I s → (cachedLink s change.ifName).isSome)
    (hcreated : change.operation = .created →
      Prog.Ends I (created env session change.ifName change.nodeValue) fun _ => I)
    (hrunning : change.operation = .deleted →
      Prog.Ends I (running env session change.ifName change.nodeValue) fun length s =>
        length.toNat ≤ family.width ∧ I s) :
    Prog.Ends I (addressChangeIp family created running env session change).require
      fun _ => I := by
  have hip : schema.ipAddress family change.nodeValue := by
    have := hvalid.value
    rwa [hleaf] at this
  have hcall : ∀ call, Prog.Ends I (checked env call) fun _ => I :=
    fun call => ends_checked hsucc.calls hI.calls call
  refine hI.cleared family _ (hI.preamble hsucc hlink fun link => ?_)
  refine (hcall _).bind fun _ => (hcall _).bind fun _ => ?_
  cases hop : change.operation with
  | created =>
      refine (ends_nlAddrParse (hsucc.ip family _ hip)).bind fun _ => ?_
      exact (hcreated hop).bind fun _ => (hcall _).bind fun _ => hI.request hsucc _
  | modified => exact absurd hleaf ((hsupported.1 hop).2 family).1
  | deleted =>
      refine (hrunning hop).bind fun length => ?_
      intro s ⟨hlength, hs⟩
      refine ((ends_nlAddrParse (hsucc.address family _ _ hip hlength)).bind fun _ => ?_) s hs
      exact (hcall _).bind fun _ => hI.request hsucc _
  | moved => exact Prog.ends_pure fun _ hs => hs

/-! ## neighbours -/

theorem ends_changeLinkLayerAddress {family : IpFamily} (hsucc : env.Succeeds schema)
    (hI : Kept I)
    (hleaf : change.leaf = .neighborLinkLayerAddress family)
    (hvalid : schema.ValidChange session change)
    (hlink : ∀ s, I s → (cachedLink s change.ifName).isSome) :
    Prog.Ends I (neighborChangeLinkLayerAddress family env change).require fun _ => I := by
  refine ends_exitCode_require (hI.preamble_ip hsucc hlink fun link => ?_)
  cases hop : change.operation with
  | modified =>
      have hip : schema.ipAddress family change.ip := hvalid.ip family (by rw [hleaf]; rfl)
      have hlladdr : schema.physAddress change.nodeValue := by
        have := hvalid.value
        rwa [hleaf] at this
      refine (ends_nlAddrParse (hsucc.ip family _ hip)).bind fun _ => ?_
      refine (ends_nlAddrParse (hsucc.lladdr _ hlladdr)).bind fun _ => ?_
      exact (ends_checked hsucc.calls hI.calls _).bind fun _ => hI.request hsucc _
  | created => exact Prog.ends_pure fun _ hs => hs
  | deleted => exact Prog.ends_pure fun _ hs => hs
  | moved => exact Prog.ends_pure fun _ hs => hs

/-- A link layer address has been found. -/
def LinkLayerAddressFound (schema : Schema) (family : IpFamily) (I : InterfacesState → Prop)
    (s : InterfacesState) : Prop :=
  I s ∧ ∃ text, (s.modCtx.modData.get family).linkLayerAddress = some text ∧
    schema.physAddress text

theorem Kept.getLinkLayerAddress (hI : Kept I) (hsucc : env.Succeeds schema)
    {family : IpFamily} {c : Change} (hop : c.operation = .created)
    (htext : schema.physAddress c.nodeValue) :
    Prog.Ends I (neighborGetLinkLayerAddress family env c).require
      fun _ => LinkLayerAddressFound schema family I := by
  rw [neighborGetLinkLayerAddress, hop]
  refine ends_exitCode_require ((ends_checked hsucc.calls hI.calls _).bind fun _ => ?_)
  intro s hs
  refine ⟨(), _, rfl, hI.modData s family _ hs, c.nodeValue, ?_, htext⟩
  rw [get_updateModData]

theorem ends_foundLinkLayerAddress {family : IpFamily} (hsucc : env.Succeeds schema) :
    Prog.Ends (LinkLayerAddressFound schema family I) (foundLinkLayerAddress family env)
      fun _ => I := by
  refine ends_modDataOf.bind fun data => ?_
  intro s ⟨hdata, hs, text, hfound, htext⟩
  subst hdata
  rw [hfound]
  exact ends_nlAddrParse (hsucc.lladdr text htext) s hs

theorem ends_changeNeighborIp {family : IpFamily} (hsucc : env.Succeeds schema)
    (hI : Kept I) (hleaf : change.leaf = .neighborIp family)
    (hsupported : Supported change) (hvalid : schema.ValidChange session change)
    (hlink : ∀ s, I s → (cachedLink s change.ifName).isSome) :
    Prog.Ends I (neighborChangeIp family env session change).require fun _ => I := by
  have hip : schema.ipAddress family change.nodeValue := by
    have := hvalid.value
    rwa [hleaf] at this
  have hparse : Prog.Ends I (nlAddrParse env family.af change.nodeValue) fun _ => I :=
    ends_nlAddrParse (hsucc.ip family _ hip)
  refine hI.cleared family _ (hI.preamble hsucc hlink fun link => ?_)
  cases hop : change.operation with
  | created =>
      have hcreated := hvalid.created hop
      have hmandatory := hvalid.mandatory hop
      rw [hleaf] at hcreated hmandatory
      have hround : ∀ c ∈ session.changesAt (.neighborLinkLayerAddress family) change.ifName
          change.nodeValue, Prog.Ends I (neighborGetLinkLayerAddress family env c).require
            fun _ => LinkLayerAddressFound schema family I := by
        intro c hc
        obtain ⟨hopc, htext⟩ := hcreated _ List.mem_cons_self c hc
        exact hI.getLinkLayerAddress hsucc hopc htext
      have hne : session.changesAt (.neighborLinkLayerAddress family) change.ifName
          change.nodeValue ≠ [] := by
        obtain ⟨leaf, hmem, hsome⟩ := hmandatory (List.cons_ne_nil _ _)
        obtain rfl := List.mem_singleton.mp hmem
        exact hsome
      have hloop := Prog.ends_forM_of_ne_nil hne hround fun _ hs => hs.1
      refine hparse.bind fun _ => (hI.nested hsucc hloop).bind fun _ => ?_
      refine (ends_foundLinkLayerAddress hsucc).bind fun _ => ?_
      exact (ends_checked hsucc.calls hI.calls _).bind fun _ => hI.request hsucc _
  | modified => exact absurd hleaf ((hsupported.1 hop).2 family).2
  | deleted =>
      refine hparse.bind fun _ => ?_
      exact (ends_checked hsucc.calls hI.calls _).bind fun _ => hI.request hsucc _
  | moved => exact Prog.ends_pure fun _ hs => hs

/-! ## name and ipv4/enabled -/

theorem ends_changeName (hsucc : env.Succeeds schema) (hI : Kept I)
    (hleaf : change.leaf = .name) (hsupported : Supported change)
    (hvalid : schema.ValidChange session change)
    (hlink : change.looksUp → ∀ s, I s → (cachedLink s change.ifName).isSome) :
    Prog.Ends I (interfacesInterfaceChangeName env change).require fun _ => I := by
  have hcall : ∀ call, Prog.Ends I (checked env call) fun _ => I :=
    fun call => ends_checked hsucc.calls hI.calls call
  refine ends_exitCode_require ?_
  cases hop : change.operation with
  | created =>
      intro s hs
      rw [Prog.run_bind_ok (run_rtnlLinkGetByName ..)]
      cases Keyed.lookup RtnlLink.name change.nodeValue s.modCtx.linkCache with
      | none =>
          have hadd : Prog.Ends I (request env (.linkAdd change.nodeValue "dummy")) fun _ => I :=
            hI.request hsucc _
          exact ((hcall _).bind fun _ => (hcall _).bind fun _ => hadd) s hs
      | some link => exact ⟨(), s, rfl, hs⟩
  | modified => exact absurd hleaf (hsupported.1 hop).1
  | deleted =>
      have hlooks : change.looksUp := by
        rw [Change.looksUp, hleaf]
        exact hop
      rw [hvalid.name hleaf]
      refine (ends_currentLink (hlink hlooks)).bind fun link => ?_
      have hdelete : Prog.Ends I (request env (.linkDelete link.ifindex)) fun _ => I :=
        hI.request hsucc _
      exact hdelete.weaken (fun _ hs => hs.2) fun _ _ hs => hs
  | moved => exact Prog.ends_pure fun _ hs => hs

/-- The changes of the IPv4 flag that are refused: all of them while there are
no addresses, and the ones that disable IPv4. -/
def EnabledRefused (noAddrs : Prop) (change : Change) : Prop :=
  change.leaf = .ipv4Enabled ∧ (noAddrs ∨ change.nodeValue = "false" ∧
    (change.operation = .created ∨ change.operation = .modified))

/-- The path put into `error` is not empty. -/
theorem ipv4AddressPath_size (name : String) : ((ipv4AddressPath name).utf8ByteSize : Int) ≠ 0 := by
  unfold ipv4AddressPath
  have hpath : 0 < "/ietf-interfaces:interfaces/interface[name=\"".utf8ByteSize := by decide
  simp only [String.utf8ByteSize_append]
  omega

theorem ends_firstAddr {addrs : List RtnlAddr} (hcache : ∀ s, I s → s.modCtx.addrCache = addrs)
    (hne : addrs ≠ []) : Prog.Ends I firstAddr fun _ => I := by
  intro s hs
  refine ⟨(), s, ?_, hs⟩
  rw [firstAddr, Prog.run_bind_ok (Prog.run_get s), if_neg (by rwa [hcache s hs])]
  rfl

theorem leaves_firstAddr (hcache : ∀ s, I s → s.modCtx.addrCache = []) :
    Prog.Leaves I firstAddr I := by
  intro s hs
  refine ⟨s, ?_, hs⟩
  rw [firstAddr, Prog.run_bind_ok (Prog.run_get s), if_pos (hcache s hs)]
  rfl

theorem ends_changeIpv4Enabled (hsucc : env.Succeeds schema) (hI : Kept I)
    (hlink : ∀ s, I s → (cachedLink s change.ifName).isSome)
    {addrs : List RtnlAddr} (hcache : ∀ s, I s → s.modCtx.addrCache = addrs)
    (hleaf : change.leaf = .ipv4Enabled) (h : ¬ EnabledRefused (addrs = []) change) :
    Prog.Ends I (interfacesInterfaceIpv4ChangeEnabled env change).require fun _ => I := by
  have hcall : ∀ call, Prog.Ends I (checked env call) fun _ => I :=
    fun call => ends_checked hsucc.calls hI.calls call
  have hzero : Prog.Ends I (pure 0 : InterfacesM Int) fun error s => error = 0 ∧ I s :=
    Prog.ends_pure fun _ hs => ⟨rfl, hs⟩
  have hne : addrs ≠ [] := fun hnil => h ⟨hleaf, .inl hnil⟩
  have hset (hop : change.operation = .created ∨ change.operation = .modified) :
      change.nodeValue ≠ "false" := fun hvalue => h ⟨hleaf, .inr ⟨hvalue, hop⟩⟩
  refine Prog.Ends.status (hI.preamble hsucc hlink fun link => ?_)
  refine (ends_firstAddr hcache hne).bind fun _ => (hcall _).bind fun _ =>
    (hcall _).bind fun _ => ?_
  cases hop : change.operation with
  | created =>
      rw [if_neg (hset (.inl hop))]
      exact hzero
  | modified =>
      rw [if_neg (hset (.inr hop))]
      exact hzero
  | deleted => exact hzero
  | moved => exact hzero

theorem leaves_changeIpv4Enabled (hsucc : env.Succeeds schema) (hI : Kept I)
    (hlink : ∀ s, I s → (cachedLink s change.ifName).isSome)
    {addrs : List RtnlAddr} (hcache : ∀ s, I s → s.modCtx.addrCache = addrs)
    (h : EnabledRefused (addrs = []) change) :
    Prog.Leaves I (interfacesInterfaceIpv4ChangeEnabled env change).require I := by
  have hcall : ∀ call, Prog.Ends I (checked env call) fun _ => I :=
    fun call => ends_checked hsucc.calls hI.calls call
  by_cases hnil : addrs = []
  · refine Prog.Leaves.status (by decide) ?_
    refine (ends_extractInterfaceName hsucc.calls hI.calls).bind_leaves fun name => ?_
    intro s ⟨hname, hs⟩
    subst hname
    refine ((ends_currentLink hlink).bind_leaves fun link s hs => ?_) s hs
    exact (leaves_firstAddr fun s hs => by rw [hcache s hs, hnil]).bind s hs.2
  · obtain ⟨-, hempty | ⟨hvalue, hop⟩⟩ := h
    · exact absurd hempty hnil
    · have hlength : Prog.Ends I
          (pure ((ipv4AddressPath change.ifName).utf8ByteSize : Int) : InterfacesM Int)
          fun error s => error ≠ 0 ∧ I s :=
        Prog.ends_pure fun _ hs => ⟨ipv4AddressPath_size _, hs⟩
      refine Prog.Ends.status_leaves (hI.preamble hsucc hlink fun link => ?_)
      refine (ends_firstAddr hcache hnil).bind fun _ => ?_
      refine (hcall _).bind fun _ => (hcall _).bind fun _ => ?_
      rcases hop with hop | hop
      · rw [hop]
        dsimp only
        rw [if_pos hvalue]
        exact hlength
      · rw [hop]
        dsimp only
        rw [if_pos hvalue]
        exact hlength

/-! ## every handler -/

/-- A handler returns 0 unless it is the one of the IPv4 flag and the change is
refused. -/
theorem ends_changeHandler (hsucc : env.Succeeds schema) {leaf : Leaf}
    (hI : Kept I) (hleaf : change.leaf = leaf) (hsupported : Supported change)
    (hrunning : Schema.ValidRunning session.running) (hvalid : schema.ValidChange session change)
    (hlink : change.looksUp → ∀ s, I s → (cachedLink s change.ifName).isSome)
    {addrs : List RtnlAddr} (hcache : leaf = .ipv4Enabled → ∀ s, I s → s.modCtx.addrCache = addrs)
    (h : ¬ EnabledRefused (addrs = []) change) :
    Prog.Ends I (changeHandler env session change leaf).require fun _ => I := by
  have hnothing : Prog.Ends I (pure 0 : InterfacesM Int).require fun _ => I :=
    fun s hs => ⟨(), s, rfl, hs⟩
  have hneeds (hneeds : leaf.needsLink) (hne : leaf ≠ .name ∧ leaf ≠ .type ∧ leaf ≠ .enabled) :
      change.looksUp := by
    rw [Change.looksUp, hleaf]
    cases leaf <;> simp_all
  cases leaf with
  | name => exact ends_changeName hsucc hI hleaf hsupported hvalid hlink
  | description => exact hnothing
  | type => exact ends_changeType hsucc hI hleaf hsupported hlink
  | enabled => exact ends_changeEnabled hsucc hI hleaf hlink
  | linkUpDownTrapEnable => exact hnothing
  | ipv4Mtu => exact ends_changeMtu hsucc hI (hlink (hneeds rfl (by simp)))
  | ipv4Enabled =>
      exact ends_changeIpv4Enabled hsucc hI (hlink (hneeds rfl (by simp))) (hcache rfl) hleaf h
  | ipv4AddressNetmask =>
      exact ends_changeNetmask hsucc hI hleaf hvalid (hlink (hneeds rfl (by simp)))
  | addressIp family =>
      have hthere := hlink (hneeds rfl (by simp))
      cases family with
      | ipv4 =>
          exact ends_changeAddressIp hsucc hI hleaf hsupported hvalid hthere
            (fun hop => hI.createdIpv4PrefixLength hsucc hleaf hop hvalid)
            fun hop => hI.runningIpv4PrefixLength hsucc hrunning (hvalid.deleted hop _ hleaf)
      | ipv6 =>
          exact ends_changeAddressIp hsucc hI hleaf hsupported hvalid hthere
            (fun hop => hI.createdIpv6PrefixLength hsucc hleaf hop hvalid)
            fun hop => hI.runningIpv6PrefixLength hsucc hrunning (hvalid.deleted hop _ hleaf)
  | addressPrefixLength family =>
      have hthere := hlink (hneeds rfl (by simp))
      cases family with
      | ipv4 => exact ends_changePrefixLength hsucc hI hleaf hvalid hthere
      | ipv6 => exact ends_changePrefixLength hsucc hI hleaf hvalid hthere
  | neighborIp family =>
      have hthere := hlink (hneeds rfl (by simp))
      cases family with
      | ipv4 => exact ends_changeNeighborIp hsucc hI hleaf hsupported hvalid hthere
      | ipv6 => exact ends_changeNeighborIp hsucc hI hleaf hsupported hvalid hthere
  | neighborLinkLayerAddress family =>
      have hthere := hlink (hneeds rfl (by simp))
      cases family with
      | ipv4 => exact ends_changeLinkLayerAddress hsucc hI hleaf hvalid hthere
      | ipv6 => exact ends_changeLinkLayerAddress hsucc hI hleaf hvalid hthere
  | other path => exact hnothing

/-- One handler on one change. -/
theorem changeHandler_returns_zero_iff (hsucc : env.Succeeds schema)
    (hsupported : Supported change) (hrunning : Schema.ValidRunning session.running)
    (hvalid : schema.ValidChange session change) {s : InterfacesState}
    (hlink : change.looksUp → (cachedLink s change.ifName).isSome) :
    (∃ s', (changeHandler env session change change.leaf).run s = (.ok 0, s')) ↔
      ¬ EnabledRefused (s.modCtx.addrCache = []) change := by
  let Caches (t : InterfacesState) : Prop :=
    t.modCtx.linkCache = s.modCtx.linkCache ∧ t.modCtx.addrCache = s.modCtx.addrCache
  have hI : Kept Caches := ⟨fun _ _ h => h, fun _ _ _ h => h, fun _ _ _ h => h⟩
  have hthere : change.looksUp → ∀ t, Caches t → (cachedLink t change.ifName).isSome := by
    intro hlooks t ht
    rw [cachedLink, ht.1]
    exact hlink hlooks
  have hstart : Caches s := ⟨rfl, rfl⟩
  constructor
  · rintro ⟨s', hrun⟩ hrefused
    have hlooks : change.looksUp := by
      rw [Change.looksUp, hrefused.1]
      rfl
    obtain ⟨s'', hleaves, -⟩ :=
      leaves_changeIpv4Enabled hsucc hI (hthere hlooks) (fun _ ht => ht.2) hrefused s hstart
    rw [hrefused.1] at hrun
    have hrequire := Prog.require_eq_ok.mpr hrun
    rw [show changeHandler env session change .ipv4Enabled =
      interfacesInterfaceIpv4ChangeEnabled env change from rfl, hleaves] at hrequire
    cases hrequire
  · intro h
    obtain ⟨_, s', hrun, -⟩ := ends_changeHandler hsucc hI rfl hsupported hrunning hvalid hthere
      (fun _ _ ht => ht.2) h s hstart
    exact ⟨s', Prog.require_eq_ok.mp hrun⟩

end Handlers

end SysrepoInterfaces.Interfaces
