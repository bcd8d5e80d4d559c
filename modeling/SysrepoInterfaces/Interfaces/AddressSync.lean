import SysrepoInterfaces.Interfaces.AddressConfig
import SysrepoInterfaces.Interfaces.RoundTrip
import SysrepoInterfaces.Interfaces.Steps

/-!
# SysrepoInterfaces.Interfaces.AddressSync

Whether the kernel's IPv4 addresses follow the datastore.  The handlers of the
prefix length and of the netmask leave created and deleted leaves to the one of
the ip, which is not called when an address only goes from one leaf to the
other.
-/

namespace SysrepoInterfaces.Interfaces

open CProg

/-! ## what is kept -/

/-- The links and the addresses of the kernel, and what the lookups of a phase
have left behind. -/
structure Tracks (table : LinkTable) (ifindex : Nat) (config : AddressConfig)
    (data : FamilyData → Prop) (s : InterfacesState) : Prop where
  links : s.kernel.links = table
  addrs : Represents s.kernel.addrs ifindex config
  data : data s.modCtx.modData.ipv4

/-- The same within a phase. -/
structure TracksInPhase (table : LinkTable) (ifindex : Nat) (config : AddressConfig)
    (data : FamilyData → Prop) (s : InterfacesState) : Prop extends
    Tracks table ifindex config data s where
  linkCache : s.modCtx.linkCache = table.links

/-- No lookup has left a prefix length. -/
def Cleared (data : FamilyData) : Prop := data.prefixSet = false

/-- The lookups have left this prefix length, or none. -/
def Found (length : Nat) (data : FamilyData) : Prop :=
  data.prefixSet = true → data.prefixLength.toNat = length

/-- `nl_addr_parse` on the texts of IPv4 addresses, with and without a prefix
length. -/
structure ReadsIpv4 (env : InterfacesEnv) : Prop where
  address : ∀ ip, env.nlAddrParse AF_INET (dottedQuad ip) = some (addr4 ip.bits 32)
  subnet : ∀ ip length, length ≤ 32 →
    env.nlAddrParse AF_INET (addressText (dottedQuad ip) (toString length)) =
      some (addr4 ip.bits length)

theorem ReadsIpv4.length {env : InterfacesEnv} (h : ReadsIpv4 env) (ip : Octets)
    (subnet : Subnet) :
    env.nlAddrParse AF_INET (addressText (dottedQuad ip) (toString subnet.length)) =
      some (addr4 ip.bits subnet.length) := h.subnet ip subnet.length subnet.length_le

/-! ## one phase -/

section Tracks

variable {env : InterfacesEnv} {session : Session} {table : LinkTable} {link : RtnlLink}
  {config : AddressConfig} {data : FamilyData → Prop} {change : Change} {ip : Octets}
  {name : String}

theorem TracksInPhase.calls {s : InterfacesState} (n : Nat)
    (h : TracksInPhase table link.ifindex config data s) :
    TracksInPhase table link.ifindex config data { s with calls := n } :=
  ⟨⟨h.links, h.addrs, h.data⟩, h.linkCache⟩

/-- A program that looks at the link first. -/
theorem ensures_preamble {f : RtnlLink → InterfacesM Unit}
    {post : Unit → InterfacesState → Prop}
    (hlink : table.getByName name = some link)
    (hf : Prog.Ensures (TracksInPhase table link.ifindex config data) (f link) post) :
    Prog.Ensures (TracksInPhase table link.ifindex config data)
      (currentLink name >>= fun currentLink => f currentLink) post := by
  refine ensures_currentLink.bind fun found => ?_
  intro s a s' ⟨hfound, hs⟩ hrun
  rw [hs.linkCache] at hfound
  obtain rfl : link = found := Option.some.inj (hlink.symm.trans hfound)
  exact hf s a s' hs hrun

/-- The steps the handlers of the two leaves have in common. -/
theorem ensures_subnetPreamble {f : String → RtnlLink → InterfacesM Unit}
    {post : Unit → InterfacesState → Prop} (hlink : table.getByName name = some link)
    (hname : change.ifName = name) (hip : change.ip = dottedQuad ip)
    (hf : Prog.Ensures (TracksInPhase table link.ifindex config data) (f (dottedQuad ip) link)
      post) :
    Prog.Ensures (TracksInPhase table link.ifindex config data) (do
      let name ← extractInterfaceName env change
      let ip ← extractIp env change
      let link ← currentLink name
      f ip link) post := by
  refine (ensures_extractInterfaceName fun _ n h => h.calls n).bind fun name' => ?_
  refine Prog.ensures_of_fact fun hname' => ?_
  refine (ensures_extractIp fun _ n h => h.calls n).bind fun ip' => ?_
  refine Prog.ensures_of_fact fun hip' => ?_
  rw [hname', hip', hname, hip]
  exact ensures_preamble hlink hf

/-- The address of an ip gets another prefix length. -/
theorem ensures_replaceAddress (hkernel : ChangesIpv4Addrs env) {address oldAddress : String}
    {old new : Subnet}
    (hold : env.nlAddrParse AF_INET oldAddress = some (addr4 ip.bits old.length))
    (hnew : env.nlAddrParse AF_INET address = some (addr4 ip.bits new.length))
    (hconfig : config ip = some old) (halone : AloneInSubnet config ip old) :
    Prog.Ensures (TracksInPhase table link.ifindex config data)
      (replaceAddress env AF_INET link address oldAddress) fun _ =>
        TracksInPhase table link.ifindex (Function.update config ip (some new)) data := by
  unfold replaceAddress
  refine ensures_nlAddrParse.bind fun localAddr => ?_
  refine Prog.ensures_of_fact fun hlocal => ?_
  obtain rfl := Option.some.inj (hnew.symm.trans hlocal)
  refine ensures_nlAddrParse.bind fun oldLocalAddr => ?_
  refine Prog.ensures_of_fact fun holdLocal => ?_
  obtain rfl := Option.some.inj (hold.symm.trans holdLocal)
  refine (ensures_checked (fun _ n h => h.calls n) _).bind fun _ => ?_
  refine (ensures_checked (fun _ n h => h.calls n) _).bind fun _ => ?_
  have hdelete : Prog.Ensures (TracksInPhase table link.ifindex config data)
      (request env (.addrDelete { ifindex := link.ifindex, localAddr := addr4 ip.bits old.length }))
      fun _ => TracksInPhase table link.ifindex (Function.update config ip none) data :=
    ensures_request fun s answer hs => ⟨⟨(hkernel.deleteLinks _ _ rfl).trans hs.links,
      hs.addrs.delete hkernel hconfig halone, hs.data⟩, hs.linkCache⟩
  have hadd : Prog.Ensures
      (TracksInPhase table link.ifindex (Function.update config ip none) data)
      (request env (.addrAdd { ifindex := link.ifindex, localAddr := addr4 ip.bits new.length }))
      fun _ => TracksInPhase table link.ifindex
        (Function.update (Function.update config ip none) ip (some new)) data :=
    ensures_request fun s answer hs => ⟨⟨(hkernel.addLinks _ _ rfl).trans hs.links,
      hs.addrs.add hkernel (Function.update_self ..), hs.data⟩, hs.linkCache⟩
  rw [Function.update_idem] at hadd
  exact hdelete.bind fun _ => hadd

/-- What the handlers make of a change. -/
def carryOut (new : AddressConfig) (change : Change) (ip : Octets) (config : AddressConfig) :
    AddressConfig :=
  if change.acts then Function.update config ip (new ip) else config

theorem carryOut_of_not_modified {new : AddressConfig} (hleaf : change.leaf ≠ .addressIp .ipv4)
    (hop : change.operation ≠ .modified) : carryOut new change ip config = config := by
  simp [carryOut, Change.acts, hleaf, hop]

theorem carryOut_modified {new : AddressConfig} (hop : change.operation = .modified) :
    carryOut new change ip config = Function.update config ip (new ip) := by
  simp [carryOut, Change.acts, hop]

/-- Only a leaf that is modified is carried out. -/
theorem carryOut_of_mem_diff {old new : AddressConfig}
    (hmem : change ∈ diff name ip (old ip) (new ip)) (hne : change.leaf ≠ .addressIp .ipv4)
    (config : AddressConfig) :
    (change.operation = .created ∨ change.operation = .deleted) ∧
        carryOut new change ip config = config ∨
      ∃ a b, old ip = some a ∧ new ip = some b ∧ a.leaf = b.leaf ∧
        change = subnetChange .modified name ip b a.text ∧
        carryOut new change ip config = Function.update config ip (some b) := by
  rcases mem_diff_subnet hmem hne with hop | hop | ⟨a, b, ha, hb, hsame, rfl⟩
  · exact .inl ⟨.inl hop, carryOut_of_not_modified hne (by simp [hop])⟩
  · exact .inl ⟨.inr hop, carryOut_of_not_modified hne (by simp [hop])⟩
  · exact .inr ⟨a, b, ha, hb, hsame, rfl, by rw [carryOut_modified rfl, hb]⟩

/-- What an address that is taken from the kernel needs. -/
def Alone (old new config : AddressConfig) (ip : Octets) : Prop :=
  ∀ a, Removed (old ip) (new ip) a → AloneInSubnet config ip a

/-- A leaf of the choice that gets another value. -/
theorem removed_of_modified {old new : AddressConfig} {a b : Subnet}
    (hmem : subnetChange .modified name ip b a.text ∈ diff name ip (old ip) (new ip))
    (hold : old ip = some a) (hnew : new ip = some b) (hleaf : a.leaf = b.leaf) :
    Removed (old ip) (new ip) a := by
  refine ⟨hold, fun c hc => ?_⟩
  obtain rfl := Option.some.inj (hnew.symm.trans hc)
  refine ⟨hleaf, ?_⟩
  rintro rfl
  simp [hold, hnew, diff] at hmem

theorem ensures_changePrefixLength {old new : AddressConfig} (hreads : ReadsIpv4 env)
    (hkernel : ChangesIpv4Addrs env)
    (hlink : table.getByName name = some link)
    (hmem : change ∈ diff name ip (old ip) (new ip))
    (hleaf : change.leaf = .addressPrefixLength .ipv4)
    (hconfig : change.acts → config ip = old ip) (halone : Alone old new config ip) :
    Prog.Ensures (TracksInPhase table link.ifindex config data)
      (addressChangePrefixLength .ipv4 env change).require fun _ =>
        TracksInPhase table link.ifindex (carryOut new change ip config) data := by
  have hne : change.leaf ≠ .addressIp .ipv4 := by simp [hleaf]
  unfold addressChangePrefixLength
  rw [Prog.require_exitCode (by decide)]
  refine ensures_subnetPreamble hlink (ifName_of_mem_diff hmem) (ip_of_mem_diff hmem) ?_
  rcases carryOut_of_mem_diff hmem hne config with
    ⟨hop, hcarry⟩ | ⟨a, b, ha, hb, hsame, rfl, hcarry⟩
  · rw [hcarry]
    rcases hop with hop | hop <;>
    · rw [hop]
      exact Prog.ensures_pure fun _ hs => hs
  · rw [hcarry]
    obtain ⟨n, rfl⟩ : ∃ n, b = .prefixLength n := by
      cases b <;> simp_all [subnetChange, Subnet.leaf]
    obtain ⟨m, rfl⟩ : ∃ m, a = .prefixLength m := by
      cases a <;> simp_all [Subnet.leaf]
    have hold := hreads.length ip (.prefixLength m)
    have hnew := hreads.length ip (.prefixLength n)
    exact ensures_replaceAddress hkernel hold hnew ((hconfig rfl).trans ha)
      (halone _ (removed_of_modified hmem ha hb hsame))

theorem netmask2prefix_text (n : Fin 33) :
    netmask2prefix env.littleEndian (Subnet.netmask n).text = some (UInt8.ofNat n) :=
  netmask2prefix_mask env.littleEndian n

theorem toNat_ofNat_length (n : Fin 33) : (UInt8.ofNat n).toNat = n.val := by
  simp
  omega

theorem ensures_changeNetmask {old new : AddressConfig} (hreads : ReadsIpv4 env)
    (hkernel : ChangesIpv4Addrs env) (hlink : table.getByName name = some link)
    (hmem : change ∈ diff name ip (old ip) (new ip))
    (hleaf : change.leaf = .ipv4AddressNetmask) (hconfig : change.acts → config ip = old ip)
    (halone : Alone old new config ip) :
    Prog.Ensures (TracksInPhase table link.ifindex config data)
      (interfacesInterfaceIpv4AddressChangeNetmask env change).require fun _ =>
        TracksInPhase table link.ifindex (carryOut new change ip config) data := by
  have hne : change.leaf ≠ .addressIp .ipv4 := by simp [hleaf]
  unfold interfacesInterfaceIpv4AddressChangeNetmask
  rw [Prog.require_exitCode (by decide)]
  refine ensures_subnetPreamble hlink (ifName_of_mem_diff hmem) (ip_of_mem_diff hmem) ?_
  rcases carryOut_of_mem_diff hmem hne config with
    ⟨hop, hcarry⟩ | ⟨a, b, ha, hb, hsame, rfl, hcarry⟩
  · rw [hcarry]
    rcases hop with hop | hop <;>
    · rw [hop]
      exact Prog.ensures_pure fun _ hs => hs
  · rw [hcarry]
    obtain ⟨n, rfl⟩ : ∃ n, b = .netmask n := by
      cases b <;> simp_all [subnetChange, Subnet.leaf]
    obtain ⟨m, rfl⟩ : ∃ m, a = .netmask m := by
      cases a <;> simp_all [Subnet.leaf]
    refine ensures_netmaskLength.bind fun length => Prog.ensures_of_fact fun hlength => ?_
    refine ensures_netmaskLength.bind fun oldLength => Prog.ensures_of_fact fun holdLength => ?_
    obtain rfl := Option.some.inj ((netmask2prefix_text n).symm.trans hlength)
    obtain rfl := Option.some.inj ((netmask2prefix_text m).symm.trans holdLength)
    have hold := hreads.length ip (.netmask m)
    have hnew := hreads.length ip (.netmask n)
    rw [toNat_ofNat_length, toNat_ofNat_length]
    exact ensures_replaceAddress hkernel hold hnew ((hconfig rfl).trans ha)
      (halone _ (removed_of_modified hmem ha hb hsame))

end Tracks

/-! ## the handler of the ip -/

section Ip

variable {env : InterfacesEnv} {session : Session} {table : LinkTable} {link : RtnlLink}
  {config : AddressConfig} {data : FamilyData → Prop} {change : Change} {ip : Octets}
  {name : String} {subnet : Subnet}

/-- The lookups have left this prefix length. -/
def SetTo (length : Nat) (data : FamilyData) : Prop :=
  data.prefixSet = true ∧ data.prefixLength.toNat = length

theorem TracksInPhase.weaken {data' : FamilyData → Prop} {s : InterfacesState}
    (h : TracksInPhase table link.ifindex config data s) (hdata : ∀ d, data d → data' d) :
    TracksInPhase table link.ifindex config data' s :=
  ⟨⟨h.links, h.addrs, hdata _ h.data⟩, h.linkCache⟩

theorem TracksInPhase.updateModData {data' : FamilyData → Prop} {s : InterfacesState}
    {f : FamilyData → FamilyData} (h : TracksInPhase table link.ifindex config data s)
    (hdata : ∀ d, data d → data' (f d)) :
    TracksInPhase table link.ifindex config data' (s.updateModData .ipv4 f) :=
  ⟨⟨h.links, h.addrs, hdata _ h.data⟩, h.linkCache⟩

/-- A nested callback that sets the prefix length of the address. -/
theorem ensures_setPrefixLength {length : UInt8} (hlength : length.toNat = subnet.length) :
    Prog.Ensures (TracksInPhase table link.ifindex config (Found subnet.length))
      (Prog.require do
        Prog.modify fun s => s.updateModData .ipv4 fun data =>
          { data with prefixLength := length, prefixSet := true }
        return 0) fun _ => TracksInPhase table link.ifindex config (Found subnet.length) := by
  intro s _ s' hs hrun
  cases hrun
  exact hs.updateModData fun _ _ _ => hlength

/-- The nested callbacks on the leaf of a created address. -/
theorem ensures_getPrefixLength (hleaf : change.leaf = .addressPrefixLength .ipv4)
    (hchange : change = subnetChange .created name ip subnet "") :
    Prog.Ensures (TracksInPhase table link.ifindex config (Found subnet.length))
      (interfacesInterfaceIpv4AddressGetPrefixLength change).require fun _ =>
        TracksInPhase table link.ifindex config (Found subnet.length) := by
  subst hchange
  obtain ⟨n, rfl⟩ : ∃ n, subnet = .prefixLength n := by
    cases subnet <;> simp_all [subnetChange, Subnet.leaf]
  have hread := uint8Of_repr (UInt8.ofNat n)
  rw [toNat_ofNat_length] at hread
  have hvalue : (uint8Of (toString n.val)).toNat = (Subnet.prefixLength n).length := by
    rw [Nat.toString_eq_repr, hread]
    exact toNat_ofNat_length n
  exact ensures_setPrefixLength hvalue

theorem ensures_getNetmask (hleaf : change.leaf = .ipv4AddressNetmask)
    (hchange : change = subnetChange .created name ip subnet "") :
    Prog.Ensures (TracksInPhase table link.ifindex config (Found subnet.length))
      (interfacesInterfaceIpv4AddressGetNetmask env change).require fun _ =>
        TracksInPhase table link.ifindex config (Found subnet.length) := by
  subst hchange
  obtain ⟨n, rfl⟩ : ∃ n, subnet = .netmask n := by
    cases subnet <;> simp_all [subnetChange, Subnet.leaf]
  have hvalue : (UInt8.ofNat n).toNat = (Subnet.netmask n).length := toNat_ofNat_length n
  unfold interfacesInterfaceIpv4AddressGetNetmask
  simp only [subnetChange, netmask2prefix_text]
  exact ensures_setPrefixLength hvalue

theorem ensures_nested {changes : List Change} {handler : Change → InterfacesM Int}
    (h : ∀ c ∈ changes, Prog.Ensures (TracksInPhase table link.ifindex config data)
      (handler c).require fun _ => TracksInPhase table link.ifindex config data) :
    Prog.Ensures (TracksInPhase table link.ifindex config data)
      (nestedIterateChanges env changes handler) fun _ =>
        TracksInPhase table link.ifindex config data := by
  unfold nestedIterateChanges srpcIterateChanges
  rw [Prog.require_exitCode (by decide)]
  refine Prog.Ensures.out ?_ fun _ _ hs => hs
  have hinit : Prog.Ensures (TracksInPhase table link.ifindex config data)
      (Prog.require (return 0 : InterfacesM Int)) fun _ =>
        TracksInPhase table link.ifindex config data := by
    intro s _ s' hs hrun
    cases hrun
    exact hs
  refine hinit.bind fun _ => ?_
  exact (ensures_checked (fun _ n h => h.calls n) _).bind fun _ => Prog.ensures_forM h

/-- The changes the lookups of a created address see. -/
def LooksUp (session : Session) (name : String) (ip : Octets) (subnet : Subnet) : Prop :=
  ∀ c ∈ session.changes, c.leaf ≠ .addressIp .ipv4 → c.ifName = name → c.ip = dottedQuad ip →
    c = subnetChange .created name ip subnet ""

theorem LooksUp.changesAt (h : LooksUp session name ip subnet) {leaf : Leaf}
    (hleaf : leaf ≠ .addressIp .ipv4) {c : Change}
    (hc : c ∈ session.changesAt leaf name (dottedQuad ip)) :
    c.leaf = leaf ∧ c = subnetChange .created name ip subnet "" := by
  unfold Session.changesAt at hc
  simp only [List.mem_filter, decide_eq_true_eq] at hc
  obtain ⟨hmem, hl, hname, hip⟩ := hc
  exact ⟨hl, h c hmem (hl ▸ hleaf) hname hip⟩

theorem ensures_netmaskLookup (hlooks : LooksUp session name ip subnet) :
    Prog.Ensures (TracksInPhase table link.ifindex config (Found subnet.length))
      (ipv4NetmaskLookup env session name (dottedQuad ip)) fun _ =>
        TracksInPhase table link.ifindex config (SetTo subnet.length) := by
  have hset : ∀ d : FamilyData, d.prefixSet = true →
      Prog.Ensures (fun s : InterfacesState => d = s.modCtx.modData.ipv4 ∧
          TracksInPhase table link.ifindex config (Found subnet.length) s)
        (pure () : InterfacesM Unit) fun _ =>
          TracksInPhase table link.ifindex config (SetTo subnet.length) := by
    intro d hd
    refine Prog.ensures_pure fun s hs => ?_
    obtain ⟨rfl, hs⟩ := hs
    exact ⟨⟨hs.links, hs.addrs, hd, hs.data hd⟩, hs.linkCache⟩
  unfold ipv4NetmaskLookup
  refine ensures_modDataOf.bind fun d => ?_
  split
  · next hd => exact hset d hd
  · refine Prog.ensures_of_and ?_
    have hnested : Prog.Ensures (TracksInPhase table link.ifindex config (Found subnet.length))
        (nestedIterateChanges env (session.changesAt .ipv4AddressNetmask name (dottedQuad ip))
          (interfacesInterfaceIpv4AddressGetNetmask env)) fun _ =>
            TracksInPhase table link.ifindex config (Found subnet.length) := by
      refine ensures_nested fun c hc => ?_
      obtain ⟨hleaf, hchange⟩ := hlooks.changesAt (by simp) hc
      exact ensures_getNetmask hleaf hchange
    refine hnested.bind fun _ => ensures_modDataOf.bind fun d => ?_
    split
    · next hd => exact hset d hd
    · intro s _ s' _ hrun
      cases hrun

/-- A created address is given the prefix length its leaf denotes. -/
theorem ensures_createdPrefixLength (hlooks : LooksUp session name ip subnet) :
    Prog.Ensures (TracksInPhase table link.ifindex config Cleared)
      (createdIpv4PrefixLength env session name (dottedQuad ip)) fun length s =>
        length.toNat = subnet.length ∧
          TracksInPhase table link.ifindex config (SetTo subnet.length) s := by
  have hstart : ∀ s, TracksInPhase table link.ifindex config Cleared s →
      TracksInPhase table link.ifindex config (Found subnet.length) s := by
    intro s hs
    refine hs.weaken fun d hd hset => ?_
    unfold Cleared at hd
    rw [hd] at hset
    cases hset
  have hnested : Prog.Ensures (TracksInPhase table link.ifindex config (Found subnet.length))
      (nestedIterateChanges env
        (session.changesAt (.addressPrefixLength .ipv4) name (dottedQuad ip))
        interfacesInterfaceIpv4AddressGetPrefixLength) fun _ =>
          TracksInPhase table link.ifindex config (Found subnet.length) := by
    refine ensures_nested fun c hc => ?_
    obtain ⟨hleaf, hchange⟩ := hlooks.changesAt (by simp) hc
    exact ensures_getPrefixLength hleaf hchange
  unfold createdIpv4PrefixLength
  refine (hnested.weaken hstart fun _ _ => id).bind fun _ => ?_
  refine (ensures_netmaskLookup hlooks).bind fun _ => ?_
  refine ensures_modDataOf.bind fun d => Prog.ensures_pure fun s hs => ?_
  obtain ⟨rfl, hs⟩ := hs
  exact ⟨hs.data.2, hs⟩

/-- A deleted address is deleted with the prefix length the running datastore
has for it. -/
theorem ensures_runningPrefixLength {old : AddressConfig}
    (hrunning : Describes session.running name old) (hold : old ip = some subnet) :
    Prog.Ensures (TracksInPhase table link.ifindex config data)
      (runningIpv4PrefixLength env session name (dottedQuad ip)) fun length s =>
        length.toNat = subnet.length ∧ TracksInPhase table link.ifindex config data s := by
  unfold runningIpv4PrefixLength
  refine (ensures_checked (fun _ n h => h.calls n) _).bind fun _ => ?_
  cases subnet with
  | prefixLength n =>
      rw [hrunning.prefixLength ip n hold]
      exact Prog.ensures_pure fun s hs => ⟨toNat_ofNat_length n, hs⟩
  | netmask n =>
      obtain ⟨hnone, hmask⟩ := hrunning.netmask ip n hold
      rw [hnone, hmask]
      refine (ensures_checked (fun _ n h => h.calls n) _).bind fun _ => ?_
      refine ensures_netmaskLength.weaken (fun _ => id) fun length s ⟨hlength, hs⟩ => ?_
      have htext := @netmask2prefix_text env n
      obtain rfl := Option.some.inj (htext.symm.trans hlength)
      exact ⟨toNat_ofNat_length n, hs⟩

theorem ensures_changeIp {old new : AddressConfig} (hreads : ReadsIpv4 env)
    (hkernel : ChangesIpv4Addrs env) (hlink : table.getByName name = some link)
    (hrunning : Describes session.running name old)
    (hlooks : ∀ b, old ip = none → new ip = some b → LooksUp session name ip b)
    (hmem : change ∈ diff name ip (old ip) (new ip))
    (hleaf : change.leaf = .addressIp .ipv4) (hconfig : change.acts → config ip = old ip)
    (halone : Alone old new config ip) :
    Prog.Ensures (TracksInPhase table link.ifindex config Cleared)
      (interfacesInterfaceIpv4AddressChangeIp env session change).require fun _ =>
        TracksInPhase table link.ifindex (carryOut new change ip config) Cleared := by
  have hcarry : carryOut new change ip config = Function.update config ip (new ip) := by
    simp [carryOut, Change.acts, hleaf]
  have hsame : config ip = old ip := hconfig (by simp [Change.acts, hleaf])
  have hname := ifName_of_mem_diff hmem
  unfold interfacesInterfaceIpv4AddressChangeIp addressChangeIp
  rw [Prog.require_exitCode (by decide), hcarry]
  -- what the lookups have left is cleared on every way out
  have hclear : ∀ s, TracksInPhase table link.ifindex (Function.update config ip (new ip))
      (fun _ => True) s → TracksInPhase table link.ifindex (Function.update config ip (new ip))
        Cleared (s.updateModData .ipv4 fun data =>
          { data with prefixLength := 0, prefixSet := false }) :=
    fun s hs => hs.updateModData fun _ _ => rfl
  refine Prog.Ensures.out ?_ fun _ s hs => hclear s hs
  refine (ensures_extractInterfaceName fun _ n h => h.calls n).bind fun name' => ?_
  refine Prog.ensures_of_fact fun hname' => ?_
  rw [hname', hname]
  refine ensures_preamble hlink ?_
  refine (ensures_checked (fun _ n h => h.calls n) _).bind fun _ => ?_
  refine (ensures_checked (fun _ n h => h.calls n) _).bind fun _ => ?_
  rcases mem_diff_ip hmem hleaf with ⟨b, hold, hnew, rfl⟩ | ⟨a, hold, hnew, rfl⟩
  · have hnone : config ip = none := hsame.trans hold
    rw [hnew]
    refine ensures_nlAddrParse.bind fun addr => Prog.ensures_of_fact fun haddr => ?_
    obtain rfl := Option.some.inj ((hreads.address ip).symm.trans haddr)
    refine (ensures_createdPrefixLength (hlooks b hold hnew)).bind fun length => ?_
    refine Prog.ensures_of_fact fun hlength => ?_
    refine (ensures_checked (fun _ n h => h.calls n) _).bind fun _ => ?_
    rw [hlength]
    exact ensures_request fun s answer hs => ⟨⟨(hkernel.addLinks _ _ rfl).trans hs.links,
      hs.addrs.add hkernel hnone, trivial⟩, hs.linkCache⟩
  · have hsome : config ip = some a := hsame.trans hold
    rw [hnew]
    refine (ensures_runningPrefixLength hrunning hold).bind fun length => ?_
    refine Prog.ensures_of_fact fun hlength => ?_
    refine ensures_nlAddrParse.bind fun addr => Prog.ensures_of_fact fun haddr => ?_
    rw [hlength] at haddr
    obtain rfl := Option.some.inj ((hreads.length ip a).symm.trans haddr)
    refine (ensures_checked (fun _ n h => h.calls n) _).bind fun _ => ?_
    have hremoved : Removed (old ip) (new ip) a := by
      refine ⟨hold, fun b hb => ?_⟩
      rw [hnew] at hb
      cases hb
    exact ensures_request fun s answer hs => ⟨⟨(hkernel.deleteLinks _ _ rfl).trans hs.links,
      hs.addrs.delete hkernel hsome (halone a hremoved), trivial⟩, hs.linkCache⟩

end Ip

end SysrepoInterfaces.Interfaces
