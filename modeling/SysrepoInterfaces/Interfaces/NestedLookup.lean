import SysrepoInterfaces.Interfaces.Entered
import SysrepoInterfaces.Interfaces.Steps

/-!
# SysrepoInterfaces.Interfaces.NestedLookup

What the handlers of an ip ask for: a request out of the changes and the
running datastore for the very address or neighbour, whatever was handled on
the same context before.
-/

namespace SysrepoInterfaces.Interfaces

open CProg Requests

/-! ## what a handler should ask for -/

/-- The prefix length the changes have for an address: the prefix length itself,
or else the one of the netmask. -/
def Session.changedPrefixLength (littleEndian : Bool) (session : Session) (family : IpFamily)
    (name ip : String) : Option UInt8 :=
  match (session.changesAt (.addressPrefixLength family) name ip).getLast? with
  | some change => some (uint8Of change.nodeValue)
  | none => match family with
    | .ipv4 => (session.changesAt .ipv4AddressNetmask name ip).getLast?.bind fun change =>
        netmask2prefix littleEndian change.nodeValue
    | .ipv6 => none

/-- The link layer address the changes have for a neighbour. -/
def Session.changedLinkLayerAddress (session : Session) (family : IpFamily) (name ip : String) :
    Option String :=
  (session.changesAt (.neighborLinkLayerAddress family) name ip).getLast?.map Change.nodeValue

/-- The prefix length the running datastore has for an address. -/
def Running.addressLength (littleEndian : Bool) (running : Running) (family : IpFamily)
    (name ip : String) : Option UInt8 :=
  match running.prefixLength family name ip with
  | some length => some length
  | none => match family with
    | .ipv4 => (running.netmask name ip).bind ( netmask2prefix littleEndian)
    | .ipv6 => none

/-- The leaves whose handlers look others up. -/
def Leaf.isIp : Leaf → Bool
  | .addressIp _ | .neighborIp _ => true
  | _ => false

/-- The request for the change of an ip, on the link that has the interface's
name when the handler is entered. -/
def Entered.ownRequest (env : InterfacesEnv) (e : Entered) : Option Request := do
  let link ← Keyed.lookup RtnlLink.name e.change.ifName e.state.modCtx.linkCache
  match e.leaf, e.change.operation with
  | .addressIp family, .created =>
      let localAddr ← env.nlAddrParse family.af e.change.nodeValue
      let length ← e.session.changedPrefixLength env.littleEndian family e.change.ifName
        e.change.nodeValue
      some (.addrAdd {
        ifindex := link.ifindex
        localAddr := { localAddr with prefixLen := length.toNat } })
  | .addressIp family, .deleted =>
      let length ← e.session.running.addressLength env.littleEndian family e.change.ifName
        e.change.nodeValue
      let localAddr ← env.nlAddrParse family.af
        (addressText e.change.nodeValue (toString length.toNat))
      some (.addrDelete { ifindex := link.ifindex, localAddr })
  | .neighborIp family, .created =>
      let dst ← env.nlAddrParse family.af e.change.nodeValue
      let text ← e.session.changedLinkLayerAddress family e.change.ifName e.change.nodeValue
      let lladdr ← env.nlAddrParse AF_LLC text
      some (.neighAdd { ifindex := link.ifindex, dst, lladdr := some lladdr } NLM_F_CREATE)
  | .neighborIp family, .deleted =>
      let dst ← env.nlAddrParse family.af e.change.nodeValue
      some (.neighDelete { ifindex := link.ifindex, dst })
  | _, _ => none

/-- With a created address or neighbour its mandatory leaves are created. -/
def Entered.MandatoryLeaves (e : Entered) : Prop :=
  e.change.operation = .created → match e.leaf with
    | .addressIp .ipv4 =>
        e.session.changesAt (.addressPrefixLength .ipv4) e.change.ifName e.change.nodeValue ≠ [] ∨
          e.session.changesAt .ipv4AddressNetmask e.change.ifName e.change.nodeValue ≠ []
    | .addressIp .ipv6 =>
        e.session.changesAt (.addressPrefixLength .ipv6) e.change.ifName e.change.nodeValue ≠ []
    | .neighborIp family =>
        e.session.changesAt (.neighborLinkLayerAddress family) e.change.ifName
          e.change.nodeValue ≠ []
    | _ => True

/-! ## what the lookups find -/

/-- What is read out of `mod_data`. -/
def Reads {τ : Type} (read : ModData → τ) (v : τ) (s : InterfacesState) : Prop :=
  read s.modCtx.modData = v

/-- The prefix length a lookup has left. -/
def foundLength (family : IpFamily) (data : ModData) : Option UInt8 :=
  if (data.get family).prefixSet then some (data.get family).prefixLength else none

def foundAddress (family : IpFamily) (data : ModData) : Option String :=
  (data.get family).linkLayerAddress

theorem ModData.get_update (data : ModData) (f : FamilyData → FamilyData) (family : IpFamily) :
    (data.update f family).get family = f (data.get family) := by
  cases family <;> rfl

section Lookup

variable {env : InterfacesEnv} {session : Session} {change : Change} {family : IpFamily}
  {name ip : String}

/-- The last change a lookup comes to decides. -/
theorem ensures_nestedIterateChanges {τ : Type} {read : ModData → τ} {g : Change → τ}
    {handler : Change → InterfacesM Int}
    (h : ∀ change v, Prog.Ensures (Reads read v) (handler change).require fun _ =>
      Reads read (g change)) (changes : List Change) (v : τ) :
    Prog.Ensures (Reads read v) (nestedIterateChanges env changes handler) fun _ =>
      Reads read ((changes.getLast?.map g).getD v) := by
  have hlast : changes.foldl (fun _ change => g change) v = (changes.getLast?.map g).getD v := by
    rcases List.eq_nil_or_concat changes with rfl | ⟨init, last, rfl⟩
    · rfl
    · simp
  have hinit : Prog.Ensures (Reads read v) (Prog.require (return 0 : InterfacesM Int)) fun _ =>
      Reads read v := by
    intro s _ s' hs hrun
    cases hrun
    exact hs
  unfold nestedIterateChanges srpcIterateChanges
  rw [Prog.require_exitCode (by decide), ← hlast]
  refine Prog.Ensures.out ?_ fun _ _ hs => hs
  refine hinit.bind fun _ => (ensures_checked (fun _ _ hs => hs) _).bind fun _ => ?_
  exact Prog.ensures_forM_foldl (fun change v => h change v) changes v

theorem ensures_addressGetPrefixLength (change : Change) (v : Option UInt8) :
    Prog.Ensures (Reads (foundLength family) v) (addressGetPrefixLength family change).require
      fun _ => Reads (foundLength family) (some (uint8Of change.nodeValue)) := by
  intro s _ s' _ hrun
  rw [Prog.require_eq_ok] at hrun
  unfold addressGetPrefixLength at hrun
  split at hrun
  · cases hrun
    simp [Reads, foundLength, InterfacesState.updateModData, InterfacesState.setModCtx,
      ModData.get_update]
  · cases hrun
  · cases hrun
  · cases hrun

theorem ensures_ipv4AddressGetNetmask (change : Change) (v : Option UInt8) :
    Prog.Ensures (Reads (foundLength .ipv4) v)
      (interfacesInterfaceIpv4AddressGetNetmask env change).require
      fun _ => Reads (foundLength .ipv4) ( netmask2prefix env.littleEndian change.nodeValue) := by
  intro s _ s' _ hrun
  rw [Prog.require_eq_ok] at hrun
  unfold interfacesInterfaceIpv4AddressGetNetmask at hrun
  split at hrun
  · split at hrun
    · next hmask =>
        cases hrun
        rw [hmask]
        rfl
    · cases hrun
  · cases hrun
  · cases hrun
  · cases hrun

theorem ensures_neighborGetLinkLayerAddress (change : Change) (v : Option String) :
    Prog.Ensures (Reads (foundAddress family) v)
      (neighborGetLinkLayerAddress family env change).require
      fun _ => Reads (foundAddress family) (some change.nodeValue) := by
  intro s _ s' _ hrun
  rw [Prog.require_eq_ok] at hrun
  unfold neighborGetLinkLayerAddress at hrun
  split at hrun
  · rw [Prog.exitCode_eq_zero (by decide)] at hrun
    obtain ⟨_, _, _, hset⟩ := Prog.bind_eq_ok hrun
    cases hset
    simp [Reads, foundAddress, InterfacesState.updateModData, InterfacesState.setModCtx,
      ModData.get_update]
  · cases hrun
  · cases hrun
  · cases hrun

theorem reads_of_noLookup_address {s : InterfacesState} (h : NoLookup s) :
    Reads (foundLength family) none s := by
  unfold NoLookup at h
  unfold Reads foundLength
  rw [h]
  cases family <;> rfl

theorem reads_of_noLookup_neighbor {s : InterfacesState} (h : NoLookup s) :
    Reads (foundAddress family) none s := by
  unfold NoLookup at h
  unfold Reads foundAddress
  rw [h]
  cases family <;> rfl

/-- The lookup of the prefix length of an address. -/
theorem ensures_prefixLengthLookup (changes : List Change) :
    Prog.Ensures NoLookup (nestedIterateChanges env changes (addressGetPrefixLength family))
      fun _ => Reads (foundLength family)
        (changes.getLast?.map fun change => uint8Of change.nodeValue) := by
  have hlookup := (@ensures_nestedIterateChanges env _ _ _ _
    (@ensures_addressGetPrefixLength family) changes none).weaken
    (fun _ => reads_of_noLookup_address) fun _ _ => id
  have hvalue : ((changes.getLast?.map fun change => some (uint8Of change.nodeValue)).getD none) =
      changes.getLast?.map fun change => uint8Of change.nodeValue := by
    cases changes.getLast? <;> rfl
  rwa [hvalue] at hlookup

/-- A prefix length that is used is the one found. -/
theorem foundLength_of_prefixSet {s : InterfacesState} {v : Option UInt8}
    (h : Reads (foundLength family) v s)
    (hset : (s.modCtx.modData.get family).prefixSet = true) :
    v = some (s.modCtx.modData.get family).prefixLength := by
  unfold Reads foundLength at h
  rw [hset] at h
  exact h.symm

theorem foundLength_of_not_prefixSet {s : InterfacesState} {v : Option UInt8}
    (h : Reads (foundLength family) v s)
    (hset : ¬ (s.modCtx.modData.get family).prefixSet = true) : v = none := by
  unfold Reads foundLength at h
  rw [if_neg hset] at h
  exact h.symm

/-- The lookup of the netmask of an address that has no prefix length. -/
theorem ensures_netmaskLookupChanges (changes : List Change) :
    Prog.Ensures (Reads (foundLength .ipv4) none)
      (nestedIterateChanges env changes (interfacesInterfaceIpv4AddressGetNetmask env)) fun _ =>
        Reads (foundLength .ipv4)
          (changes.getLast?.bind fun change =>
            netmask2prefix env.littleEndian change.nodeValue) := by
  have hlookup := @ensures_nestedIterateChanges env _ _ _ _
    (@ensures_ipv4AddressGetNetmask env) changes none
  cases hlast : changes.getLast? with
  | none => rwa [hlast] at hlookup
  | some change => rwa [hlast] at hlookup

/-- A netmask is looked up where there is no prefix length. -/
theorem ensures_ipv4NetmaskLookup (v : Option UInt8) :
    Prog.Ensures (Reads (foundLength .ipv4) v) (ipv4NetmaskLookup env session name ip) fun _ s =>
      (s.modCtx.modData.get .ipv4).prefixSet = true ∧ Reads (foundLength .ipv4) (v.or
        ((session.changesAt .ipv4AddressNetmask name ip).getLast?.bind fun change =>
          netmask2prefix env.littleEndian change.nodeValue)) s := by
  unfold ipv4NetmaskLookup
  refine ensures_modDataOf.bind fun data => ?_
  split
  · next hset =>
      refine Prog.ensures_pure fun s hs => ?_
      obtain ⟨rfl, hreads⟩ := hs
      obtain rfl := foundLength_of_prefixSet hreads hset
      exact ⟨hset, hreads⟩
  · next hset =>
      have hlookup : Prog.Ensures
          (fun s => data = s.modCtx.modData.get .ipv4 ∧ Reads (foundLength .ipv4) v s)
          (nestedIterateChanges env (session.changesAt .ipv4AddressNetmask name ip)
            (interfacesInterfaceIpv4AddressGetNetmask env)) fun _ => Reads (foundLength .ipv4) (v.or
              ((session.changesAt .ipv4AddressNetmask name ip).getLast?.bind fun change =>
                netmask2prefix env.littleEndian change.nodeValue)) := by
        intro s u s' hs hrun
        obtain ⟨rfl, hreads⟩ := hs
        obtain rfl := foundLength_of_not_prefixSet hreads hset
        exact ensures_netmaskLookupChanges _ s u s' hreads hrun
      refine hlookup.bind fun _ => ensures_modDataOf.bind fun data => ?_
      split
      · next hfound =>
          refine Prog.ensures_pure fun s hs => ?_
          obtain ⟨rfl, hreads⟩ := hs
          exact ⟨hfound, hreads⟩
      · intro s _ s' _ hrun
        cases hrun

/-- A created IPv4 address is given the prefix length of its own leaf. -/
theorem ensures_createdIpv4PrefixLength :
    Prog.Ensures NoLookup (createdIpv4PrefixLength env session name ip) fun length _ =>
      session.changedPrefixLength env.littleEndian .ipv4 name ip = some length := by
  unfold createdIpv4PrefixLength
  refine (ensures_prefixLengthLookup _).bind fun _ => ?_
  refine (ensures_ipv4NetmaskLookup _).bind fun _ => ?_
  refine ensures_modDataOf.bind fun data => Prog.ensures_pure fun s hs => ?_
  obtain ⟨rfl, hset, hreads⟩ := hs
  rw [← foundLength_of_prefixSet hreads hset, Session.changedPrefixLength]
  cases (session.changesAt (.addressPrefixLength .ipv4) name ip).getLast? <;> rfl

theorem ensures_createdIpv6PrefixLength
    (h : session.changesAt (.addressPrefixLength .ipv6) name ip ≠ []) :
    Prog.Ensures NoLookup (createdIpv6PrefixLength env session name ip) fun length _ =>
      session.changedPrefixLength env.littleEndian .ipv6 name ip = some length := by
  obtain ⟨change, hlast⟩ := Option.ne_none_iff_exists'.mp (mt List.getLast?_eq_none_iff.mp h)
  unfold createdIpv6PrefixLength
  refine (ensures_prefixLengthLookup _).bind fun _ => ?_
  refine ensures_modDataOf.bind fun data => Prog.ensures_pure fun s hs => ?_
  obtain ⟨rfl, hreads⟩ := hs
  rw [hlast] at hreads
  have hset : (s.modCtx.modData.get .ipv6).prefixSet = true := by
    by_contra hset
    simp [Reads, foundLength, hset] at hreads
  rw [← foundLength_of_prefixSet hreads hset, Session.changedPrefixLength, hlast]
  rfl

theorem ensures_runningIpv4PrefixLength :
    Prog.Ensures NoLookup (runningIpv4PrefixLength env session name ip) fun length _ =>
      session.running.addressLength env.littleEndian .ipv4 name ip = some length := by
  unfold runningIpv4PrefixLength Running.addressLength
  refine (ensures_checked (fun _ _ hs => hs) _).bind fun _ => ?_
  cases session.running.prefixLength .ipv4 name ip with
  | some length => exact Prog.ensures_pure fun _ _ => rfl
  | none =>
      refine (ensures_checked (fun _ _ hs => hs) _).bind fun _ => ?_
      cases session.running.netmask name ip with
      | some netmask => exact ensures_netmaskLength.weaken (fun _ => id) fun _ _ hs => hs.1
      | none =>
          intro s _ s' _ hrun
          cases hrun

theorem ensures_runningIpv6PrefixLength :
    Prog.Ensures NoLookup (runningIpv6PrefixLength env session name ip) fun length _ =>
      session.running.addressLength env.littleEndian .ipv6 name ip = some length := by
  unfold runningIpv6PrefixLength Running.addressLength
  refine (ensures_checked (fun _ _ hs => hs) _).bind fun _ => ?_
  cases session.running.prefixLength .ipv6 name ip with
  | some length => exact Prog.ensures_pure fun _ _ => rfl
  | none =>
      intro s _ s' _ hrun
      cases hrun

/-- The lookup of the link layer address of a neighbour. -/
theorem ensures_linkLayerAddressLookup :
    Prog.Ensures NoLookup (nestedIterateChanges env
        (session.changesAt (.neighborLinkLayerAddress family) name ip)
        (neighborGetLinkLayerAddress family env)) fun _ =>
      Reads (foundAddress family) (session.changedLinkLayerAddress family name ip) := by
  have hlookup := (@ensures_nestedIterateChanges env _ _ _ _
    (@ensures_neighborGetLinkLayerAddress env family)
    (session.changesAt (.neighborLinkLayerAddress family) name ip) none).weaken
    (fun _ => reads_of_noLookup_neighbor) fun _ _ => id
  unfold Session.changedLinkLayerAddress
  cases hlast : (session.changesAt (.neighborLinkLayerAddress family) name ip).getLast? with
  | none => rwa [hlast] at hlookup
  | some change => rwa [hlast] at hlookup

theorem ensures_foundLinkLayerAddress {v : Option String} :
    Prog.Ensures (Reads (foundAddress family) v) (foundLinkLayerAddress family env) fun addr _ =>
      ∃ text, v = some text ∧ env.nlAddrParse AF_LLC text = some addr := by
  unfold foundLinkLayerAddress
  refine ensures_modDataOf.bind fun data => ?_
  cases htext : data.linkLayerAddress with
  | none =>
      intro s _ s' _ hrun
      cases hrun
  | some text =>
      refine ensures_nlAddrParse.weaken (fun _ => id) fun addr s hs => ?_
      obtain ⟨haddr, rfl, hreads⟩ := hs
      exact ⟨text, hreads.symm.trans htext, haddr⟩

end Lookup

/-! ## what the handlers ask for -/

section Handlers

variable {env : InterfacesEnv} {e : Entered} {family : IpFamily}

/-- The steps the handlers of an ip have in common: the link is looked up by the
name of the interface, and `mod_data` is cleared in the end. -/
theorem own_preamble {f : String → RtnlLink → InterfacesM Unit} {g : FamilyData → FamilyData}
    (hentry : NoLookup e.state)
    (hf : ∀ link, Keyed.lookup RtnlLink.name e.change.ifName e.state.modCtx.linkCache = some link →
      (kernel env).Asks (fun r => e.ownRequest env = some r) NoLookup (f e.change.ifName link)) :
    ∀ x ∈ (kernel env).sentBy (Prog.exitCode (-1) <| Prog.out (fun s => s.updateModData family g) do
        let name ← extractInterfaceName env e.change
        let link ← currentLink name
        f name link) e.state, e.ownRequest env = some x.1 := by
  rw [Link.sentBy_exitCode, Link.sentBy_out fun s => unchanged_updateModData env s family g]
  have hasks : (kernel env).Asks (fun r => e.ownRequest env = some r)
      (fun s => s.modCtx.linkCache = e.state.modCtx.linkCache ∧ NoLookup s) (do
        let name ← extractInterfaceName env e.change
        let link ← currentLink name
        f name link) := by
    refine Link.Asks.quiet_bind quiet_extractInterfaceName
      (ensures_extractInterfaceName fun _ _ hs => hs) fun name => Link.asks_of_fact fun hname => ?_
    subst hname
    refine Link.Asks.quiet_bind (quiet_currentLink _)
      (ensures_currentLink.weaken (fun _ => id) fun link s hs => ?_) fun link =>
        Link.asks_of_fact (hf link)
    obtain ⟨hlink, hcache, hnone⟩ := hs
    exact ⟨hcache ▸ hlink, hnone⟩
  exact hasks.of_sentBy ⟨rfl, hentry⟩

theorem own_addressChangeIp
    {created running : InterfacesEnv → Session → String → String → InterfacesM UInt8}
    (hentry : NoLookup e.state) (hleaf : e.leaf = .addressIp family)
    (hquiet : ∀ name ip, (kernel env).Quiet (created env e.session name ip))
    (hcreated : e.change.operation = .created → Prog.Ensures NoLookup
      (created env e.session e.change.ifName e.change.nodeValue) fun length _ =>
        e.session.changedPrefixLength env.littleEndian family e.change.ifName e.change.nodeValue =
          some length)
    (hquiet' : ∀ name ip, (kernel env).Quiet (running env e.session name ip))
    (hrunning : Prog.Ensures NoLookup
      (running env e.session e.change.ifName e.change.nodeValue) fun length _ =>
        e.session.running.addressLength env.littleEndian family e.change.ifName
          e.change.nodeValue = some length) :
    ∀ x ∈ (kernel env).sentBy (addressChangeIp family created running env e.session e.change)
      e.state,
      e.ownRequest env = some x.1 := by
  refine own_preamble hentry fun link hlink => ?_
  refine Link.Asks.quiet_bind (quiet_checked env _) (ensures_checked (fun _ _ hs => hs) _)
    fun _ => ?_
  refine Link.Asks.quiet_bind (quiet_checked env _) (ensures_checked (fun _ _ hs => hs) _)
    fun _ => ?_
  cases hop : e.change.operation with
  | created =>
      refine Link.Asks.quiet_bind (quiet_nlAddrParse env _ _) ensures_nlAddrParse fun addr =>
        Link.asks_of_fact fun haddr => ?_
      refine Link.Asks.quiet_bind (hquiet _ _) (hcreated hop) fun length =>
        Link.asks_of_fact_only fun hlength => ?_
      refine Link.Asks.quiet_bind (quiet_checked env _) (ensures_checked (fun _ _ hs => hs) _)
        fun _ => (sends_send env _).asks ?_
      simp [Entered.ownRequest, hlink, hleaf, hop, haddr, hlength]
  | modified => exact Link.Quiet.asks Prog.within_fail
  | deleted =>
      refine Link.Asks.quiet_bind (hquiet' _ _) hrunning fun length =>
        Link.asks_of_fact_only fun hlength => ?_
      refine Link.Asks.quiet_bind (quiet_nlAddrParse env _ _) ensures_nlAddrParse fun addr =>
        Link.asks_of_fact fun haddr => ?_
      refine Link.Asks.quiet_bind (quiet_checked env _) (ensures_checked (fun _ _ hs => hs) _)
        fun _ => (sends_send env _).asks ?_
      simp only [Entered.ownRequest, hlink, hleaf, hop, hlength, haddr, Option.bind_eq_bind,
        Option.bind_some]
  | moved => exact Link.Quiet.asks (Prog.within_pure _)

theorem own_neighborChangeIp (hentry : NoLookup e.state) (hleaf : e.leaf = .neighborIp family) :
    ∀ x ∈ (kernel env).sentBy (neighborChangeIp family env e.session e.change) e.state,
      e.ownRequest env = some x.1 := by
  refine own_preamble hentry fun link hlink => ?_
  cases hop : e.change.operation with
  | created =>
      refine Link.Asks.quiet_bind (quiet_nlAddrParse env _ _) ensures_nlAddrParse fun dst =>
        Link.asks_of_fact fun hdst => ?_
      refine Link.Asks.quiet_bind (quiet_nestedIterateChanges fun _ =>
        quiet_neighborGetLinkLayerAddress) ensures_linkLayerAddressLookup fun _ => ?_
      refine Link.Asks.quiet_bind quiet_foundLinkLayerAddress ensures_foundLinkLayerAddress
        fun lladdr => Link.asks_of_fact_only fun hfound => ?_
      obtain ⟨text, htext, hlladdr⟩ := hfound
      refine Link.Asks.quiet_bind (quiet_checked env _) (ensures_checked (fun _ _ hs => hs) _)
        fun _ => (sends_send env _).asks ?_
      simp [Entered.ownRequest, hlink, hleaf, hop, hdst, htext, hlladdr]
  | modified => exact Link.Quiet.asks Prog.within_fail
  | deleted =>
      refine Link.Asks.quiet_bind (quiet_nlAddrParse env _ _) ensures_nlAddrParse fun dst =>
        Link.asks_of_fact fun hdst => ?_
      refine Link.Asks.quiet_bind (quiet_checked env _) (ensures_checked (fun _ _ hs => hs) _)
        fun _ => (sends_send env _).asks ?_
      simp [Entered.ownRequest, hlink, hleaf, hop, hdst]
  | moved => exact Link.Quiet.asks (Prog.within_pure _)

/-- The handler of an ip asks for its own request only. -/
theorem own_ipHandler (hentry : NoLookup e.state) (hip : e.leaf.isIp = true)
    (hmandatory : e.MandatoryLeaves) : ∀ x ∈ e.sent env, e.ownRequest env = some x.1 := by
  unfold Entered.sent
  cases hleaf : e.leaf with
  | addressIp family =>
      cases family with
      | ipv4 =>
          exact own_addressChangeIp hentry hleaf (fun _ _ => quiet_createdIpv4PrefixLength)
            (fun _ => ensures_createdIpv4PrefixLength) (fun _ _ => quiet_runningIpv4PrefixLength)
            ensures_runningIpv4PrefixLength
      | ipv6 =>
          have hcreated : e.change.operation = .created →
              e.session.changesAt (.addressPrefixLength .ipv6) e.change.ifName
                e.change.nodeValue ≠ [] := by
            intro hop
            have hleaves := hmandatory hop
            rwa [hleaf] at hleaves
          exact own_addressChangeIp hentry hleaf (fun _ _ => quiet_createdIpv6PrefixLength)
            (fun hop => ensures_createdIpv6PrefixLength (hcreated hop))
            (fun _ _ => quiet_runningIpv6PrefixLength) ensures_runningIpv6PrefixLength
  | neighborIp family => cases family <;> exact own_neighborChangeIp hentry hleaf
  | _ => simp [hleaf, Leaf.isIp] at hip

end Handlers

/-- In a run on the context of a started plugin every request is sent by a
handler that is entered with `mod_data` cleared, and the handler of an ip asks
for its own request only. -/
theorem nestedLookups_own (env : InterfacesEnv) (steps : List CtxStep) (k : Kernel) :
    ((forM steps (CtxStep.perform env)).run { kernel := k }).2.sent =
        (entered env steps { kernel := k }).flatMap (Entered.sent env) ∧
      ∀ e ∈ entered env steps { kernel := k }, NoLookup e.state ∧
        (e.leaf.isIp = true → e.MandatoryLeaves →
          ∀ x ∈ e.sent env, e.ownRequest env = some x.1) := by
  have hstart : NoLookup { kernel := k } := rfl
  constructor
  · exact sentBy_steps steps { kernel := k }
  · intro e he
    have hentry := noLookup_of_mem_entered hstart he
    exact ⟨hentry, own_ipHandler hentry⟩

/-- An address is created with its prefix length. -/
def createdAddress : Session where
  changes := [
    { operation := .created, leaf := .addressIp .ipv4, ifName := "eth0", ip := "198.51.100.1",
      nodeValue := "198.51.100.1" },
    { operation := .created, leaf := .addressPrefixLength .ipv4, ifName := "eth0",
      ip := "198.51.100.1", nodeValue := "24" }]

/-- The handlers entered for it. -/
def createdAddressEntered : List Entered :=
  entered sampleEnv [.event createdAddress .change] { kernel := sampleKernel }

/-- The first of them is the one of the ip. -/
def createdIp : Entered := createdAddressEntered.get ⟨0, by decide⟩

theorem nestedLookups_own_createdIp :
    createdIp.sent sampleEnv ≠ [] ∧ NoLookup createdIp.state ∧
      ∀ x ∈ createdIp.sent sampleEnv, createdIp.ownRequest sampleEnv = some x.1 := by
  have hmem : createdIp ∈ createdAddressEntered := List.get_mem ..
  obtain ⟨hentry, hown⟩ :=
    (nestedLookups_own sampleEnv [.event createdAddress .change] sampleKernel).2 createdIp hmem
  exact ⟨by decide, hentry, hown (by decide) fun _ => .inl (by decide)⟩

end SysrepoInterfaces.Interfaces
