import SysrepoInterfaces.Interfaces.Change
import SysrepoInterfaces.Lib.Requests

/-!
# SysrepoInterfaces.Interfaces.Quiet

The kernel behind the state of the interfaces plugin, and the functions of the
change handlers that send it nothing, with what they return.
-/

namespace SysrepoInterfaces.Interfaces

open CProg Requests

/-! ## the kernel behind the state -/

/-- The kernel, changed by the requests it accepts. -/
def kernel (env : InterfacesEnv) : Link InterfacesState Request Kernel where
  server := InterfacesState.kernel
  log := InterfacesState.sent
  apply := env.carryOut

theorem sends_send (env : InterfacesEnv) (r : Request) : (kernel env).Sends (send env r) r := by
  intro s
  refine ⟨env.answer s.sent.length, _, run_send env r s, rfl, ?_⟩
  by_cases h : env.answer s.sent.length = 0 <;> simp [h, kernel, accepted]

theorem unchanged_setModCtx (env : InterfacesEnv) (s : InterfacesState) (ctx : ModCtx) :
    (kernel env).Unchanged s (s.setModCtx ctx) := ⟨rfl, rfl⟩

theorem unchanged_updateModData (env : InterfacesEnv) (s : InterfacesState) (family : IpFamily)
    (f : FamilyData → FamilyData) : (kernel env).Unchanged s (s.updateModData family f) :=
    ⟨rfl, rfl⟩

/-! ## functions that only make calls -/

/-- Nothing changes but the number of calls made. -/
def CallsOnly (s s' : InterfacesState) : Prop := ∃ n, s' = { s with calls := n }

instance : IsPreorder InterfacesState CallsOnly where
  refl s := ⟨s.calls, rfl⟩
  trans _ _ _ h h' := by
    obtain ⟨_, rfl⟩ := h
    obtain ⟨n, rfl⟩ := h'
    exact ⟨n, rfl⟩

/-- A function that changes nothing else. -/
def MakesCalls {α : Type} (p : InterfacesM α) : Prop := Prog.Within CallsOnly p

theorem MakesCalls.quiet {α : Type} {p : InterfacesM α} (h : MakesCalls p) :
    (kernel env).Quiet p := by
  refine Prog.Within.mono h fun s s' hcalls => ?_
  obtain ⟨n, rfl⟩ := hcalls
  exact ⟨rfl, rfl⟩

section MakesCalls

variable {env : InterfacesEnv} {session : Session} {change : Change} {family : IpFamily}

theorem makesCalls_checked (c : Call) : MakesCalls (checked env c) := by
  intro s
  rw [run_checked]
  exact ⟨_, rfl⟩

theorem makesCalls_nlAddrParse (f : Nat) (text : String) :
    MakesCalls (nlAddrParse env f text) := by
  rw [nlAddrParse]
  split
  · exact Prog.within_pure _
  · exact Prog.within_fail

theorem makesCalls_rtnlLinkGetByName (name : String) : MakesCalls (rtnlLinkGetByName name) :=
  Prog.within_bind Prog.within_get fun _ => Prog.within_pure _

theorem makesCalls_currentLink (name : String) : MakesCalls (currentLink name) := by
  intro s
  rw [run_currentLink]
  exact refl_of CallsOnly s

theorem makesCalls_netmaskLength (netmask : String) :
    MakesCalls (netmaskLength env netmask) := by
  rw [netmaskLength]
  split
  · exact Prog.within_pure _
  · exact Prog.within_fail

theorem makesCalls_firstAddr : MakesCalls firstAddr := by
  refine Prog.within_bind Prog.within_get fun s => ?_
  split
  · exact Prog.within_fail
  · exact Prog.within_pure _

theorem makesCalls_interfacecsInterfaceExtractName :
    MakesCalls (interfacecsInterfaceExtractName env change) :=
  Prog.within_bind (makesCalls_checked _) fun _ =>
    Prog.within_bind (makesCalls_checked _) fun _ => Prog.within_pure _

theorem makesCalls_extractInterfaceName : MakesCalls (extractInterfaceName env change) :=
  Prog.within_bind (makesCalls_checked _) fun _ =>
    Prog.within_bind (makesCalls_checked _) fun _ => Prog.within_pure _

theorem makesCalls_extractIp : MakesCalls (extractIp env change) :=
  Prog.within_bind (makesCalls_checked _) fun _ => Prog.within_pure _

theorem makesCalls_modDataOf : MakesCalls (modDataOf family) :=
  Prog.within_bind Prog.within_get fun _ => Prog.within_pure _

theorem makesCalls_foundLinkLayerAddress : MakesCalls (foundLinkLayerAddress family env) := by
  refine Prog.within_bind makesCalls_modDataOf fun data => ?_
  split
  · exact makesCalls_nlAddrParse _ _
  · exact Prog.within_lift _

theorem makesCalls_runningIpv4PrefixLength (name ip : String) :
    MakesCalls (runningIpv4PrefixLength env session name ip) := by
  refine Prog.within_bind (makesCalls_checked _) fun _ => ?_
  split
  · exact Prog.within_pure _
  · refine Prog.within_bind (makesCalls_checked _) fun _ => ?_
    split
    · exact makesCalls_netmaskLength _
    · exact Prog.within_fail

theorem makesCalls_runningIpv6PrefixLength (name ip : String) :
    MakesCalls (runningIpv6PrefixLength env session name ip) := by
  refine Prog.within_bind (makesCalls_checked _) fun _ => ?_
  split
  · exact Prog.within_pure _
  · exact Prog.within_fail

end MakesCalls

theorem quiet_checked (env : InterfacesEnv) (c : Call) : (kernel env).Quiet (checked env c) :=
  (makesCalls_checked c).quiet

theorem quiet_nlAddrParse (env : InterfacesEnv) (family : Nat) (text : String) :
    (kernel env).Quiet (nlAddrParse env family text) := (makesCalls_nlAddrParse family text).quiet

theorem quiet_rtnlLinkGetByName (name : String) : (kernel env).Quiet (rtnlLinkGetByName name) :=
  (makesCalls_rtnlLinkGetByName name).quiet

theorem quiet_currentLink (name : String) : (kernel env).Quiet (currentLink name) :=
  (makesCalls_currentLink name).quiet

theorem quiet_netmaskLength (env : InterfacesEnv) (netmask : String) :
    (kernel env).Quiet (netmaskLength env netmask) := (makesCalls_netmaskLength netmask).quiet

theorem quiet_firstAddr : (kernel env).Quiet firstAddr := makesCalls_firstAddr.quiet

theorem quiet_interfacesChangeInterfaceInit (env : InterfacesEnv) :
    (kernel env).Quiet (interfacesChangeInterfaceInit env) := by
  refine Prog.within_exitCode _ ?_
  refine Prog.within_bind (quiet_checked env _) fun _ => ?_
  refine Prog.within_bind (quiet_checked env _) fun _ => ?_
  refine Prog.within_bind (quiet_checked env _) fun _ => ?_
  refine Prog.within_bind (Prog.within_modify fun s => unchanged_setModCtx env s _) fun _ => ?_
  refine Prog.within_bind (quiet_checked env _) fun _ => ?_
  exact Prog.within_modify fun s => unchanged_setModCtx env s _

/-! ## the names out of a path -/

section Extract

variable {env : InterfacesEnv} {change : Change}

theorem quiet_interfacecsInterfaceExtractName :
    (kernel env).Quiet (interfacecsInterfaceExtractName env change) :=
  makesCalls_interfacecsInterfaceExtractName.quiet

theorem quiet_extractInterfaceName : (kernel env).Quiet (extractInterfaceName env change) :=
  makesCalls_extractInterfaceName.quiet

theorem quiet_extractIp : (kernel env).Quiet (extractIp env change) := makesCalls_extractIp.quiet

end Extract

/-! ## the nested lookups -/

section Nested

variable {env : InterfacesEnv} {session : Session} {change : Change} {family : IpFamily}
  {name ip : String}

theorem quiet_updateModData {f : FamilyData → FamilyData} :
    (kernel env).Quiet (Prog.modify fun s => s.updateModData family f) :=
  Prog.within_modify fun s => unchanged_updateModData env s family f

theorem quiet_modDataOf : (kernel env).Quiet (modDataOf family) := makesCalls_modDataOf.quiet

theorem quiet_nestedIterateChanges {changes : List Change} {handler : Change → InterfacesM Int}
    (h : ∀ change, (kernel env).Quiet (handler change)) :
    (kernel env).Quiet (nestedIterateChanges env changes handler) := by
  refine Prog.within_require (Prog.within_exitCode _ (Prog.within_out ?_ ?_))
  · exact fun s => refl_of (kernel env).Unchanged s
  · refine Prog.within_bind (Prog.within_require (Prog.within_pure _)) fun _ => ?_
    refine Prog.within_bind (quiet_checked env _) fun _ => ?_
    exact Prog.within_forM (fun change => Prog.within_require (h change)) _

theorem quiet_addressGetPrefixLength :
    (kernel env).Quiet (addressGetPrefixLength family change) := by
  rw [addressGetPrefixLength]
  split
  · exact Prog.within_bind quiet_updateModData fun _ => Prog.within_pure _
  · exact Prog.within_lift _
  · exact Prog.within_lift _
  · exact Prog.within_lift _

theorem quiet_ipv4AddressGetNetmask :
    (kernel env).Quiet (interfacesInterfaceIpv4AddressGetNetmask env change) := by
  rw [interfacesInterfaceIpv4AddressGetNetmask]
  split
  · split
    · exact Prog.within_bind quiet_updateModData fun _ => Prog.within_pure _
    · exact Prog.within_bind quiet_updateModData fun _ => Prog.within_pure _
  · exact Prog.within_lift _
  · exact Prog.within_lift _
  · exact Prog.within_lift _

theorem quiet_neighborGetLinkLayerAddress :
    (kernel env).Quiet (neighborGetLinkLayerAddress family env change) := by
  rw [neighborGetLinkLayerAddress]
  split
  · refine Prog.within_exitCode _ ?_
    exact Prog.within_bind (quiet_checked env _) fun _ => quiet_updateModData
  · exact Prog.within_lift _
  · exact Prog.within_lift _
  · exact Prog.within_lift _

theorem quiet_ipv4NetmaskLookup : (kernel env).Quiet (ipv4NetmaskLookup env session name ip) := by
  refine Prog.within_bind quiet_modDataOf fun data => ?_
  split
  · exact Prog.within_pure _
  · refine Prog.within_bind (quiet_nestedIterateChanges fun _ =>
      quiet_ipv4AddressGetNetmask) fun _ => ?_
    refine Prog.within_bind quiet_modDataOf fun data => ?_
    split
    · exact Prog.within_pure _
    · exact Prog.within_fail

theorem quiet_createdIpv4PrefixLength :
    (kernel env).Quiet (createdIpv4PrefixLength env session name ip) := by
  refine Prog.within_bind (quiet_nestedIterateChanges fun _ =>
    quiet_addressGetPrefixLength) fun _ => ?_
  refine Prog.within_bind quiet_ipv4NetmaskLookup fun _ => ?_
  exact Prog.within_bind quiet_modDataOf fun _ => Prog.within_pure _

theorem quiet_createdIpv6PrefixLength :
    (kernel env).Quiet (createdIpv6PrefixLength env session name ip) := by
  refine Prog.within_bind (quiet_nestedIterateChanges fun _ =>
    quiet_addressGetPrefixLength) fun _ => ?_
  exact Prog.within_bind quiet_modDataOf fun _ => Prog.within_pure _

theorem quiet_runningIpv4PrefixLength :
    (kernel env).Quiet (runningIpv4PrefixLength env session name ip) :=
  (makesCalls_runningIpv4PrefixLength name ip).quiet

theorem quiet_runningIpv6PrefixLength :
    (kernel env).Quiet (runningIpv6PrefixLength env session name ip) :=
  (makesCalls_runningIpv6PrefixLength name ip).quiet

theorem quiet_foundLinkLayerAddress : (kernel env).Quiet (foundLinkLayerAddress family env) :=
  makesCalls_foundLinkLayerAddress.quiet

end Nested

end SysrepoInterfaces.Interfaces
