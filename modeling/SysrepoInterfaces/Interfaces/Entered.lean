import SysrepoInterfaces.Interfaces.Quiet
import SysrepoInterfaces.Lib.Rounds

/-!
# SysrepoInterfaces.Interfaces.Entered

Runs of the plugin on one context: change events and single handlers one after
the other, with what fails in between, and the states in which handlers are
entered.  The nested lookups leave what they find in `mod_ctx.mod_data`, which
is cleared again before the next handler.
-/

namespace SysrepoInterfaces.Interfaces

open CProg Requests

/-! ## runs on one context -/

/-- What happens while the plugin has its context. -/
inductive CtxStep where
  | event (session : Session) (srEvent : SrEvent)
  | handler (session : Session) (change : Change) (leaf : Leaf)
  /-- the kernel is changed by others -/
  | others (k : Kernel)

/-- What a callback or a handler returns is for its caller; the next step
follows in any case. -/
def CtxStep.perform (env : InterfacesEnv) : CtxStep → InterfacesM Unit
  | .event session srEvent => do
      let _ ← interfacesSubscriptionChangeInterfacesInterface env session srEvent
      return ()
  | .handler session change leaf => do
      let _ ← changeHandler env session change leaf
      return ()
  | .others k => Prog.modify fun s => { s with kernel := k }

/-- A handler that is entered, with the state in which it is. -/
structure Entered where
  session : Session
  change : Change
  leaf : Leaf
  state : InterfacesState

/-- The requests it sends. -/
def Entered.sent (env : InterfacesEnv) (e : Entered) : List (Request × Int) :=
  (kernel env).sentBy (changeHandler env e.session e.change e.leaf) e.state

/-- The changes an iteration comes to. -/
def iterateRounds (env : InterfacesEnv) (changes : List Change)
    (handler : Change → InterfacesM Int) (init : InterfacesM Int) (s : InterfacesState) :
    List (Change × InterfacesState) :=
  match (do init.require; checked env .srGetChangesIter).run s with
  | (.ok _, s') => Prog.rounds (fun change => (handler change).require) changes s'
  | (.error, _) => []
  | (.crash, _) => []

def phaseEntered (env : InterfacesEnv) (session : Session) (leaf : Leaf) (s : InterfacesState) :
    List Entered :=
  (iterateRounds env (session.changesOf leaf) (fun change => changeHandler env session change leaf)
    (interfacesChangeInterfaceInit env) s).map fun x =>
      { session, change := x.1, leaf, state := x.2 }

def eventEntered (env : InterfacesEnv) (session : Session) (s : InterfacesState) :
    SrEvent → List Entered
  | .change => (Prog.rounds (fun leaf => (phase env session leaf).require) phases s).flatMap
      fun x => phaseEntered env session x.1 x.2
  | .abort | .done | .other => []

def CtxStep.entered (env : InterfacesEnv) (s : InterfacesState) : CtxStep → List Entered
  | .event session srEvent => eventEntered env session s srEvent
  | .handler session change leaf => [{ session, change, leaf, state := s }]
  | .others _ => []

/-- The handlers entered in a run, in order. -/
def entered (env : InterfacesEnv) (steps : List CtxStep) (s : InterfacesState) : List Entered :=
  (Prog.rounds (CtxStep.perform env) steps s).flatMap fun x => x.1.entered env x.2

/-! ## what is kept -/

/-- The context, with `mod_data` cleared in part. -/
def ModCtx.cleared (ctx : ModCtx) (clear : ModData → ModData) : ModCtx :=
  { ctx with modData := clear ctx.modData }

/-- The log grows, and of the context all that `clear` leaves is kept. -/
def Keeps (clear : ModData → ModData) (s s' : InterfacesState) : Prop :=
  s.sent <+: s'.sent ∧ s'.modCtx.cleared clear = s.modCtx.cleared clear

instance (clear : ModData → ModData) : IsPreorder InterfacesState (Keeps clear) where
  refl _ := ⟨List.prefix_refl _, rfl⟩
  trans _ _ _ h h' := ⟨h.1.trans h'.1, h'.2.trans h.2⟩

/-- What the handler of an address clears. -/
def clearAddress (family : IpFamily) (data : ModData) : ModData :=
  data.update (fun d => { d with prefixLength := 0, prefixSet := false }) family

/-- What the handler of a neighbour clears. -/
def clearNeighbor (family : IpFamily) (data : ModData) : ModData :=
  data.update (fun d => { d with linkLayerAddress := none }) family

theorem ModData.update_update (data : ModData) (f g : FamilyData → FamilyData)
    (family : IpFamily) : (data.update f family).update g family = data.update (g ∘ f) family := by
  cases family <;> rfl

section Keeps

variable {env : InterfacesEnv} {session : Session} {change : Change} {family : IpFamily}
  {clear : ModData → ModData} {s s' : InterfacesState}

theorem MakesCalls.keeps {α : Type} {p : InterfacesM α} (h : MakesCalls p) :
    Prog.Within (Keeps clear) p := by
  refine Prog.Within.mono h fun s s' hcalls => ?_
  obtain ⟨n, rfl⟩ := hcalls
  exact ⟨List.prefix_refl _, rfl⟩

theorem keeps_checked (c : Call) : Prog.Within (Keeps clear) (checked env c) :=
  (makesCalls_checked c).keeps

theorem keeps_request (r : Request) : Prog.Within (Keeps clear) (request env r) := by
  refine Prog.within_require fun s => ?_
  rw [run_send]
  exact ⟨List.prefix_append .., rfl⟩

theorem keeps_nlAddrParse (f : Nat) (text : String) :
    Prog.Within (Keeps clear) (nlAddrParse env f text) := (makesCalls_nlAddrParse f text).keeps

theorem keeps_currentLink (name : String) : Prog.Within (Keeps clear) (currentLink name) :=
  (makesCalls_currentLink name).keeps

theorem keeps_extractInterfaceName : Prog.Within (Keeps clear) (extractInterfaceName env change) :=
  makesCalls_extractInterfaceName.keeps

/-- A write that `clear` takes back. -/
theorem keeps_updateModData {f : FamilyData → FamilyData}
    (h : ∀ data : ModData, clear (data.update f family) = clear data) :
    Prog.Within (Keeps clear) (Prog.modify fun s => s.updateModData family f) :=
  Prog.within_modify fun s => ⟨List.prefix_refl _, congrArg (ModCtx.mk _ _) (h s.modCtx.modData)⟩

/-! ## handlers without lookups -/

theorem keeps_changeName :
    Prog.Within (Keeps clear) (interfacesInterfaceChangeName env change) := by
  refine Prog.within_exitCode _ ?_
  cases change.operation with
  | created =>
      refine Prog.within_bind (makesCalls_rtnlLinkGetByName _).keeps fun link => ?_
      cases link with
      | none =>
          refine Prog.within_bind (keeps_checked _) fun _ => ?_
          exact Prog.within_bind (keeps_checked _) fun _ => keeps_request _
      | some _ => exact Prog.within_pure _
  | modified => exact Prog.within_fail
  | deleted => exact Prog.within_bind (keeps_currentLink _) fun _ => keeps_request _
  | moved => exact Prog.within_pure _

theorem keeps_changeType :
    Prog.Within (Keeps clear) (interfacesInterfaceChangeType env change) := by
  have hlink : Prog.Within (Keeps clear) (changeLinkType env change) := by
    refine Prog.within_bind makesCalls_interfacecsInterfaceExtractName.keeps fun _ => ?_
    refine Prog.within_bind (keeps_currentLink _) fun _ => ?_
    refine Prog.within_bind (keeps_checked _) fun _ => ?_
    split
    · exact keeps_request _
    · exact Prog.within_fail
  refine Prog.within_exitCode _ ?_
  cases change.operation with
  | created => exact hlink
  | modified => exact hlink
  | deleted => exact Prog.within_pure _
  | moved => exact Prog.within_pure _

theorem keeps_changeEnabled :
    Prog.Within (Keeps clear) (interfacesInterfaceChangeEnabled env change) := by
  have hset : ∀ name, Prog.Within (Keeps clear) (changeLinkEnabled env change name) := fun name =>
    Prog.within_bind (keeps_currentLink name) fun _ =>
      Prog.within_bind (keeps_checked _) fun _ => keeps_request _
  have hreset : ∀ name, Prog.Within (Keeps clear) (resetLinkEnabled env name) := by
    intro name
    refine Prog.within_bind (makesCalls_rtnlLinkGetByName name).keeps fun link => ?_
    cases link with
    | none => exact Prog.within_pure _
    | some _ => exact Prog.within_bind (keeps_checked _) fun _ => keeps_request _
  refine Prog.within_exitCode _ ?_
  refine Prog.within_bind makesCalls_interfacecsInterfaceExtractName.keeps fun name => ?_
  cases change.operation with
  | created => exact hset name
  | modified => exact hset name
  | deleted => exact hreset name
  | moved => exact Prog.within_pure _

theorem keeps_ipv4ChangeMtu :
    Prog.Within (Keeps clear) (interfacesInterfaceIpv4ChangeMtu env change) := by
  refine Prog.within_exitCode _ ?_
  refine Prog.within_bind keeps_extractInterfaceName fun _ => ?_
  refine Prog.within_bind (keeps_currentLink _) fun _ => ?_
  exact Prog.within_bind (keeps_checked _) fun _ => keeps_request _

theorem keeps_ipv4ChangeEnabled :
    Prog.Within (Keeps clear) (interfacesInterfaceIpv4ChangeEnabled env change) := by
  refine Prog.within_status _ ?_
  refine Prog.within_bind keeps_extractInterfaceName fun _ => ?_
  refine Prog.within_bind (keeps_currentLink _) fun _ => ?_
  refine Prog.within_bind makesCalls_firstAddr.keeps fun _ => ?_
  refine Prog.within_bind (keeps_checked _) fun _ => Prog.within_bind (keeps_checked _) fun _ => ?_
  split
  · split <;> exact Prog.within_pure _
  · split <;> exact Prog.within_pure _
  · exact Prog.within_pure _
  · exact Prog.within_pure _

theorem keeps_replaceAddress (f : Nat) (link : RtnlLink) (address oldAddress : String) :
    Prog.Within (Keeps clear) (replaceAddress env f link address oldAddress) := by
  refine Prog.within_bind (keeps_nlAddrParse _ _) fun _ => ?_
  refine Prog.within_bind (keeps_nlAddrParse _ _) fun _ => ?_
  refine Prog.within_bind (keeps_checked _) fun _ => Prog.within_bind (keeps_checked _) fun _ => ?_
  exact Prog.within_bind (keeps_request _) fun _ => keeps_request _

/-- The beginning that the handlers of a leaf of an address or of a neighbour
have in common. -/
theorem keeps_preamble_ip {f : String → RtnlLink → InterfacesM Unit}
    (hf : ∀ ip link, Prog.Within (Keeps clear) (f ip link)) : Prog.Within (Keeps clear) (do
      let name ← extractInterfaceName env change
      let ip ← extractIp env change
      let link ← currentLink name
      f ip link) :=
  Prog.within_bind keeps_extractInterfaceName fun _ =>
    Prog.within_bind makesCalls_extractIp.keeps fun _ =>
      Prog.within_bind (keeps_currentLink _) fun _ => hf _ _

theorem keeps_addressChangePrefixLength :
    Prog.Within (Keeps clear) (addressChangePrefixLength family env change) := by
  refine Prog.within_exitCode _ (keeps_preamble_ip fun ip link => ?_)
  cases change.operation with
  | modified => exact keeps_replaceAddress _ _ _ _
  | created => exact Prog.within_pure _
  | deleted => exact Prog.within_pure _
  | moved => exact Prog.within_pure _

theorem keeps_ipv4AddressChangeNetmask :
    Prog.Within (Keeps clear) (interfacesInterfaceIpv4AddressChangeNetmask env change) := by
  refine Prog.within_exitCode _ (keeps_preamble_ip fun ip link => ?_)
  cases change.operation with
  | modified =>
      refine Prog.within_bind (makesCalls_netmaskLength _).keeps fun _ => ?_
      refine Prog.within_bind (makesCalls_netmaskLength _).keeps fun _ => ?_
      exact keeps_replaceAddress _ _ _ _
  | created => exact Prog.within_pure _
  | deleted => exact Prog.within_pure _
  | moved => exact Prog.within_pure _

theorem keeps_neighborChangeLinkLayerAddress :
    Prog.Within (Keeps clear) (neighborChangeLinkLayerAddress family env change) := by
  refine Prog.within_exitCode _ (keeps_preamble_ip fun ip link => ?_)
  cases change.operation with
  | modified =>
      refine Prog.within_bind (keeps_nlAddrParse _ _) fun _ => ?_
      refine Prog.within_bind (keeps_nlAddrParse _ _) fun _ => ?_
      exact Prog.within_bind (keeps_checked _) fun _ => keeps_request _
  | created => exact Prog.within_pure _
  | deleted => exact Prog.within_pure _
  | moved => exact Prog.within_pure _

/-! ## handlers with lookups -/

theorem keeps_nestedIterateChanges {changes : List Change} {handler : Change → InterfacesM Int}
    (h : ∀ change, Prog.Within (Keeps clear) (handler change)) :
    Prog.Within (Keeps clear) (nestedIterateChanges env changes handler) := by
  refine Prog.within_require (Prog.within_exitCode _ (Prog.within_out ?_ ?_))
  · exact fun s => refl_of (Keeps clear) s
  · refine Prog.within_bind (Prog.within_require (Prog.within_pure _)) fun _ => ?_
    refine Prog.within_bind (keeps_checked _) fun _ => ?_
    exact Prog.within_forM (fun change => Prog.within_require (h change)) _

theorem keeps_addressGetPrefixLength : Prog.Within (Keeps (clearAddress family))
    (addressGetPrefixLength family change) := by
  unfold addressGetPrefixLength
  split
  · refine Prog.within_bind (keeps_updateModData fun data => ?_) fun _ => Prog.within_pure _
    rw [clearAddress, ModData.update_update]
    rfl
  · exact Prog.within_lift _
  · exact Prog.within_lift _
  · exact Prog.within_lift _

theorem keeps_ipv4AddressGetNetmask : Prog.Within (Keeps (clearAddress .ipv4))
    (interfacesInterfaceIpv4AddressGetNetmask env change) := by
  unfold interfacesInterfaceIpv4AddressGetNetmask
  split
  · split
    · exact Prog.within_bind (keeps_updateModData fun _ => rfl) fun _ => Prog.within_pure _
    · exact Prog.within_bind (keeps_updateModData fun _ => rfl) fun _ => Prog.within_pure _
  · exact Prog.within_lift _
  · exact Prog.within_lift _
  · exact Prog.within_lift _

theorem keeps_neighborGetLinkLayerAddress : Prog.Within (Keeps (clearNeighbor family))
    (neighborGetLinkLayerAddress family env change) := by
  unfold neighborGetLinkLayerAddress
  split
  · refine Prog.within_exitCode _ (Prog.within_bind (keeps_checked _) fun _ => ?_)
    refine keeps_updateModData fun data => ?_
    rw [clearNeighbor, ModData.update_update]
    rfl
  · exact Prog.within_lift _
  · exact Prog.within_lift _
  · exact Prog.within_lift _

theorem keeps_createdIpv4PrefixLength (name ip : String) :
    Prog.Within (Keeps (clearAddress .ipv4)) (createdIpv4PrefixLength env session name ip) := by
  refine Prog.within_bind (keeps_nestedIterateChanges fun _ =>
    keeps_addressGetPrefixLength) fun _ => ?_
  refine Prog.within_bind ?_ fun _ =>
    Prog.within_bind makesCalls_modDataOf.keeps fun _ => Prog.within_pure _
  refine Prog.within_bind makesCalls_modDataOf.keeps fun _ => ?_
  split
  · exact Prog.within_pure _
  · refine Prog.within_bind (keeps_nestedIterateChanges fun _ =>
      keeps_ipv4AddressGetNetmask) fun _ => ?_
    refine Prog.within_bind makesCalls_modDataOf.keeps fun _ => ?_
    split
    · exact Prog.within_pure _
    · exact Prog.within_fail

theorem keeps_createdIpv6PrefixLength (name ip : String) :
    Prog.Within (Keeps (clearAddress .ipv6)) (createdIpv6PrefixLength env session name ip) := by
  refine Prog.within_bind (keeps_nestedIterateChanges fun _ =>
    keeps_addressGetPrefixLength) fun _ => ?_
  exact Prog.within_bind makesCalls_modDataOf.keeps fun _ => Prog.within_pure _

/-! ## no handler leaves anything -/

/-- No lookup has left anything. -/
def NoLookup (s : InterfacesState) : Prop := s.modCtx.modData = {}

/-- A function that takes nothing out of the log, and leaves nothing of its
lookups. -/
structure LookupFree {α : Type} (env : InterfacesEnv) (p : InterfacesM α) : Prop where
  appends : (kernel env).Appends p
  preserves : Prog.Preserves NoLookup p

/-- The caches of a phase stay as they are. -/
def SameCaches (s s' : InterfacesState) : Prop :=
  s'.modCtx.linkCache = s.modCtx.linkCache ∧ s'.modCtx.addrCache = s.modCtx.addrCache

instance : IsPreorder InterfacesState SameCaches where
  refl _ := ⟨rfl, rfl⟩
  trans _ _ _ h h' := ⟨h'.1.trans h.1, h'.2.trans h.2⟩

/-- A function that leaves the caches as well. -/
structure KeepsContext {α : Type} (env : InterfacesEnv) (p : InterfacesM α) : Prop extends
    LookupFree env p where
  caches : Prog.Within SameCaches p

theorem Keeps.caches (h : Keeps clear s s') : SameCaches s s' := by
  have hctx := h.2
  simp only [ModCtx.cleared, ModCtx.mk.injEq] at hctx
  exact ⟨hctx.1, hctx.2.1⟩

theorem Keeps.modData (h : Keeps clear s s') :
    clear s'.modCtx.modData = clear s.modCtx.modData := by
  have hctx := h.2
  simp only [ModCtx.cleared, ModCtx.mk.injEq] at hctx
  exact hctx.2.2

theorem preserves_of_keeps {α : Type} {p : InterfacesM α} (h : Prog.Within (Keeps id) p) :
    Prog.Preserves NoLookup p :=
  Prog.preserves_of_within h fun _ _ hs hkeeps => hkeeps.modData.trans hs

theorem keepsContext_of_keeps {α : Type} {p : InterfacesM α} (h : Prog.Within (Keeps id) p) :
    KeepsContext env p where
  appends := h.mono fun _ _ hkeeps => hkeeps.1
  preserves := preserves_of_keeps h
  caches := h.mono fun _ _ => Keeps.caches

/-- On its way out the handler clears what its lookups have left. -/
theorem keepsContext_exitCode_out {p : InterfacesM Unit} {f : FamilyData → FamilyData}
    (h : Prog.Within (Keeps fun data => data.update f family) p)
    (hf : ({} : ModData).update f family = {}) :
    KeepsContext env (Prog.exitCode (-1) (Prog.out (fun s => s.updateModData family f) p)) where
  appends := by
    have hbody : (kernel env).Appends p := h.mono fun _ _ hkeeps => hkeeps.1
    exact Prog.within_exitCode _ (Prog.within_out (fun s => List.prefix_refl _) hbody)
  preserves := by
    refine Prog.Preserves.exitCode _ (Prog.preserves_out h fun s s' hs hkeeps => ?_)
    have hclear : s'.modCtx.modData.update f family = s.modCtx.modData.update f family :=
      hkeeps.modData
    rw [show s.modCtx.modData = {} from hs, hf] at hclear
    exact hclear
  caches := by
    have hbody : Prog.Within SameCaches p := h.mono fun _ _ => Keeps.caches
    exact Prog.within_exitCode _ (Prog.within_out (fun s => ⟨rfl, rfl⟩) hbody)

theorem keepsContext_addressChangeIp
    {created running : InterfacesEnv → Session → String → String → InterfacesM UInt8}
    (hcreated : ∀ name ip,
      Prog.Within (Keeps (clearAddress family)) (created env session name ip))
    (hrunning : ∀ name ip,
      Prog.Within (Keeps (clearAddress family)) (running env session name ip)) :
    KeepsContext env (addressChangeIp family created running env session change) := by
  have hdefault : ({} : ModData).update
      (fun d => { d with prefixLength := 0, prefixSet := false }) family = {} := by
    cases family <;> rfl
  refine keepsContext_exitCode_out ?_ hdefault
  refine Prog.within_bind keeps_extractInterfaceName fun _ => ?_
  refine Prog.within_bind (keeps_currentLink _) fun _ => ?_
  refine Prog.within_bind (keeps_checked _) fun _ => Prog.within_bind (keeps_checked _) fun _ => ?_
  cases change.operation with
  | created =>
      refine Prog.within_bind (keeps_nlAddrParse _ _) fun _ => ?_
      refine Prog.within_bind (hcreated _ _) fun _ => ?_
      exact Prog.within_bind (keeps_checked _) fun _ => keeps_request _
  | modified => exact Prog.within_fail
  | deleted =>
      refine Prog.within_bind (hrunning _ _) fun _ => ?_
      refine Prog.within_bind (keeps_nlAddrParse _ _) fun _ => ?_
      exact Prog.within_bind (keeps_checked _) fun _ => keeps_request _
  | moved => exact Prog.within_pure _

theorem keepsContext_neighborChangeIp :
    KeepsContext env (neighborChangeIp family env session change) := by
  have hdefault : ({} : ModData).update (fun d => { d with linkLayerAddress := none }) family =
      {} := by
    cases family <;> rfl
  refine keepsContext_exitCode_out ?_ hdefault
  refine Prog.within_bind keeps_extractInterfaceName fun _ => ?_
  refine Prog.within_bind (keeps_currentLink _) fun _ => ?_
  cases change.operation with
  | created =>
      refine Prog.within_bind (keeps_nlAddrParse _ _) fun _ => ?_
      refine Prog.within_bind (keeps_nestedIterateChanges fun _ =>
        keeps_neighborGetLinkLayerAddress) fun _ => ?_
      refine Prog.within_bind makesCalls_foundLinkLayerAddress.keeps fun _ => ?_
      exact Prog.within_bind (keeps_checked _) fun _ => keeps_request _
  | modified => exact Prog.within_fail
  | deleted =>
      refine Prog.within_bind (keeps_nlAddrParse _ _) fun _ => ?_
      exact Prog.within_bind (keeps_checked _) fun _ => keeps_request _
  | moved => exact Prog.within_pure _

theorem keepsContext_changeHandler (leaf : Leaf) :
    KeepsContext env (changeHandler env session change leaf) := by
  have hnothing : KeepsContext env (pure 0 : InterfacesM Int) :=
    keepsContext_of_keeps (Prog.within_pure _)
  cases leaf with
  | name => exact keepsContext_of_keeps keeps_changeName
  | description => exact hnothing
  | type => exact keepsContext_of_keeps keeps_changeType
  | enabled => exact keepsContext_of_keeps keeps_changeEnabled
  | linkUpDownTrapEnable => exact hnothing
  | ipv4Mtu => exact keepsContext_of_keeps keeps_ipv4ChangeMtu
  | ipv4Enabled => exact keepsContext_of_keeps keeps_ipv4ChangeEnabled
  | ipv4AddressNetmask => exact keepsContext_of_keeps keeps_ipv4AddressChangeNetmask
  | addressIp family =>
      cases family with
      | ipv4 =>
          exact keepsContext_addressChangeIp keeps_createdIpv4PrefixLength
            fun name ip => (makesCalls_runningIpv4PrefixLength name ip).keeps
      | ipv6 =>
          exact keepsContext_addressChangeIp keeps_createdIpv6PrefixLength
            fun name ip => (makesCalls_runningIpv6PrefixLength name ip).keeps
  | addressPrefixLength family =>
      cases family <;> exact keepsContext_of_keeps keeps_addressChangePrefixLength
  | neighborIp family => cases family <;> exact keepsContext_neighborChangeIp
  | neighborLinkLayerAddress family =>
      cases family <;> exact keepsContext_of_keeps keeps_neighborChangeLinkLayerAddress
  | other path => exact hnothing

end Keeps

/-! ## phases, events and runs -/

section Runs

variable {env : InterfacesEnv} {session : Session}

/-- A phase clears the whole context. -/
theorem lookupFree_phase (leaf : Leaf) : LookupFree env (phase env session leaf) where
  appends := by
    refine Prog.within_exitCode _ (Prog.within_out (fun s => List.prefix_refl _) ?_)
    refine Prog.within_bind (Prog.within_require
      (quiet_interfacesChangeInterfaceInit env).appends) fun _ => ?_
    refine Prog.within_bind (quiet_checked env _).appends fun _ => ?_
    exact Prog.within_forM (fun change =>
      Prog.within_require (keepsContext_changeHandler leaf).appends) _
  preserves := by
    have hany : Prog.Within (fun _ _ : InterfacesState => True) (do
        (interfacesChangeInterfaceInit env).require
        checked env .srGetChangesIter
        forM (session.changesOf leaf) fun change =>
          (changeHandler env session change leaf).require) :=
      fun _ => trivial
    exact Prog.Preserves.exitCode _ (Prog.preserves_out hany fun _ _ _ _ => rfl)

theorem lookupFree_event (srEvent : SrEvent) :
    LookupFree env (interfacesSubscriptionChangeInterfacesInterface env session srEvent) := by
  have hnothing : ∀ code : Int, LookupFree env (pure code : InterfacesM Int) :=
    fun _ => (keepsContext_of_keeps (Prog.within_pure _)).toLookupFree
  cases srEvent with
  | abort => exact hnothing _
  | change =>
      refine ⟨?_, ?_⟩
      · exact Prog.within_exitCode _ (Prog.within_forM (fun leaf =>
          Prog.within_require (lookupFree_phase leaf).appends) _)
      · exact Prog.Preserves.exitCode _ (Prog.preserves_forM (fun leaf =>
          (lookupFree_phase leaf).preserves.require) _)
  | done => exact hnothing _
  | other => exact hnothing _

theorem lookupFree_perform (step : CtxStep) : LookupFree env (step.perform env) := by
  cases step with
  | event session srEvent =>
      have h := @lookupFree_event env session srEvent
      exact ⟨Prog.within_bind h.appends fun _ => Prog.within_pure _,
        h.preserves.bind fun _ => Prog.preserves_pure _⟩
  | handler session change leaf =>
      have h := @keepsContext_changeHandler env session change leaf
      exact ⟨Prog.within_bind h.appends fun _ => Prog.within_pure _,
        h.preserves.bind fun _ => Prog.preserves_pure _⟩
  | others k => exact ⟨fun _ => List.prefix_refl _, fun _ hs _ => hs⟩

/-! ## the handlers entered -/

/-- The init callback, and the iterator. -/
theorem quiet_prologue : (kernel env).Quiet (do
    (interfacesChangeInterfaceInit env).require; checked env .srGetChangesIter) :=
  Prog.within_bind (Prog.within_require (quiet_interfacesChangeInterfaceInit env)) fun _ =>
    quiet_checked env _

theorem preserves_interfacesChangeInterfaceInit :
    Prog.Preserves NoLookup (interfacesChangeInterfaceInit env) := by
  have hchecked : ∀ c, Prog.Preserves NoLookup (checked env c) := fun c =>
    preserves_of_keeps (keeps_checked c)
  have hcache : ∀ f : InterfacesState → ModCtx, (∀ s, (f s).modData = s.modCtx.modData) →
      Prog.Preserves NoLookup (Prog.modify fun s => s.setModCtx (f s)) :=
    fun f hf s hs _ => (hf s).trans hs
  refine Prog.Preserves.exitCode _ ?_
  refine (hchecked _).bind fun _ => (hchecked _).bind fun _ => (hchecked _).bind fun _ => ?_
  refine Prog.Preserves.bind (hcache (fun s =>
    { s.modCtx with linkCache := s.kernel.links.links }) fun _ => rfl) fun _ => ?_
  refine (hchecked _).bind fun _ => ?_
  exact hcache (fun s => { s.modCtx with addrCache := s.kernel.addrs }) fun _ => rfl

theorem preserves_prologue : Prog.Preserves NoLookup (do
    (interfacesChangeInterfaceInit env).require; checked env .srGetChangesIter) :=
  preserves_interfacesChangeInterfaceInit.require.bind fun _ =>
    preserves_of_keeps (keeps_checked _)

theorem noLookup_of_mem_phaseEntered {leaf : Leaf} {s : InterfacesState} (hs : NoLookup s)
    {e : Entered} (he : e ∈ phaseEntered env session leaf s) : NoLookup e.state := by
  unfold phaseEntered iterateRounds at he
  obtain ⟨x, hx, rfl⟩ := List.mem_map.mp he
  have hprologue := (@preserves_prologue env).ensures s
  split at hx
  · next s' hrun =>
      exact Prog.inv_of_mem_rounds (fun _ => (keepsContext_changeHandler leaf).preserves.require)
        (hprologue _ _ hs hrun) hx
  · cases hx
  · cases hx

theorem noLookup_of_mem_eventEntered {srEvent : SrEvent} {s : InterfacesState} (hs : NoLookup s)
    {e : Entered} (he : e ∈ eventEntered env session s srEvent) : NoLookup e.state := by
  cases srEvent with
  | abort => cases he
  | change =>
      obtain ⟨x, hx, hphase⟩ := List.mem_flatMap.mp he
      exact noLookup_of_mem_phaseEntered (Prog.inv_of_mem_rounds
        (fun leaf => (lookupFree_phase leaf).preserves.require) hs hx) hphase
  | done => cases he
  | other => cases he

/-- Whenever a handler is entered, no earlier lookup has left anything. -/
theorem noLookup_of_mem_entered {steps : List CtxStep} {s : InterfacesState} (hs : NoLookup s)
    {e : Entered} (he : e ∈ entered env steps s) : NoLookup e.state := by
  obtain ⟨x, hx, hstep⟩ := List.mem_flatMap.mp he
  have hbefore : NoLookup x.2 :=
    Prog.inv_of_mem_rounds (fun step => (lookupFree_perform step).preserves) hs hx
  cases hcase : x.1 with
  | event session srEvent =>
      rw [hcase] at hstep
      exact noLookup_of_mem_eventEntered hbefore hstep
  | handler session change leaf =>
      rw [hcase] at hstep
      cases List.mem_singleton.mp hstep
      exact hbefore
  | others k =>
      rw [hcase] at hstep
      cases hstep

/-! ## the requests of a run -/

theorem sentBy_phase (leaf : Leaf) (s : InterfacesState) :
    (kernel env).sentBy (phase env session leaf) s =
      (phaseEntered env session leaf s).flatMap (Entered.sent env) := by
  have hquiet := @quiet_prologue env
  have hfree : ∀ s, (kernel env).Unchanged s (interfacesChangeInterfaceFree s) := fun _ =>
      ⟨rfl, rfl⟩
  unfold phase srpcIterateChanges phaseEntered iterateRounds
  rw [Link.sentBy_exitCode, Link.sentBy_out hfree, ← bind_assoc]
  split
  · next s' hrun =>
      rw [Link.sentBy_bind_quiet hquiet hrun, Link.sentBy_forM fun change =>
        Prog.within_require (keepsContext_changeHandler leaf).appends, List.flatMap_map]
      exact List.flatMap_congr fun x _ => Link.sentBy_require _ _
  · next s' hrun => exact Link.sentBy_bind_error hquiet hrun
  · next s' hrun => exact Link.sentBy_bind_crash hquiet hrun

theorem sentBy_event (srEvent : SrEvent) (s : InterfacesState) :
    (kernel env).sentBy (interfacesSubscriptionChangeInterfacesInterface env session srEvent) s =
      (eventEntered env session s srEvent).flatMap (Entered.sent env) := by
  have hnothing : ∀ code : Int, (kernel env).sentBy (pure code : InterfacesM Int) s = [] :=
    fun code => Link.Quiet.sentBy_eq (Prog.within_pure code) s
  cases srEvent with
  | abort => exact hnothing _
  | change =>
      unfold interfacesSubscriptionChangeInterfacesInterface eventEntered
      rw [Link.sentBy_exitCode, Link.sentBy_forM fun leaf =>
        Prog.within_require (lookupFree_phase leaf).appends, List.flatMap_assoc]
      refine List.flatMap_congr fun x _ => ?_
      rw [Link.sentBy_require, sentBy_phase]
  | done => exact hnothing _
  | other => exact hnothing _

theorem sentBy_perform (step : CtxStep) (s : InterfacesState) :
    (kernel env).sentBy (step.perform env) s = (step.entered env s).flatMap (Entered.sent env) := by
  have hdrop : ∀ p : InterfacesM Int,
      (kernel env).sentBy (do let _ ← p; return ()) s = (kernel env).sentBy p s := by
    intro p
    refine Link.sentBy_congr ?_
    rw [Prog.run_bind]
    rcases p.run s with ⟨_ | _ | _, s'⟩ <;> rfl
  cases step with
  | event session srEvent => exact (hdrop _).trans (sentBy_event srEvent s)
  | handler session change leaf =>
      rw [CtxStep.perform, hdrop, CtxStep.entered, List.flatMap_singleton]
      rfl
  | others k => exact List.drop_length

/-- Every request of a run is sent by one of the handlers it enters. -/
theorem sentBy_steps (steps : List CtxStep) (s : InterfacesState) :
    (kernel env).sentBy (forM steps (CtxStep.perform env)) s =
      (entered env steps s).flatMap (Entered.sent env) := by
  rw [Link.sentBy_forM fun step => (lookupFree_perform step).appends, entered, List.flatMap_assoc]
  exact List.flatMap_congr fun x _ => sentBy_perform x.1 x.2

end Runs

end SysrepoInterfaces.Interfaces
