import SysrepoInterfaces.Interfaces.Outcome

/-!
# SysrepoInterfaces.Interfaces.Deletion

The change event that deletes a whole interface.  The first phase deletes the
link, and every later phase looks it up again: the handlers of some leaves
take a link that is gone as the end of their work, the others as an error.
-/

namespace SysrepoInterfaces.Interfaces

open CProg

/-! ## leaves that need the link -/

/-- The leaves whose handlers fail on a link that is gone. -/
def Leaf.needsLink : Leaf → Bool
  | .name | .description | .type | .enabled | .linkUpDownTrapEnable | .other _ => false
  | .ipv4Mtu | .ipv4Enabled | .ipv4AddressNetmask | .addressIp _ | .addressPrefixLength _
  | .neighborIp _ | .neighborLinkLayerAddress _ => true

/-- A leaf that needs the link has a phase, after the one of the name. -/
theorem mem_phases_of_needsLink {leaf : Leaf} (h : leaf.needsLink) : leaf ∈ phases.tail := by
  cases leaf with
  | addressIp family => cases family <;> decide
  | addressPrefixLength family => cases family <;> decide
  | neighborIp family => cases family <;> decide
  | neighborLinkLayerAddress family => cases family <;> decide
  | _ => first | decide | cases h

/-- An accepted `rtnl_link_delete` leaves the kernel without the link. -/
def DeletesLinks (env : InterfacesEnv) : Prop :=
  ∀ (k : Kernel) name link, k.links.getByName name = some link →
    (env.carryOut k (.linkDelete link.ifindex)).links.getByName name = none

/-- The link is gone. -/
def LinkGone (name : String) (s : InterfacesState) : Prop := s.kernel.links.getByName name = none

/-- The link is gone, and the phase knows. -/
def GoneInPhase (name : String) (s : InterfacesState) : Prop :=
  LinkGone name s ∧ cachedLink s name = none

theorem stable_goneInPhase (name : String) : Stable (GoneInPhase name) := fun _ _ h => h

section Handlers

variable {env : InterfacesEnv} {session : Session} {change : Change} {name : String}

/-- What a handler that looks up the link does once it is gone. -/
theorem leaves_preamble (hlib : env.CallsSucceed) (hname : change.ifName = name) {α : Type}
    {f : String → RtnlLink → InterfacesM α} :
    Prog.Leaves (GoneInPhase name) (do
      let name ← extractInterfaceName env change
      let link ← currentLink name
      f name link) (GoneInPhase name) := by
  refine (ends_extractInterfaceName hlib (stable_goneInPhase name)).bind_leaves fun found => ?_
  intro s ⟨hfound, hs⟩
  subst hfound
  rw [hname]
  exact (leaves_currentLink fun _ h => h.2).bind s hs

theorem leaves_preamble_ip (hlib : env.CallsSucceed) (hname : change.ifName = name) {α : Type}
    {f : String → RtnlLink → InterfacesM α} :
    Prog.Leaves (GoneInPhase name) (do
      let name ← extractInterfaceName env change
      let ip ← extractIp env change
      let link ← currentLink name
      f ip link) (GoneInPhase name) := by
  refine (ends_extractInterfaceName hlib (stable_goneInPhase name)).bind_leaves fun found => ?_
  intro s ⟨hfound, hs⟩
  subst hfound
  rw [hname]
  refine (ends_extractIp hlib (stable_goneInPhase name)).bind_leaves (fun ip => ?_) s hs
  intro s ⟨_, hs⟩
  exact (leaves_currentLink fun _ h => h.2).bind s hs

theorem leaves_cleared {p : InterfacesM Unit} (family : IpFamily) (f : FamilyData → FamilyData)
    (h : Prog.Leaves (GoneInPhase name) p (GoneInPhase name)) :
    Prog.Leaves (GoneInPhase name)
      (Prog.exitCode (-1) (Prog.out (fun s => s.updateModData family f) p)).require
      (GoneInPhase name) :=
  leaves_exitCode_require (h.out fun _ hs => hs)

theorem leaves_changeHandler (hlib : env.CallsSucceed) (hname : change.ifName = name) {leaf : Leaf}
    (hleaf : leaf.needsLink) :
    Prog.Leaves (GoneInPhase name) (changeHandler env session change leaf).require
      (GoneInPhase name) := by
  cases leaf with
  | ipv4Mtu => exact leaves_exitCode_require (leaves_preamble hlib hname)
  | ipv4Enabled =>
      refine Prog.Leaves.status (by decide) ?_
      exact leaves_preamble hlib hname
  | ipv4AddressNetmask => exact leaves_exitCode_require (leaves_preamble_ip hlib hname)
  | addressIp family =>
      cases family with
      | ipv4 => exact leaves_cleared .ipv4 _ (leaves_preamble hlib hname)
      | ipv6 => exact leaves_cleared .ipv6 _ (leaves_preamble hlib hname)
  | addressPrefixLength family =>
      cases family with
      | ipv4 => exact leaves_exitCode_require (leaves_preamble_ip hlib hname)
      | ipv6 => exact leaves_exitCode_require (leaves_preamble_ip hlib hname)
  | neighborIp family =>
      cases family with
      | ipv4 => exact leaves_cleared .ipv4 _ (leaves_preamble hlib hname)
      | ipv6 => exact leaves_cleared .ipv6 _ (leaves_preamble hlib hname)
  | neighborLinkLayerAddress family =>
      cases family with
      | ipv4 => exact leaves_exitCode_require (leaves_preamble_ip hlib hname)
      | ipv6 => exact leaves_exitCode_require (leaves_preamble_ip hlib hname)
  | _ => cases hleaf

/-- The handlers of the other leaves have nothing left to do. -/
theorem ends_changeHandler_gone (hlib : env.CallsSucceed) (hname : change.ifName = name)
    (hop : change.operation = .deleted) {leaf : Leaf} (hleaf : ¬ leaf.needsLink)
    (hne : leaf ≠ .name) :
    Prog.Ends (GoneInPhase name) (changeHandler env session change leaf).require
      fun _ => GoneInPhase name := by
  have hnothing : Prog.Ends (GoneInPhase name) (pure 0 : InterfacesM Int).require
      fun _ => GoneInPhase name := fun s hs => ⟨(), s, rfl, hs⟩
  cases leaf with
  | name => exact absurd rfl hne
  | description => exact hnothing
  | linkUpDownTrapEnable => exact hnothing
  | other path => exact hnothing
  | type =>
      refine ends_exitCode_require ?_
      rw [hop]
      exact Prog.ends_pure fun _ hs => hs
  | enabled =>
      refine ends_exitCode_require ?_
      refine (ends_interfacecsInterfaceExtractName hlib (stable_goneInPhase name)).bind
        fun found => ?_
      rw [hop]
      intro s ⟨hfound, hs⟩
      subst hfound
      have hcached : Keyed.lookup RtnlLink.name change.ifName s.modCtx.linkCache = none :=
        hname ▸ hs.2
      refine ⟨(), s, ?_, hs⟩
      show (resetLinkEnabled env change.ifName).run s = _
      rw [resetLinkEnabled, Prog.run_bind_ok (run_rtnlLinkGetByName ..), hcached]
      rfl
  | _ => exact absurd rfl hleaf

end Handlers

/-! ## the phases after the first -/

/-- The change stream that deletes an interface: a deleted name, and other
deleted leaves of that interface. -/
structure IsDeletion (session : Session) (name : String) : Prop where
  key : ∃ change, session.changesOf .name = [change] ∧ change.nodeValue = name
  deleted : ∀ change ∈ session.changes, change.operation = .deleted ∧ change.ifName = name

section Phases

variable {env : InterfacesEnv} {session : Session} {name : String}

theorem IsDeletion.of_changesOf (h : IsDeletion session name) {leaf : Leaf} {change : Change}
    (hmem : change ∈ session.changesOf leaf) :
    change.operation = .deleted ∧ change.ifName = name :=
  h.deleted change (List.mem_filter.mp hmem).1

theorem ends_phase_gone (hlib : env.CallsSucceed) (h : IsDeletion session name) {leaf : Leaf}
    (hne : leaf ≠ .name) (hleaf : leaf.needsLink → session.changesOf leaf = []) :
    Prog.Ends (LinkGone name) (phase env session leaf).require fun _ => LinkGone name := by
  have hgone : ∀ s n, LinkGone name s →
      GoneInPhase name { s.withCaches with calls := n } := fun _ _ hs => ⟨hs, hs⟩
  refine ends_phase hlib hgone (stable_goneInPhase name) (Prog.ends_forM fun change hmem => ?_)
    fun _ hs => hs.1
  have hneeds : ¬ leaf.needsLink := by
    intro hneeds
    rw [hleaf hneeds] at hmem
    cases hmem
  obtain ⟨hop, hname⟩ := h.of_changesOf hmem
  exact ends_changeHandler_gone hlib hname hop hneeds hne

theorem leaves_phase_gone (hlib : env.CallsSucceed) (h : IsDeletion session name) {leaf : Leaf}
    (hneeds : leaf.needsLink) (hleaf : session.changesOf leaf ≠ []) :
    Prog.Leaves (LinkGone name) (phase env session leaf).require (LinkGone name) := by
  have hgone : ∀ s n, LinkGone name s →
      GoneInPhase name { s.withCaches with calls := n } := fun _ _ hs => ⟨hs, hs⟩
  have hfail : ∀ change ∈ session.changesOf leaf, Prog.Leaves (GoneInPhase name)
      (changeHandler env session change leaf).require (GoneInPhase name) :=
    fun change hmem => leaves_changeHandler hlib (h.of_changesOf hmem).2 hneeds
  obtain ⟨change, hmem⟩ := List.exists_mem_of_ne_nil _ hleaf
  have hloop := Prog.leaves_forM (fun change hmem => .inr (hfail change hmem))
    ⟨change, hmem, hfail change hmem⟩
  exact leaves_phase hlib hgone (stable_goneInPhase name) hloop fun _ hs => hs.1

/-- The handler of the name deletes the link. -/
theorem ends_changeName_deleted (hdelete : DeletesLinks env) {change : Change}
    (hop : change.operation = .deleted)
    (hvalue : change.nodeValue = name) :
    Prog.Ends
      (fun s => s.modCtx.linkCache = s.kernel.links.links ∧
        (s.kernel.links.getByName name).isSome ∧ env.answer s.sent.length = 0)
      (changeHandler env session change .name).require fun _ => LinkGone name := by
  refine ends_exitCode_require ?_
  rw [hop, hvalue]
  refine (ends_currentLink fun s hs => ?_).bind fun link => ends_request (fun s hs => hs.2.2.2) ?_
  · rw [cachedLink, hs.1]
    exact hs.2.1
  · intro s ⟨hcached, hcache, _⟩
    rw [cachedLink, hcache] at hcached
    exact hdelete _ _ _ hcached

/-- The first phase deletes the link. -/
theorem ends_phase_name (hlib : env.CallsSucceed) (hdelete : DeletesLinks env)
    (h : IsDeletion session name) :
    Prog.Ends (fun s => (s.kernel.links.getByName name).isSome ∧ env.answer s.sent.length = 0)
      (phase env session .name).require fun _ => LinkGone name := by
  obtain ⟨change, hchanges, hvalue⟩ := h.key
  have hop : change.operation = .deleted :=
    (h.of_changesOf (hchanges ▸ List.mem_singleton_self change)).1
  have hloop : Prog.Ends
      (fun s => s.modCtx.linkCache = s.kernel.links.links ∧
        (s.kernel.links.getByName name).isSome ∧ env.answer s.sent.length = 0)
      (forM (session.changesOf .name) fun change =>
        (changeHandler env session change .name).require)
      fun _ => LinkGone name := by
    rw [hchanges]
    exact (ends_changeName_deleted hdelete hop hvalue).bind fun _ => Prog.ends_pure fun _ hs => hs
  exact ends_phase hlib (fun _ _ hs => ⟨rfl, hs⟩) (fun _ _ hs => hs) hloop fun _ hs => hs

/-- Deleting an interface succeeds, and removes the link, if and only if none
of its deleted leaves needs the link: it had no IPv4 MTU and no IPv4 flag, no
addresses and no neighbours.  Of the kernel it is only assumed that it deletes
the link when it accepts to. -/
theorem deletion_iff (hlib : env.CallsSucceed) (hdelete : DeletesLinks env)
    (h : IsDeletion session name) {s : InterfacesState}
    (hlink : (s.kernel.links.getByName name).isSome)
    (hanswer : env.answer s.sent.length = 0) :
    (∃ s', (interfacesSubscriptionChangeInterfacesInterface env session .change).run s =
        (.ok SR_ERR_OK, s') ∧ s'.kernel.links.getByName name = none) ↔
      ∀ change ∈ session.changes, ¬ change.leaf.needsLink := by
  have hfirst := ends_phase_name hlib hdelete h
  have hphases : (forM phases fun leaf => (phase env session leaf).require) =
      ((phase env session .name).require >>= fun _ =>
        forM phases.tail fun leaf => (phase env session leaf).require) := List.forM_cons ..
  simp only [change_eq_ok_iff, hphases]
  have hne : ∀ leaf ∈ phases.tail, leaf ≠ .name := by decide
  constructor
  · rintro ⟨s', hrun, -⟩ change hmem hneeds
    have hchange : session.changesOf change.leaf ≠ [] :=
      List.ne_nil_of_mem (List.mem_filter.mpr ⟨hmem, by simp⟩)
    have hrest : Prog.Leaves (LinkGone name)
        (forM phases.tail fun leaf => (phase env session leaf).require) (LinkGone name) := by
      refine Prog.leaves_forM (fun leaf hleaf => ?_)
        ⟨change.leaf, mem_phases_of_needsLink hneeds, leaves_phase_gone hlib h hneeds hchange⟩
      by_cases hfails : leaf.needsLink ∧ session.changesOf leaf ≠ []
      · exact .inr (leaves_phase_gone hlib h hfails.1 hfails.2)
      · refine .inl (ends_phase_gone hlib h (hne leaf hleaf) fun hneeds => ?_)
        by_contra hnil
        exact hfails ⟨hneeds, hnil⟩
    obtain ⟨s'', hleaves, -⟩ := (hfirst.bind_leaves fun _ => hrest) s ⟨hlink, hanswer⟩
    rw [hleaves] at hrun
    cases hrun
  · intro hnone
    have hrest : Prog.Ends (LinkGone name)
        (forM phases.tail fun leaf => (phase env session leaf).require) fun _ => LinkGone name := by
      refine Prog.ends_forM fun leaf hleaf => ends_phase_gone hlib h (hne leaf hleaf)
        fun hneeds => ?_
      refine List.eq_nil_iff_forall_not_mem.mpr fun change hmem => ?_
      obtain ⟨hchange, heq⟩ := List.mem_filter.mp hmem
      have hleafEq : change.leaf = leaf := by simpa using heq
      exact hnone change hchange (hleafEq ▸ hneeds)
    obtain ⟨_, s', hends, hgone⟩ := (hfirst.bind fun _ => hrest) s ⟨hlink, hanswer⟩
    exact ⟨s', hends, hgone⟩

end Phases

/-! ## two deletions -/

/-- The deleted name of `eth0`. -/
def plainName : Change where
  operation := .deleted
  leaf := .name
  ifName := "eth0"
  nodeValue := "eth0"

/-- `eth0` with a type and a flag. -/
def plainDeletion : Session where
  changes := [
    plainName,
    { operation := .deleted, leaf := .type, ifName := "eth0", nodeValue := "iana-if-type:other" },
    { operation := .deleted, leaf := .enabled, ifName := "eth0", nodeValue := "true" }]

/-- `eth0` with an IPv4 MTU as well. -/
def deletionWithMtu : Session where
  changes := plainDeletion.changes ++ [
    { operation := .deleted, leaf := .ipv4Mtu, ifName := "eth0", nodeValue := "1500" }]

theorem isDeletion_plainDeletion : IsDeletion plainDeletion "eth0" :=
  ⟨⟨plainName, rfl, rfl⟩, by decide⟩

theorem deletesLinks_sampleEnv : DeletesLinks sampleEnv :=
  fun _ _ _ => LinkTable.getByName_delete

theorem deletion_plain :
    (∃ s', (interfacesSubscriptionChangeInterfacesInterface sampleEnv plainDeletion .change).run
        { kernel := sampleKernel } = (.ok SR_ERR_OK, s') ∧
        s'.kernel.links.getByName "eth0" = none) ↔
      ∀ change ∈ plainDeletion.changes, ¬ change.leaf.needsLink :=
  deletion_iff (fun _ _ => rfl) deletesLinks_sampleEnv isDeletion_plainDeletion
    (show (sampleKernel.links.getByName "eth0").isSome by decide) rfl

/-- The event that deletes an interface with an IPv4 MTU fails after the link
has been deleted. -/
theorem deletion_withMtu_fails :
    let run := (interfacesSubscriptionChangeInterfacesInterface sampleEnv deletionWithMtu
      .change).run { kernel := sampleKernel }
    run.1 = .ok SR_ERR_CALLBACK_FAILED ∧ run.2.sent = [(.linkDelete 2, 0)] ∧
      run.2.kernel.links.getByName "eth0" = none := by
  decide +kernel

end SysrepoInterfaces.Interfaces
