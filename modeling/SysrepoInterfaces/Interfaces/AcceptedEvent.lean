import SysrepoInterfaces.Interfaces.Accepted
import SysrepoInterfaces.Interfaces.Planned

/-!
# SysrepoInterfaces.Interfaces.AcceptedEvent

When a whole change event is accepted: each phase takes its caches from what the
kernel has made of the requests of the phases before it, and where it has the
links that are looked up, the event fails exactly when the handler of the IPv4
flag does.
-/

namespace SysrepoInterfaces.Interfaces

open CProg Requests

/-! ## one phase -/

/-- The links that the handlers of a phase look up are there. -/
def LinksThere (session : Session) (leaf : Leaf) (k : Kernel) : Prop :=
  ∀ change ∈ session.changesOf leaf, change.looksUp →
    (k.links.getByName change.ifName).isSome

/-- In a phase that began with this kernel. -/
def InPhaseOf (k : Kernel) (s : InterfacesState) : Prop :=
  s.modCtx.linkCache = k.links.links ∧ s.modCtx.addrCache = k.addrs

section Phase

variable {env : InterfacesEnv} {schema : Schema} {session : Session} {leaf : Leaf} {k : Kernel}
  {change : Change}

theorem kept_inPhaseOf (k : Kernel) : Kept (InPhaseOf k) :=
  ⟨fun _ _ hs => hs, fun _ _ _ hs => hs, fun _ _ _ hs => hs⟩

theorem inPhaseOf_withCaches : ∀ (s : InterfacesState) n, s.kernel = k →
    InPhaseOf k { s.withCaches with calls := n } := by
  rintro s n rfl
  exact ⟨rfl, rfl⟩

theorem LinksThere.cachedLink (h : LinksThere session leaf k)
    (hmem : change ∈ session.changesOf leaf) (hlooks : change.looksUp) (s : InterfacesState)
    (hs : InPhaseOf k s) : (cachedLink s change.ifName).isSome := by
  rw [Interfaces.cachedLink, hs.1]
  exact h change hmem hlooks

theorem leaf_of_mem_changesOf (hmem : change ∈ session.changesOf leaf) : change.leaf = leaf := by
  simpa using (List.mem_filter.mp hmem).2

/-- A phase succeeds where no change of the IPv4 flag is refused. -/
theorem ends_phase_kernel (hsucc : env.Succeeds schema) (hvalid : schema.ValidSession session)
    (hsupported : ∀ change ∈ session.changes, Supported change)
    (hlinks : LinksThere session leaf k)
    (h : leaf = .ipv4Enabled → ∀ change ∈ session.changesOf leaf,
      ¬ EnabledRefused (k.addrs = []) change) :
    Prog.Ends (fun s => s.kernel = k) (phase env session leaf).require fun _ _ => True := by
  refine ends_phase hsucc.calls inPhaseOf_withCaches (kept_inPhaseOf k).calls
    (Prog.ends_forM fun change hmem => ?_) fun _ _ => trivial
  have hchange := (List.mem_filter.mp hmem).1
  have hleaf := leaf_of_mem_changesOf hmem
  refine ends_changeHandler hsucc (kept_inPhaseOf k) hleaf (hsupported change hchange)
    hvalid.running (hvalid.changes change hchange) (fun hlooks => hlinks.cachedLink hmem hlooks)
    (fun _ _ hs => hs.2) fun hrefused => ?_
  have hflag : leaf = .ipv4Enabled := hleaf.symm.trans hrefused.1
  exact h hflag change hmem hrefused

/-- The phase of the IPv4 flag fails on a change that is refused. -/
theorem leaves_phase_kernel (hsucc : env.Succeeds schema)
    (hlinks : LinksThere session .ipv4Enabled k)
    (h : ∃ change ∈ session.changesOf .ipv4Enabled, EnabledRefused (k.addrs = []) change) :
    Prog.Leaves (fun s => s.kernel = k) (phase env session .ipv4Enabled).require
      fun _ => True := by
  have hthere : ∀ change ∈ session.changesOf .ipv4Enabled,
      ∀ s, InPhaseOf k s → (cachedLink s change.ifName).isSome := by
    intro change hmem
    refine hlinks.cachedLink hmem ?_
    rw [Change.looksUp, leaf_of_mem_changesOf hmem]
    rfl
  have hrefuse : ∀ change ∈ session.changesOf .ipv4Enabled, EnabledRefused (k.addrs = []) change →
      Prog.Leaves (InPhaseOf k) (changeHandler env session change .ipv4Enabled).require
        (InPhaseOf k) :=
    fun change hmem hrefused => leaves_changeIpv4Enabled hsucc (kept_inPhaseOf k)
      (hthere change hmem) (fun _ hs => hs.2) hrefused
  have hround : ∀ change ∈ session.changesOf .ipv4Enabled,
      Prog.Ends (InPhaseOf k) (changeHandler env session change .ipv4Enabled).require
        (fun _ => InPhaseOf k) ∨
      Prog.Leaves (InPhaseOf k) (changeHandler env session change .ipv4Enabled).require
        (InPhaseOf k) := by
    intro change hmem
    by_cases hrefused : EnabledRefused (k.addrs = []) change
    · exact .inr (hrefuse change hmem hrefused)
    · exact .inl (ends_changeIpv4Enabled hsucc (kept_inPhaseOf k) (hthere change hmem)
        (fun _ hs => hs.2) (leaf_of_mem_changesOf hmem) hrefused)
  obtain ⟨change, hmem, hrefused⟩ := h
  have hloop := Prog.leaves_forM hround ⟨change, hmem, hrefuse change hmem hrefused⟩
  exact leaves_phase hsucc.calls inPhaseOf_withCaches (kept_inPhaseOf k).calls hloop
    fun _ _ => trivial

end Phase

/-! ## an event -/

section Event

variable {env : InterfacesEnv} {schema : Schema} {session : Session} {k k' : Kernel}
  {asked : List Request}

/-- Phases that succeed leave the kernel as planned. -/
theorem kernel_of_phases {leaves : List Leaf} (hfirst : ∀ leaf ∈ leaves.head?, leaf.isIp = false)
    {s s' : InterfacesState} {a : PUnit}
    (hrun : (forM leaves fun leaf => (phase env session leaf).require).run s = (.ok a, s')) :
    ∃ asked, plannedPhases env session leaves s.kernel = some (asked, s'.kernel) := by
  obtain ⟨_, ⟨asked, k', hplan, rfl⟩, hsent, -⟩ := (traces_phases hfirst s.kernel).of_ok rfl hrun
  have hkernel : s'.kernel = (accepted (answered asked)).foldl env.carryOut s.kernel := hsent.2
  rw [accepted_answered, ← Link.planRounds_eq_foldl hplan] at hkernel
  exact ⟨asked, by rw [hkernel]; exact hplan⟩

theorem isIp_head_of_phases {before after : List Leaf} (h : phases = before ++ after) :
    ∀ leaf ∈ before.head?, leaf.isIp = false := by
  cases before with
  | nil => exact nofun
  | cons leaf before =>
      have hname : leaf = .name := (List.cons.inj h).1.symm
      rintro _ ⟨⟩
      rw [hname]
      rfl

/-- From some phase on the event succeeds. -/
theorem ends_phases {leaves : List Leaf}
    (hends : ∀ leaf ∈ phases, ∀ asked k', PhaseBegins env session k leaf asked k' →
      Prog.Ends (fun s => s.kernel = k') (phase env session leaf).require fun _ _ => True)
    {before : List Leaf} (hphases : phases = before ++ leaves) {s s' : InterfacesState}
    (hs : s.kernel = k)
    (hbefore : (forM before fun leaf => (phase env session leaf).require).run s = (.ok ⟨⟩, s')) :
    ∃ s'', (forM leaves fun leaf => (phase env session leaf).require).run s' =
      (.ok ⟨⟩, s'') := by
  induction leaves generalizing before s' with
  | nil => exact ⟨s', rfl⟩
  | cons leaf leaves ih =>
      have hmem : leaf ∈ phases := by simp [hphases]
      obtain ⟨asked, hplan⟩ := kernel_of_phases (isIp_head_of_phases hphases) hbefore
      have hbegins : PhaseBegins env session k leaf asked s'.kernel :=
        ⟨hmem, by rwa [phasesBefore_eq hphases, ← hs]⟩
      obtain ⟨_, s₁, hphase, -⟩ := hends leaf hmem asked s'.kernel hbegins s' rfl
      have hnext : phases = (before ++ [leaf]) ++ leaves := by simp [hphases]
      have hrun : (forM (before ++ [leaf]) fun leaf => (phase env session leaf).require).run s =
          (.ok ⟨⟩, s₁) := by
        rw [List.forM_append, Prog.run_bind_ok hbefore, List.forM_cons, Prog.run_bind_ok hphase]
        rfl
      obtain ⟨s'', hrest⟩ := ih hnext hrun
      exact ⟨s'', by rw [List.forM_cons, Prog.run_bind_ok hphase, hrest]⟩

/-- An event succeeds if and only if no change of the IPv4 flag is refused. -/
theorem event_returns_ok_iff (hsucc : env.Succeeds schema) (hvalid : schema.ValidSession session)
    (hsupported : ∀ change ∈ session.changes, Supported change) {s : InterfacesState}
    (hlinks : ∀ leaf asked k, PhaseBegins env session s.kernel leaf asked k →
      LinksThere session leaf k) :
    (∃ s', (interfacesSubscriptionChangeInterfacesInterface env session .change).run s =
        (.ok SR_ERR_OK, s')) ↔
      ∀ asked k, PhaseBegins env session s.kernel .ipv4Enabled asked k →
        ∀ change ∈ session.changesOf .ipv4Enabled, ¬ EnabledRefused (k.addrs = []) change := by
  simp only [change_eq_ok_iff]
  constructor
  · rintro ⟨s', hrun⟩ asked k hbegins change hmem hrefused
    obtain ⟨after, hphases⟩ := phases_eq_append hbegins.1
    rw [hphases, List.forM_append] at hrun
    obtain ⟨_, s₁, hbefore, hrest⟩ := Prog.bind_eq_ok hrun
    -- the phase begins with the kernel the phases before it have left
    obtain ⟨asked', hplan⟩ := kernel_of_phases (isIp_head_of_phases hphases) hbefore
    have hkernel : s₁.kernel = k := by
      have hsame := hplan.symm.trans hbegins.2
      simp only [Option.some.injEq, Prod.mk.injEq] at hsame
      exact hsame.2
    have hleaves : Prog.Leaves (fun s => s.kernel = k) (forM (.ipv4Enabled :: after) fun leaf =>
        (phase env session leaf).require) fun _ => True := by
      rw [List.forM_cons]
      exact (leaves_phase_kernel hsucc (hlinks _ _ _ hbegins) ⟨change, hmem, hrefused⟩).bind
    obtain ⟨_, hleft, -⟩ := hleaves s₁ hkernel
    rw [hleft] at hrest
    cases hrest
  · intro h
    have hends : ∀ leaf ∈ phases, ∀ asked k', PhaseBegins env session s.kernel leaf asked k' →
        Prog.Ends (fun s => s.kernel = k') (phase env session leaf).require fun _ _ => True := by
      intro leaf _ asked k' hbegins
      refine ends_phase_kernel hsucc hvalid hsupported (hlinks _ _ _ hbegins) ?_
      rintro rfl
      exact h asked k' hbegins
    exact ends_phases hends (show phases = [] ++ phases from rfl) rfl rfl

/-- With every call successful, a handler returns 0 on every change the schema
admits and the plugin supports, and an event made of such changes returns
`SR_ERR_OK`, if and only if no change of the IPv4 flag is refused: in an event
with the addresses that the kernel has when the phase of the flag begins. -/
theorem accepted_iff (hsucc : env.Succeeds schema)
    (hrunning : Schema.ValidRunning session.running) :
    (∀ change s, schema.ValidChange session change → Supported change →
      (change.looksUp → (cachedLink s change.ifName).isSome) →
      ((∃ s', (changeHandler env session change change.leaf).run s = (.ok 0, s')) ↔
        ¬ EnabledRefused (s.modCtx.addrCache = []) change)) ∧
    ∀ s, schema.ValidSession session → (∀ change ∈ session.changes, Supported change) →
      (∀ leaf asked k, PhaseBegins env session s.kernel leaf asked k →
        LinksThere session leaf k) →
      ((∃ s', (interfacesSubscriptionChangeInterfacesInterface env session .change).run s =
          (.ok SR_ERR_OK, s')) ↔
        ∀ asked k, PhaseBegins env session s.kernel .ipv4Enabled asked k →
          ∀ change ∈ session.changesOf .ipv4Enabled, ¬ EnabledRefused (k.addrs = []) change) :=
  ⟨fun _ _ hvalid hsupported hlink =>
      changeHandler_returns_zero_iff hsucc hsupported hrunning hvalid hlink,
    fun _ hvalid hsupported hlinks => event_returns_ok_iff hsucc hvalid hsupported hlinks⟩

end Event

/-! ## changes of the IPv4 flag -/

/-- The canonical texts of IPv4. -/
def ipv4Schema : Schema where
  ipAddress family ip := family = .ipv4 ∧ ∃ octets, ip = dottedQuad octets
  physAddress _ := False

theorem isSome_parse_ipv4 (family : IpFamily) (ip : String) (hip : ipv4Schema.ipAddress family ip) :
    (ipv4Env.nlAddrParse family.af ip).isSome := by
  obtain ⟨rfl, octets, rfl⟩ := hip
  have hparse : ipv4Env.nlAddrParse IpFamily.ipv4.af = parseIpv4 := rfl
  rw [hparse, parseIpv4_dottedQuad]
  rfl

theorem isSome_parse_ipv4_address (family : IpFamily) (ip : String) (length : Nat)
    (hip : ipv4Schema.ipAddress family ip) (hlength : length ≤ family.width) :
    (ipv4Env.nlAddrParse family.af (addressText ip (toString length))).isSome := by
  obtain ⟨rfl, octets, rfl⟩ := hip
  have hparse : ipv4Env.nlAddrParse IpFamily.ipv4.af = parseIpv4 := rfl
  have htext := parseIpv4_addressText octets hlength
  rw [hparse, htext]
  rfl

theorem ipv4Env_succeeds : ipv4Env.Succeeds ipv4Schema where
  calls := fun _ _ => rfl
  answers := fun _ => rfl
  ip := isSome_parse_ipv4
  address := isSome_parse_ipv4_address
  lladdr := fun _ h => h.elim

/-- The IPv4 flag of `eth0` is set to a value. -/
def flagChange (value : String) : Change where
  operation := .modified
  leaf := .ipv4Enabled
  ifName := "eth0"
  nodeValue := value

theorem validChange_flagChange (session : Session) (value : String) :
    ipv4Schema.ValidChange session (flagChange value) where
  value := trivial
  previous := fun _ => trivial
  name := nofun
  ip := nofun
  created := nofun
  mandatory := nofun
  deleted := nofun

/-- `eth1` is created, and its IPv4 flag set. -/
def newInterface : Session where
  changes := [
    { operation := .created, leaf := .name, ifName := "eth1", nodeValue := "eth1" },
    { operation := .created, leaf := .ipv4Enabled, ifName := "eth1", nodeValue := "true" }]

theorem validSession_newInterface : ipv4Schema.ValidSession newInterface where
  running := ⟨by simp [newInterface], by simp [newInterface]⟩
  changes := by
    intro change hmem
    simp only [newInterface, List.mem_cons, List.not_mem_nil, or_false] at hmem
    rcases hmem with rfl | rfl
    · exact ⟨trivial, nofun, fun _ => rfl, nofun, nofun, fun _ h => absurd rfl h, nofun⟩
    · exact ⟨trivial, nofun, nofun, nofun, nofun, fun _ h => absurd rfl h, nofun⟩

/-- The link is there when its flag is handled: the first phase has added it. -/
theorem linksThere_newInterface (leaf : Leaf) (asked : List Request) (k : Kernel)
    (h : PhaseBegins ipv4Env newInterface sampleKernel leaf asked k) :
    LinksThere newInterface leaf k := by
  intro change hmem hlooks
  have hleaf := leaf_of_mem_changesOf hmem
  have hchange := (List.mem_filter.mp hmem).1
  simp only [newInterface, List.mem_cons, List.not_mem_nil, or_false] at hchange
  rcases hchange with rfl | rfl
  · cases hlooks
  · subst hleaf
    have hadded : ((plannedPhases ipv4Env newInterface (phasesBefore .ipv4Enabled)
        sampleKernel).map fun p => (p.2.links.getByName "eth1").isSome) = some true := by
      decide +kernel
    rw [h.2] at hadded
    exact Option.some.inj hadded

theorem accepted_newInterface :
    ((∃ s', (changeHandler ipv4Env newInterface (flagChange "false") .ipv4Enabled).run
        (InterfacesState.withCaches { kernel := sampleKernel }) = (.ok 0, s')) ↔
      ¬ EnabledRefused (sampleKernel.addrs = []) (flagChange "false")) ∧
    ((∃ s', (interfacesSubscriptionChangeInterfacesInterface ipv4Env newInterface .change).run
        { kernel := sampleKernel } = (.ok SR_ERR_OK, s')) ↔
      ∀ asked k, PhaseBegins ipv4Env newInterface sampleKernel .ipv4Enabled asked k →
        ∀ change ∈ newInterface.changesOf .ipv4Enabled,
          ¬ EnabledRefused (k.addrs = []) change) := by
  obtain ⟨hhandler, hevent⟩ := accepted_iff ipv4Env_succeeds validSession_newInterface.running
  constructor
  · exact hhandler _ _ (validChange_flagChange _ _) ⟨by simp [flagChange], by simp [flagChange]⟩
      fun _ => by decide
  · refine hevent _ validSession_newInterface ?_ linksThere_newInterface
    intro change hmem
    simp only [newInterface, List.mem_cons, List.not_mem_nil, or_false] at hmem
    rcases hmem with rfl | rfl <;> exact ⟨nofun, nofun⟩

/-- Every call succeeds, but an event that disables IPv4 is refused, and so is
one that enables it while no link has an address. -/
theorem flagChange_refused :
    let refused (value : String) (k : Kernel) :=
      (interfacesSubscriptionChangeInterfacesInterface ipv4Env
        { changes := [flagChange value] } .change).run { kernel := k }
    (refused "false" sampleKernel).1 = .ok SR_ERR_CALLBACK_FAILED ∧
      (refused "true" { sampleKernel with addrs := [] }).1 = .ok SR_ERR_CALLBACK_FAILED := by
  decide +kernel

end SysrepoInterfaces.Interfaces
