import SysrepoInterfaces.Interfaces.Planned

/-!
# SysrepoInterfaces.Interfaces.Refused

What a refused change event leaves behind in the kernel: the changes before the
refusal, each in full, and of the refused one at most the removal of an old
address.  The callback stops at the first refusal and takes nothing back.
-/

namespace SysrepoInterfaces.Interfaces

open CProg Requests

section Refused

variable {env : InterfacesEnv} {session : Session} {change : Change} {links : LinkTable}

/-- The change that replaces an address by another. -/
def Change.Replaces (change : Change) : Prop :=
  change.operation = .modified ∧
    (change.leaf = .ipv4AddressNetmask ∨ ∃ family, change.leaf = .addressPrefixLength family)

/-- Of a change that is stopped at nothing was carried out, unless it replaces an
address: then it may be the removal of the old one. -/
theorem accepted_of_refusedAt {asked : List Request} {stop : List (Request × Int)}
    (hplan : planned env session links change = some asked) (h : RefusedAt stop asked) :
    accepted stop = [] ∨ change.Replaces ∧
      ∃ addr, accepted stop = [.addrDelete addr] ∧ asked.head? = some (.addrDelete addr) := by
  obtain ⟨r, hpre⟩ := h.accepted
  cases haccepted : accepted stop with
  | nil => exact .inl rfl
  | cons first rest =>
      rw [haccepted] at hpre
      obtain ⟨tail, rfl⟩ := hpre
      cases rest with
      | nil =>
          obtain ⟨hreplaces, -, ifindex, old, new, rfl, -⟩ := planned_two hplan
          exact .inr ⟨hreplaces, { ifindex, localAddr := old }, rfl, rfl⟩
      | cons second rest =>
          have hshort := (planned_two hplan).2.1
          simp at hshort

/-- A refused change event: the phases before one, and of that phase the changes
before one, are carried out as planned.  Of that change, where there is one, the
requests before the refused one are, which is at most the removal of an address
that was to be replaced.  An abort does nothing at all. -/
theorem refused_interface_change (env : InterfacesEnv) (session : Session) (s : InterfacesState) :
    (∀ s', (interfacesSubscriptionChangeInterfacesInterface env session .change).run s =
        (.ok SR_ERR_CALLBACK_FAILED, s') →
      ∃ leaf asked k done rest asked' k' stop,
        PhaseBegins env session s.kernel leaf asked k ∧
        session.changesOf leaf = done ++ rest ∧
        plannedChanges env session k.links done k = some (asked', k') ∧
        s'.sent = s.sent ++ (answered (asked ++ asked') ++ stop) ∧
        s'.kernel = (accepted stop).foldl env.carryOut k' ∧
        (stop = [] ∨ ∃ change later plan, rest = change :: later ∧
          planned env session k.links change = some plan ∧ RefusedAt stop plan ∧
          (accepted stop = [] ∨ change.Replaces ∧
            ∃ addr, accepted stop = [.addrDelete addr] ∧
              plan.head? = some (.addrDelete addr)))) ∧
    (interfacesSubscriptionChangeInterfacesInterface env session .abort).run s =
      (.ok SR_ERR_CALLBACK_FAILED, s) := by
  constructor
  · intro s' h
    have hrun := ((Prog.exitCode_eq_ne (by decide)).mp h).2
    obtain ⟨_, hleft, hsent, hkernel⟩ := (traces_phases (by decide) s.kernel).of_error rfl hrun
    obtain ⟨before, leaf, after, asked, k, hphases, hbefore, w, hw, rfl⟩ := hleft
    have hbegins : PhaseBegins env session s.kernel leaf asked k :=
      ⟨by simp [hphases], by rwa [phasesBefore_eq hphases]⟩
    have hlog : s'.sent = s.sent ++ (answered asked ++ w) := hsent
    have hserver : s'.kernel = (accepted (answered asked ++ w)).foldl env.carryOut s.kernel :=
      hkernel
    have hk : k = asked.foldl env.carryOut s.kernel := Link.planRounds_eq_foldl hbefore
    rw [accepted_append, accepted_answered, List.foldl_append, ← hk] at hserver
    rcases hw with rfl | ⟨done, change, later, asked', k', hchanges, hdone, stop, hstop, rfl⟩
    · exact ⟨leaf, asked, k, [], session.changesOf leaf, [], k, [], hbegins, rfl, rfl,
        by simpa using hlog, hserver, .inl rfl⟩
    · have hk' : k' = asked'.foldl env.carryOut k := Link.planRounds_eq_foldl hdone
      rw [accepted_append, accepted_answered, List.foldl_append, ← hk'] at hserver
      refine ⟨leaf, asked, k, done, change :: later, asked', k', stop, hbegins, hchanges, hdone,
        ?_, hserver, ?_⟩
      · rw [answered_append, List.append_assoc]
        exact hlog
      · rcases hstop with rfl | ⟨plan, hplan, hrefused⟩
        · exact .inl rfl
        · exact .inr ⟨change, later, plan, rfl, hplan, hrefused,
            accepted_of_refusedAt hplan hrefused⟩
  · rfl

end Refused

/-- The kernel refuses the third request. -/
def refusingEnv : InterfacesEnv := { sampleEnv with answer := fun n => if n = 2 then -1 else 0 }

/-- `eth0` gets another MTU, and the prefix length of its address goes from 24
to 16. -/
def shorterPrefix : Session where
  changes := [
    { operation := .modified, leaf := .ipv4Mtu, ifName := "eth0", nodeValue := "1400",
      previousValue := "1500" },
    { operation := .modified, leaf := .addressPrefixLength .ipv4, ifName := "eth0",
      ip := "192.0.2.1", nodeValue := "16", previousValue := "24" }]

def refusedState : InterfacesState :=
  ((interfacesSubscriptionChangeInterfacesInterface refusingEnv shorterPrefix .change).run
    { kernel := sampleKernel }).2

theorem run_refused : (interfacesSubscriptionChangeInterfacesInterface refusingEnv shorterPrefix
    .change).run { kernel := sampleKernel } = (.ok SR_ERR_CALLBACK_FAILED, refusedState) :=
  Prod.ext (by decide +kernel) rfl

/-- The MTU was handled before the new prefix length was refused. -/
theorem refused_interface_change_shorterPrefix :
    refusedState.sent.map Prod.snd = [0, 0, -1] ∧
    ∃ leaf asked k done rest asked' k' stop,
      PhaseBegins refusingEnv shorterPrefix sampleKernel leaf asked k ∧
      shorterPrefix.changesOf leaf = done ++ rest ∧
      plannedChanges refusingEnv shorterPrefix k.links done k = some (asked', k') ∧
      refusedState.sent = answered (asked ++ asked') ++ stop ∧
      refusedState.kernel = (accepted stop).foldl refusingEnv.carryOut k' ∧
      (stop = [] ∨ ∃ change later plan, rest = change :: later ∧
        planned refusingEnv shorterPrefix k.links change = some plan ∧ RefusedAt stop plan ∧
        (accepted stop = [] ∨ change.Replaces ∧
          ∃ addr, accepted stop = [.addrDelete addr] ∧
            plan.head? = some (.addrDelete addr))) :=
  ⟨by decide +kernel, (refused_interface_change refusingEnv shorterPrefix
    { kernel := sampleKernel }).1 refusedState run_refused⟩

/-- The address whose new prefix length was refused is gone, and an abort after
a change that went through does not bring the old prefix length back. -/
theorem refused_interface_change_loses_address :
    let refused := (interfacesSubscriptionChangeInterfacesInterface refusingEnv shorterPrefix
      .change).run { kernel := sampleKernel }
    let applied := (interfacesSubscriptionChangeInterfacesInterface sampleEnv shorterPrefix
      .change).run { kernel := sampleKernel }
    let aborted := (interfacesSubscriptionChangeInterfacesInterface sampleEnv shorterPrefix
      .abort).run applied.2
    (refused.1 = .ok SR_ERR_CALLBACK_FAILED ∧ refused.2.kernel.addrs = []) ∧
      applied.1 = .ok SR_ERR_OK ∧
      aborted.2.kernel.addrs = [{ ifindex := 2, localAddr := addr4 0xc0000201 16 }] := by
  decide +kernel

end SysrepoInterfaces.Interfaces
