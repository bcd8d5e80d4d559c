import SysrepoInterfaces.Interfaces.Change

/-!
# SysrepoInterfaces.Interfaces.Steps

What the steps of the change handlers ensure when they do not lead to
`error_out`.
-/

namespace SysrepoInterfaces.Interfaces

open CProg

variable {env : InterfacesEnv} {change : Change} {I : InterfacesState → Prop}

theorem ensures_checked (hI : ∀ s n, I s → I { s with calls := n }) (c : Call) :
    Prog.Ensures I (checked env c) fun _ => I := by
  intro s a s' hs hrun
  rw [run_checked] at hrun
  cases hlib : env.lib s.calls c with
  | true =>
      rw [hlib] at hrun
      cases hrun
      exact hI s _ hs
  | false =>
      rw [hlib] at hrun
      cases hrun

theorem ensures_extractInterfaceName (hI : ∀ s n, I s → I { s with calls := n }) :
    Prog.Ensures I (extractInterfaceName env change) fun name s => name = change.ifName ∧ I s := by
  unfold extractInterfaceName
  refine (ensures_checked hI _).bind fun _ => ?_
  refine (ensures_checked hI _).bind fun _ => ?_
  exact Prog.ensures_pure fun _ hs => ⟨rfl, hs⟩

theorem ensures_interfacecsInterfaceExtractName (hI : ∀ s n, I s → I { s with calls := n }) :
    Prog.Ensures I (interfacecsInterfaceExtractName env change)
      fun name s => name = change.ifName ∧ I s := by
  unfold interfacecsInterfaceExtractName
  refine (ensures_checked hI _).bind fun _ => ?_
  refine (ensures_checked hI _).bind fun _ => ?_
  exact Prog.ensures_pure fun _ hs => ⟨rfl, hs⟩

theorem ensures_extractIp (hI : ∀ s n, I s → I { s with calls := n }) :
    Prog.Ensures I (extractIp env change) fun ip s => ip = change.ip ∧ I s := by
  unfold extractIp
  refine (ensures_checked hI _).bind fun _ => ?_
  exact Prog.ensures_pure fun _ hs => ⟨rfl, hs⟩

theorem ensures_currentLink {name : String} :
    Prog.Ensures I (currentLink name) fun link s =>
      Keyed.lookup RtnlLink.name name s.modCtx.linkCache = some link ∧ I s := by
  intro s link s' hs hrun
  rw [run_currentLink] at hrun
  cases hlookup : Keyed.lookup RtnlLink.name name s.modCtx.linkCache with
  | none =>
      rw [hlookup] at hrun
      cases hrun
  | some found =>
      rw [hlookup] at hrun
      cases hrun
      exact ⟨hlookup, hs⟩

theorem ensures_nlAddrParse {family : Nat} {text : String} :
    Prog.Ensures I (nlAddrParse env family text) fun addr s =>
      env.nlAddrParse family text = some addr ∧ I s := by
  unfold nlAddrParse
  intro s addr s' hs hrun
  split at hrun
  · next hparse =>
      cases hrun
      exact ⟨hparse, hs⟩
  · cases hrun

theorem ensures_netmaskLength {text : String} :
    Prog.Ensures I (netmaskLength env text) fun length s =>
      netmask2prefix env.littleEndian text = some length ∧ I s := by
  unfold netmaskLength
  intro s length s' hs hrun
  split at hrun
  · next hmask =>
      cases hrun
      exact ⟨hmask, hs⟩
  · cases hrun

theorem ensures_modDataOf {family : IpFamily} :
    Prog.Ensures I (modDataOf family) fun data s => data = s.modCtx.modData.get family ∧ I s := by
  intro s data s' hs hrun
  cases hrun
  exact ⟨rfl, hs⟩

/-- The init callback takes the caches from the kernel. -/
theorem ensures_interfacesChangeInterfaceInit {J : InterfacesState → Prop}
    (hI : ∀ s n, I s → J { s.withCaches with calls := n }) :
    Prog.Ensures I (interfacesChangeInterfaceInit env).require fun _ => J := by
  intro s _ s' hs hrun
  rw [interfacesChangeInterfaceInit, Prog.require_exitCode (by decide)] at hrun
  have hcalls : ∀ c t t', (checked env c).run t = (.ok (), t') →
      t' = { t with calls := t.calls + 1 } := by
    intro c t t' ht
    rw [run_checked] at ht
    exact (Prod.mk.inj ht).2.symm
  obtain ⟨_, s₁, h₁, hrun⟩ := Prog.bind_eq_ok hrun
  obtain ⟨_, s₂, h₂, hrun⟩ := Prog.bind_eq_ok hrun
  obtain ⟨_, s₃, h₃, hrun⟩ := Prog.bind_eq_ok hrun
  obtain ⟨_, s₄, h₄, hrun⟩ := Prog.bind_eq_ok hrun
  obtain ⟨_, s₅, h₅, hrun⟩ := Prog.bind_eq_ok hrun
  obtain rfl := hcalls _ _ _ h₁
  obtain rfl := hcalls _ _ _ h₂
  obtain rfl := hcalls _ _ _ h₃
  cases h₄
  obtain rfl := hcalls _ _ _ h₅
  cases hrun
  exact hI s _ hs

/-- A request that is not refused. -/
theorem ensures_request {r : Request} {J : InterfacesState → Prop}
    (hJ : ∀ s answer, I s → J { s with
      sent := s.sent ++ [(r, answer)], kernel := env.carryOut s.kernel r }) :
    Prog.Ensures I (request env r) fun _ => J := by
  intro s _ s' hs hrun
  unfold request at hrun
  rw [Prog.require_eq_ok, run_send] at hrun
  simp only [Prod.mk.injEq, Exit.ok.injEq] at hrun
  obtain ⟨hanswer, rfl⟩ := hrun
  simp only [hanswer, if_true]
  exact hJ s 0 hs

end SysrepoInterfaces.Interfaces
