import SysrepoInterfaces.Interfaces.Change

/-!
# SysrepoInterfaces.Interfaces.Outcome

How the steps of the change handlers end when the library calls succeed.  A
checked call moves nothing but the count of calls, so what it leaves alone are
the predicates that do not look at the count.
-/

namespace SysrepoInterfaces.Interfaces

open CProg

/-- Every checked call succeeds. -/
def InterfacesEnv.CallsSucceed (env : InterfacesEnv) : Prop := ∀ n c, env.lib n c = true

/-- Does not depend on the number of calls made. -/
def Stable (I : InterfacesState → Prop) : Prop := ∀ s n, I s → I { s with calls := n }

variable {env : InterfacesEnv} {session : Session} {change : Change} {name : String}
  {I J : InterfacesState → Prop}

theorem run_checked_of_succeeds (hlib : env.CallsSucceed) (c : Call) (s : InterfacesState) :
    (checked env c).run s = (.ok (), { s with calls := s.calls + 1 }) := by
  rw [run_checked, hlib]
  rfl

theorem ends_checked (hlib : env.CallsSucceed) (hI : Stable I) (c : Call) :
    Prog.Ends I (checked env c) fun _ => I := by
  intro s hs
  exact ⟨(), _, run_checked_of_succeeds hlib c s, hI s _ hs⟩

theorem ends_extractInterfaceName (hlib : env.CallsSucceed) (hI : Stable I) :
    Prog.Ends I (extractInterfaceName env change) fun name s => name = change.ifName ∧ I s :=
  (ends_checked hlib hI _).bind fun _ => (ends_checked hlib hI _).bind fun _ =>
    Prog.ends_pure fun _ hs => ⟨rfl, hs⟩

theorem ends_interfacecsInterfaceExtractName (hlib : env.CallsSucceed) (hI : Stable I) :
    Prog.Ends I (interfacecsInterfaceExtractName env change)
      fun name s => name = change.ifName ∧ I s :=
  (ends_checked hlib hI _).bind fun _ => (ends_checked hlib hI _).bind fun _ =>
    Prog.ends_pure fun _ hs => ⟨rfl, hs⟩

theorem ends_extractIp (hlib : env.CallsSucceed) (hI : Stable I) :
    Prog.Ends I (extractIp env change) fun ip s => ip = change.ip ∧ I s :=
  (ends_checked hlib hI _).bind fun _ => Prog.ends_pure fun _ hs => ⟨rfl, hs⟩

/-- The link the cache has under a name. -/
def cachedLink (s : InterfacesState) (name : String) : Option RtnlLink :=
  Keyed.lookup RtnlLink.name name s.modCtx.linkCache

theorem ends_currentLink (hlink : ∀ s, I s → (cachedLink s name).isSome) :
    Prog.Ends I (currentLink name) fun link s => cachedLink s name = some link ∧ I s := by
  intro s hs
  obtain ⟨link, hcached⟩ := Option.isSome_iff_exists.mp (hlink s hs)
  refine ⟨link, s, ?_, hcached, hs⟩
  rw [run_currentLink, show Keyed.lookup RtnlLink.name name s.modCtx.linkCache = some link
    from hcached]

theorem leaves_currentLink (hlink : ∀ s, I s → cachedLink s name = none) :
    Prog.Leaves I (currentLink name) I := by
  intro s hs
  refine ⟨s, ?_, hs⟩
  rw [run_currentLink, show Keyed.lookup RtnlLink.name name s.modCtx.linkCache = none
    from hlink s hs]

/-- A request that is accepted. -/
theorem ends_request {r : Request} (hanswer : ∀ s, I s → env.answer s.sent.length = 0)
    (hJ : ∀ s, I s → J { s with
      sent := s.sent ++ [(r, 0)], kernel := env.carryOut s.kernel r }) :
    Prog.Ends I (request env r) fun _ => J := by
  intro s hs
  have hsend := run_send env r s
  rw [hanswer s hs, if_pos rfl] at hsend
  exact ⟨(), _, Prog.run_require_of_zero hsend, hJ s hs⟩

/-! ## functions with epilogues -/

section Epilogues

variable {α : Type} {p : InterfacesM Unit}

theorem ends_exitCode_require (h : Prog.Ends I p fun _ => J) :
    Prog.Ends I (p.exitCode (-1)).require fun _ => J := by
  rw [Prog.require_exitCode (by decide)]
  exact h

theorem leaves_exitCode_require (h : Prog.Leaves I p J) :
    Prog.Leaves I (p.exitCode (-1)).require J := by
  rw [Prog.require_exitCode (by decide)]
  exact h

end Epilogues

/-! ## the phases -/

theorem ends_init (hlib : env.CallsSucceed) (hI : ∀ s n, I s → J { s.withCaches with calls := n }) :
    Prog.Ends I (interfacesChangeInterfaceInit env).require fun _ => J := by
  intro s hs
  have hrun : (interfacesChangeInterfaceInit env).run s =
      (.ok 0, { s.withCaches with calls := s.calls + 4 }) := by
    simp [interfacesChangeInterfaceInit, Prog.run_exitCode, Prog.run_bind,
      run_checked_of_succeeds hlib, InterfacesState.withCaches, InterfacesState.setModCtx]
  exact ⟨(), _, Prog.run_require_of_zero hrun, hI s _ hs⟩

/-- A phase whose handlers return 0. -/
theorem ends_phase {I' J' : InterfacesState → Prop} {leaf : Leaf} (hlib : env.CallsSucceed)
    (hI : ∀ s n, I s → J { s.withCaches with calls := n }) (hJ : Stable J)
    (hloop : Prog.Ends J (forM (session.changesOf leaf) fun change =>
      (changeHandler env session change leaf).require) fun _ => J')
    (hfree : ∀ s, J' s → I' (interfacesChangeInterfaceFree s)) :
    Prog.Ends I (phase env session leaf).require fun _ => I' := by
  refine ends_exitCode_require (Prog.Ends.out ?_ fun _ => hfree)
  exact (ends_init hlib hI).bind fun _ => (ends_checked hlib hJ _).bind fun _ => hloop

/-- A phase in which a handler fails. -/
theorem leaves_phase {I' J' : InterfacesState → Prop} {leaf : Leaf} (hlib : env.CallsSucceed)
    (hI : ∀ s n, I s → J { s.withCaches with calls := n }) (hJ : Stable J)
    (hloop : Prog.Leaves J (forM (session.changesOf leaf) fun change =>
      (changeHandler env session change leaf).require) J')
    (hfree : ∀ s, J' s → I' (interfacesChangeInterfaceFree s)) :
    Prog.Leaves I (phase env session leaf).require I' := by
  refine leaves_exitCode_require (Prog.Leaves.out ?_ hfree)
  exact (ends_init hlib hI).bind_leaves fun _ => (ends_checked hlib hJ _).bind_leaves fun _ => hloop

/-- A change event is accepted when all of its phases are. -/
theorem change_eq_ok_iff {s s' : InterfacesState} :
    (interfacesSubscriptionChangeInterfacesInterface env session .change).run s =
        (.ok SR_ERR_OK, s') ↔
      (forM phases fun leaf => (phase env session leaf).require).run s = (.ok (), s') := by
  have hok : SR_ERR_OK = 0 := rfl
  rw [interfacesSubscriptionChangeInterfacesInterface, hok, Prog.exitCode_eq_zero (by decide)]

end SysrepoInterfaces.Interfaces
