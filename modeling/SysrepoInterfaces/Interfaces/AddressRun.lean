import SysrepoInterfaces.Interfaces.AddressSync

/-!
# SysrepoInterfaces.Interfaces.AddressRun

A whole change event, and a sequence of them: when the kernel's IPv4 addresses
are those of the datastore again.
-/

namespace SysrepoInterfaces.Interfaces

open CProg

/-! ## the changes of a phase -/

section Phase

variable {env : InterfacesEnv} {session : Session} {table : LinkTable} {link : RtnlLink}
  {old new config : AddressConfig} {data : FamilyData → Prop} {change : Change} {ip : Octets}
  {name : String} {leaf : Leaf}

/-- The addresses after some changes. -/
def carryOutAll (new : AddressConfig) (changes : List Change) (config : AddressConfig) :
    AddressConfig := fun ip =>
  if changes.any fun c => c.acts ∧ c.ip = dottedQuad ip then new ip else config ip

theorem carryOutAll_cons {changes : List Change} (hip : change.ip = dottedQuad ip) :
    carryOutAll new (change :: changes) config =
      carryOutAll new changes (carryOut new change ip config) := by
  funext ip'
  have hiff : change.ip = dottedQuad ip' ↔ ip' = ip := by
    rw [hip]
    exact ⟨fun h => (dottedQuad_inj h).symm, fun h => by rw [h]⟩
  simp only [carryOutAll, carryOut, List.any_cons, hiff]
  by_cases hacts : change.acts
  · by_cases hsame : ip' = ip
    · simp [hacts, hsame]
    · simp [hacts, hsame, Function.update_of_ne]
  · simp [hacts]

theorem IsStream.lookups (hstream : IsStream name old new session) {b : Subnet}
    (hold : old ip = none) (hnew : new ip = some b) : LooksUp session name ip b := by
  intro c hc hleaf _ hip
  obtain ⟨ip', hdiff⟩ := (hstream.changes c).mp hc
  obtain rfl : ip = ip' := dottedQuad_inj (hip.symm.trans (ip_of_mem_diff hdiff))
  rw [hold, hnew] at hdiff
  exact mem_diff_created hdiff hleaf

theorem SparesSubnets.alone (hspares : SparesSubnets old new) (hbetween : Between old new config)
    (ip : Octets) : Alone old new config ip :=
  fun a ha => (hspares ip a ha).1.between (hspares ip a ha).2 hbetween

theorem Between.carryOut (hbetween : Between old new config) :
    Between old new (carryOut new change ip config) := by
  intro ip'
  unfold Interfaces.carryOut
  split
  · by_cases hip : ip' = ip
    · exact .inr (by rw [hip, Function.update_self])
    · rw [Function.update_of_ne hip]
      exact hbetween ip'
  · exact hbetween ip'

theorem Between.carryOutAll (hbetween : Between old new config) (changes : List Change) :
    Between old new (carryOutAll new changes config) := by
  intro ip
  unfold Interfaces.carryOutAll
  split
  · exact .inr rfl
  · exact hbetween ip

/-- The handler of a leaf on one of its changes. -/
theorem ensures_changeHandler (hreads : ReadsIpv4 env) (hkernel : ChangesIpv4Addrs env)
    (hlink : table.getByName name = some link) (hstream : IsStream name old new session)
    (hmem : change ∈ diff name ip (old ip) (new ip))
    (hconfig : change.acts → config ip = old ip) (halone : Alone old new config ip) :
    Prog.Ensures (TracksInPhase table link.ifindex config Cleared)
      (changeHandler env session change change.leaf).require fun _ =>
        TracksInPhase table link.ifindex (carryOut new change ip config) Cleared := by
  rcases leaf_of_mem_diff hmem with hleaf | hleaf | hleaf
  · rw [hleaf]
    exact ensures_changeIp hreads hkernel hlink hstream.running (fun _ => hstream.lookups) hmem
      hleaf hconfig halone
  · rw [hleaf]
    exact ensures_changePrefixLength hreads hkernel hlink hmem hleaf hconfig halone
  · rw [hleaf]
    exact ensures_changeNetmask hreads hkernel hlink hmem hleaf hconfig halone

/-- The handlers of a phase, one after the other. -/
theorem ensures_changes (hreads : ReadsIpv4 env) (hkernel : ChangesIpv4Addrs env)
    (hlink : table.getByName name = some link) (hstream : IsStream name old new session)
    (hspares : SparesSubnets old new) (hbetween : Between old new config) {changes : List Change}
    (hleaf : ∀ c ∈ changes, c.leaf = leaf) (hmem : ∀ c ∈ changes, c ∈ session.changes)
    (hnodup : changes.Nodup)
    (hconfig : ∀ c ∈ changes, ∀ ip, c ∈ diff name ip (old ip) (new ip) → c.acts →
      config ip = old ip) :
    Prog.Ensures (TracksInPhase table link.ifindex config Cleared)
      (forM changes fun c => (changeHandler env session c leaf).require) fun _ =>
        TracksInPhase table link.ifindex (carryOutAll new changes config) Cleared := by
  induction changes generalizing config with
  | nil => exact Prog.ensures_pure fun _ hs => hs
  | cons c changes ih =>
      obtain ⟨hnew, hnodup⟩ := List.nodup_cons.mp hnodup
      obtain ⟨ip, hdiff⟩ := (hstream.changes c).mp (hmem c (by simp))
      have hip := ip_of_mem_diff hdiff
      have hround := ensures_changeHandler hreads hkernel hlink hstream hdiff
        (hconfig c (by simp) ip hdiff) (hspares.alone hbetween ip)
      rw [hleaf c (by simp)] at hround
      rw [List.forM_cons, carryOutAll_cons hip]
      refine hround.bind fun _ => ih hbetween.carryOut (fun c hc => hleaf c (by simp [hc]))
        (fun c hc => hmem c (by simp [hc])) hnodup ?_
      intro c' hc' ip' hdiff' hacts'
      have hkept := hconfig c' (by simp [hc']) ip' hdiff' hacts'
      by_cases hsame : ip' = ip
      · -- two changes of one leaf at one ip would be one change
        subst hsame
        have heq : c = c' := eq_of_mem_diff hdiff hdiff' <| by
          rw [hleaf c (by simp), hleaf c' (by simp [hc'])]
        exact absurd (heq ▸ hc') hnew
      · unfold carryOut
        split
        · rw [Function.update_of_ne hsame, hkept]
        · exact hkept

theorem ensures_init :
    Prog.Ensures (Tracks table link.ifindex config data)
      (interfacesChangeInterfaceInit env).require fun _ =>
        TracksInPhase table link.ifindex config data := by
  have hI : ∀ s n, Tracks table link.ifindex config data s →
      Tracks table link.ifindex config data { s with calls := n } :=
    fun s n hs => ⟨hs.links, hs.addrs, hs.data⟩
  have hcaches : Prog.Ensures (Tracks table link.ifindex config data)
      (Prog.modify fun s : InterfacesState =>
        s.setModCtx { s.modCtx with linkCache := s.kernel.links.links })
      fun _ => TracksInPhase table link.ifindex config data := by
    intro s _ s' hs hrun
    cases hrun
    exact ⟨⟨hs.links, hs.addrs, hs.data⟩, by rw [← hs.links]; rfl⟩
  have haddrs : Prog.Ensures (TracksInPhase table link.ifindex config data)
      (Prog.modify fun s : InterfacesState =>
        s.setModCtx { s.modCtx with addrCache := s.kernel.addrs })
      fun _ => TracksInPhase table link.ifindex config data := by
    intro s _ s' hs hrun
    cases hrun
    exact ⟨⟨hs.links, hs.addrs, hs.data⟩, hs.linkCache⟩
  unfold interfacesChangeInterfaceInit
  rw [Prog.require_exitCode (by decide)]
  refine (ensures_checked hI _).bind fun _ => (ensures_checked hI _).bind fun _ => ?_
  refine (ensures_checked hI _).bind fun _ => hcaches.bind fun _ => ?_
  exact (ensures_checked (fun _ n h => h.calls n) _).bind fun _ => haddrs

/-- A phase does what its handlers do; the context is cleared after it. -/
theorem ensures_phase {config' : AddressConfig}
    (hloop : Prog.Ensures (TracksInPhase table link.ifindex config data)
      (forM (session.changesOf leaf) fun c => (changeHandler env session c leaf).require) fun _ =>
        TracksInPhase table link.ifindex config' data) :
    Prog.Ensures (Tracks table link.ifindex config data) (phase env session leaf).require fun _ =>
      Tracks table link.ifindex config' Cleared := by
  unfold phase srpcIterateChanges
  rw [Prog.require_exitCode (by decide)]
  have hfree : ∀ s, TracksInPhase table link.ifindex config' data s →
      Tracks table link.ifindex config' Cleared (interfacesChangeInterfaceFree s) :=
    fun s hs => ⟨hs.links, hs.addrs, rfl⟩
  refine Prog.Ensures.out ?_ fun _ => hfree
  refine ensures_init.bind fun _ => ?_
  exact (ensures_checked (fun _ n h => h.calls n) _).bind fun _ => hloop

/-- A phase without changes. -/
theorem ensures_phase_nil (hnone : session.changesOf leaf = []) :
    Prog.Ensures (Tracks table link.ifindex config data) (phase env session leaf).require fun _ =>
      Tracks table link.ifindex config Cleared := by
  apply ensures_phase
  rw [hnone]
  exact Prog.ensures_pure fun _ hs => hs

end Phase

/-! ## a change event -/

section Event

variable {env : InterfacesEnv} {session : Session} {table : LinkTable} {link : RtnlLink}
  {old new config : AddressConfig} {data : FamilyData → Prop} {change : Change} {ip : Octets}
  {name : String} {leaf : Leaf}

theorem carryOutAll_apply (changes : List Change) :
    carryOutAll new changes config ip =
      if ∃ c ∈ changes, c.acts ∧ c.ip = dottedQuad ip then new ip else config ip := by
  simp [carryOutAll]

/-- A phase that comes before another leaves the addresses of the later one
alone. -/
theorem carryOutAll_eq_old (hstream : IsStream name old new session) {leaf leaf' : Leaf}
    (hne : leaf ≠ leaf') (hconfig : config ip = old ip) {c : Change}
    (hleaf : c.leaf = leaf') (hdiff : c ∈ diff name ip (old ip) (new ip)) (hacts : c.acts) :
    carryOutAll new (session.changesOf leaf) config ip = old ip := by
  rw [carryOutAll_apply, if_neg, hconfig]
  rintro ⟨c', hc', hacts', hip'⟩
  obtain ⟨hmem, hleaf'⟩ := List.mem_filter.mp hc'
  obtain ⟨ip', hdiff'⟩ := (hstream.changes c').mp hmem
  obtain rfl : ip = ip' := dottedQuad_inj (hip'.symm.trans (ip_of_mem_diff hdiff'))
  have heq := eq_of_acts hdiff hdiff' hacts hacts'
  have hleaf' : c'.leaf = leaf := by simpa using hleaf'
  exact hne (hleaf'.symm.trans (heq ▸ hleaf))

/-- The phases of the three leaves. -/
def addressPhases (session : Session) (new old : AddressConfig) : AddressConfig :=
  carryOutAll new (session.changesOf .ipv4AddressNetmask) <|
    carryOutAll new (session.changesOf (.addressPrefixLength .ipv4)) <|
      carryOutAll new (session.changesOf (.addressIp .ipv4)) old

/-- A phase of one of the three leaves. -/
theorem ensures_phase_changes (hreads : ReadsIpv4 env) (hkernel : ChangesIpv4Addrs env)
    (hlink : table.getByName name = some link) (hstream : IsStream name old new session)
    (hspares : SparesSubnets old new) (hbetween : Between old new config)
    (hconfig : ∀ c, c.leaf = leaf → ∀ ip, c ∈ diff name ip (old ip) (new ip) → c.acts →
      config ip = old ip) :
    Prog.Ensures (Tracks table link.ifindex config Cleared) (phase env session leaf).require
      fun _ => Tracks table link.ifindex (carryOutAll new (session.changesOf leaf) config)
        Cleared := by
  have hleaf : ∀ c ∈ session.changesOf leaf, c.leaf = leaf :=
    fun c hc => by simpa using (List.mem_filter.mp hc).2
  have hmem : ∀ c ∈ session.changesOf leaf, c ∈ session.changes :=
    fun c hc => (List.mem_filter.mp hc).1
  exact ensures_phase (ensures_changes hreads hkernel hlink hstream hspares hbetween hleaf hmem
    (hstream.nodup.filter _) fun c hc => hconfig c (hleaf c hc))

/-- No other leaf has changes. -/
theorem changesOf_eq_nil (hstream : IsStream name old new session)
    (hleaf : leaf ≠ .addressIp .ipv4 ∧ leaf ≠ .addressPrefixLength .ipv4 ∧
      leaf ≠ .ipv4AddressNetmask) : session.changesOf leaf = [] := by
  rw [Session.changesOf, List.filter_eq_nil_iff]
  intro c hc
  obtain ⟨ip, hdiff⟩ := (hstream.changes c).mp hc
  have hchange := leaf_of_mem_diff hdiff
  simp only [decide_eq_true_eq]
  grind

theorem ensures_phases_nil (hstream : IsStream name old new session) {leaves : List Leaf}
    (hleaves : ∀ leaf ∈ leaves, leaf ≠ .addressIp .ipv4 ∧ leaf ≠ .addressPrefixLength .ipv4 ∧
      leaf ≠ .ipv4AddressNetmask) :
    Prog.Ensures (Tracks table link.ifindex config Cleared)
      (forM leaves fun leaf => (phase env session leaf).require) fun _ =>
        Tracks table link.ifindex config Cleared :=
  Prog.ensures_forM fun leaf hleaf =>
    ensures_phase_nil (changesOf_eq_nil hstream (hleaves leaf hleaf))

/-- The phases before those of the IPv4 addresses, but for the first. -/
def leavesBefore : List Leaf :=
  [.description, .type, .enabled, .linkUpDownTrapEnable, .ipv4Mtu, .ipv4Enabled]

def leavesAfter : List Leaf := [
  .neighborIp .ipv4, .neighborLinkLayerAddress .ipv4, .addressIp .ipv6,
  .addressPrefixLength .ipv6, .neighborIp .ipv6, .neighborLinkLayerAddress .ipv6]

/-- What an event that is accepted does to the addresses. -/
theorem ensures_event (hreads : ReadsIpv4 env) (hkernel : ChangesIpv4Addrs env)
    (hlink : table.getByName name = some link) (hstream : IsStream name old new session)
    (hspares : SparesSubnets old new) :
    Prog.Ensures (Tracks table link.ifindex old fun _ => True)
      (forM phases fun leaf => (phase env session leaf).require) fun _ =>
        Tracks table link.ifindex (addressPhases session new old) Cleared := by
  have hne : Leaf.addressIp .ipv4 ≠ .addressPrefixLength .ipv4 := by simp
  have hne' : Leaf.addressIp .ipv4 ≠ .ipv4AddressNetmask := by simp
  have hne'' : Leaf.addressPrefixLength .ipv4 ≠ .ipv4AddressNetmask := by simp
  have hphases : phases = .name :: (leavesBefore ++
      [.addressIp .ipv4, .addressPrefixLength .ipv4, .ipv4AddressNetmask] ++ leavesAfter) := rfl
  have hname : Prog.Ensures (Tracks table link.ifindex old fun _ => True)
      (phase env session .name).require fun _ => Tracks table link.ifindex old Cleared :=
    ensures_phase_nil (changesOf_eq_nil hstream (by decide))
  have hstart : Between old new old := fun _ => .inl rfl
  have hip : Prog.Ensures (Tracks table link.ifindex old Cleared)
      (phase env session (.addressIp .ipv4)).require _ :=
    ensures_phase_changes hreads hkernel hlink hstream hspares hstart fun _ _ _ _ _ => rfl
  have hprefixLength : Prog.Ensures (Tracks table link.ifindex _ Cleared)
      (phase env session (.addressPrefixLength .ipv4)).require _ :=
    ensures_phase_changes hreads hkernel hlink hstream hspares (hstart.carryOutAll _)
      fun c hleaf ip hdiff hacts => carryOutAll_eq_old hstream hne rfl hleaf hdiff hacts
  have hnetmask : Prog.Ensures (Tracks table link.ifindex _ Cleared)
      (phase env session .ipv4AddressNetmask).require _ :=
    ensures_phase_changes hreads hkernel hlink hstream hspares
      ((hstart.carryOutAll _).carryOutAll _) fun c hleaf ip hdiff hacts =>
        carryOutAll_eq_old hstream hne'' (carryOutAll_eq_old hstream hne' rfl hleaf hdiff hacts)
          hleaf hdiff hacts
  have hbefore := @ensures_phases_nil env session table link old new old name hstream leavesBefore
    (by decide)
  have hafter := @ensures_phases_nil env session table link old new
    (addressPhases session new old) name hstream leavesAfter (by decide)
  rw [hphases, List.forM_cons, List.forM_append, List.forM_append, List.forM_cons, List.forM_cons,
    List.forM_cons, List.forM_nil]
  refine hname.bind fun _ => Prog.Ensures.bind (Prog.Ensures.bind hbefore fun _ => ?_)
    fun _ => hafter
  refine hip.bind fun _ => hprefixLength.bind fun _ => hnetmask.bind fun _ => ?_
  exact Prog.ensures_pure fun _ hs => hs

/-- An address without a change that is carried out is as it was. -/
theorem addressPhases_eq_old (hstream : IsStream name old new session)
    (hnone : ¬ ∃ c ∈ diff name ip (old ip) (new ip), c.acts) :
    addressPhases session new old ip = old ip := by
  have hout : ∀ leaf config, carryOutAll new (session.changesOf leaf) config ip = config ip := by
    intro leaf config
    rw [carryOutAll_apply, if_neg]
    rintro ⟨c, hc, hacts, hip⟩
    obtain ⟨ip', hdiff⟩ := (hstream.changes c).mp (List.mem_filter.mp hc).1
    obtain rfl : ip = ip' := dottedQuad_inj (hip.symm.trans (ip_of_mem_diff hdiff))
    exact hnone ⟨c, hdiff, hacts⟩
  unfold addressPhases
  rw [hout, hout, hout]

/-- An address with a change that is carried out is as it should be. -/
theorem addressPhases_eq_new (hstream : IsStream name old new session) {c : Change}
    (hdiff : c ∈ diff name ip (old ip) (new ip)) (hacts : c.acts) :
    addressPhases session new old ip = new ip := by
  have hmem : c ∈ session.changes := (hstream.changes c).mpr ⟨ip, hdiff⟩
  have hround : c ∈ session.changesOf c.leaf := List.mem_filter.mpr ⟨hmem, by simp⟩
  have hin : ∀ config, carryOutAll new (session.changesOf c.leaf) config ip = new ip := by
    intro config
    rw [carryOutAll_apply, if_pos ⟨c, hround, hacts, ip_of_mem_diff hdiff⟩]
  have hkeeps : ∀ leaf config, config ip = new ip →
      carryOutAll new (session.changesOf leaf) config ip = new ip := by
    intro leaf config h
    rw [carryOutAll_apply]
    split
    · rfl
    · exact h
  unfold addressPhases
  rcases leaf_of_mem_diff hdiff with hleaf | hleaf | hleaf
  · rw [hleaf] at hin
    exact hkeeps _ _ (hkeeps _ _ (hin _))
  · rw [hleaf] at hin
    exact hkeeps _ _ (hin _)
  · rw [hleaf] at hin
    exact hin _

/-- The prefix lengths are as they should be unless an address switches to
another length. -/
theorem lengths_addressPhases_iff (hstream : IsStream name old new session) :
    (∀ ip, (addressPhases session new old ip).map Subnet.length = (new ip).map Subnet.length) ↔
      SwitchesKeepLength old new := by
  refine forall_congr' fun ip => ?_
  by_cases hacts : ∃ c ∈ diff name ip (old ip) (new ip), c.acts
  · obtain ⟨c, hdiff, hc⟩ := hacts
    have hswitch := (exists_acts_iff.mp ⟨c, hdiff, hc⟩).2
    rw [addressPhases_eq_new hstream hdiff hc]
    constructor
    · intro _ a b hold hnew hleaf
      exact absurd ⟨a, b, hold, hnew, hleaf⟩ hswitch
    · exact fun _ => rfl
  · rw [addressPhases_eq_old hstream hacts]
    rw [exists_acts_iff] at hacts
    by_cases hsame : old ip = new ip
    · rw [hsame]
      constructor
      · intro _ a b hold hnew hleaf
        exact absurd (by rw [Option.some.inj (hold.symm.trans hnew)]) hleaf
      · exact fun _ => rfl
    · have hswitch : Switches (old ip) (new ip) := by
        by_contra h
        exact hacts ⟨hsame, h⟩
      obtain ⟨a, b, hold, hnew, hleaf⟩ := hswitch
      rw [hold, hnew]
      simp only [Option.map_some, Option.some.injEq]
      constructor
      · rintro hlength _ _ rfl rfl _
        exact hlength
      · intro h
        exact h a b rfl rfl hleaf

end Event

/-! ## runs -/

/-- The IPv4 addresses of the link of a name are those of a configuration. -/
def Kernel.Follows (k : Kernel) (name : String) (config : AddressConfig) : Prop :=
  ∃ link, k.links.getByName name = some link ∧ Represents k.addrs link.ifindex config

/-- A change event that the callback accepts. -/
def AcceptsChange (env : InterfacesEnv) (name : String) (old new : AddressConfig)
    (s s' : InterfacesState) : Prop :=
  ∃ session, IsStream name old new session ∧
    (interfacesSubscriptionChangeInterfacesInterface env session .change).run s =
      (.ok SR_ERR_OK, s')

/-- A sequence of accepted events in which addresses that switch keep their
prefix lengths, and none is taken out of a subnet it shares. -/
inductive AddressRun (env : InterfacesEnv) (name : String) (start : AddressConfig)
    (s : InterfacesState) : AddressConfig → InterfacesState → Prop
  | nil : AddressRun env name start s start s
  | step {old new : AddressConfig} {t u : InterfacesState}
      (hrun : AddressRun env name start s old t) (haccepts : AcceptsChange env name old new t u)
      (hkeeps : SwitchesKeepLength old new) (hspares : SparesSubnets old new) :
      AddressRun env name start s new u

section Run

variable {env : InterfacesEnv} {name : String} {start old new : AddressConfig}
  {s t u : InterfacesState}

/-- An accepted event that spares the subnets brings the kernel to the new
configuration exactly when the addresses that switch keep their lengths. -/
theorem AcceptsChange.follows_iff (hreads : ReadsIpv4 env) (hkernel : ChangesIpv4Addrs env)
    (h : AcceptsChange env name old new t u) (hspares : SparesSubnets old new)
    (hfollows : t.kernel.Follows name old) :
    u.kernel.Follows name new ↔ SwitchesKeepLength old new := by
  obtain ⟨session, hstream, hrun⟩ := h
  obtain ⟨link, hlink, haddrs⟩ := hfollows
  have hevent := change_eq_ok_iff.mp hrun
  have hstart : Tracks t.kernel.links link.ifindex old (fun _ => True) t := ⟨rfl, haddrs, trivial⟩
  have hend := ensures_event hreads hkernel hlink hstream hspares t () u hstart hevent
  rw [← lengths_addressPhases_iff hstream, ← hend.addrs.iff_of]
  constructor
  · rintro ⟨link', hlink', haddrs'⟩
    rw [hend.links, hlink] at hlink'
    cases hlink'
    exact haddrs'
  · intro haddrs'
    exact ⟨link, by rw [hend.links, hlink], haddrs'⟩

theorem AddressRun.follows (hreads : ReadsIpv4 env) (hkernel : ChangesIpv4Addrs env)
    (hrun : AddressRun env name start s old t) (hstart : s.kernel.Follows name start) :
    t.kernel.Follows name old := by
  induction hrun with
  | nil => exact hstart
  | step _ haccepts hkeeps hspares ih =>
      exact (haccepts.follows_iff hreads hkernel hspares ih).mpr hkeeps

/-- Along a run of accepted events the kernel follows the datastore; after one
more event, in which no address is taken out of a subnet it shares, it still does
exactly when no address switches between prefix length and netmask to another
length. -/
theorem addressRun_follows_iff (hreads : ReadsIpv4 env) (hkernel : ChangesIpv4Addrs env)
    (hrun : AddressRun env name start s old t) (hstart : s.kernel.Follows name start) :
    t.kernel.Follows name old ∧ ∀ new u, AcceptsChange env name old new t u →
      SparesSubnets old new → (u.kernel.Follows name new ↔ SwitchesKeepLength old new) := by
  have hold := hrun.follows hreads hkernel hstart
  exact ⟨hold, fun _ _ haccepts hspares => haccepts.follows_iff hreads hkernel hspares hold⟩

end Run

/-! ## one address -/

/-- The other addresses in the subnet of one, on its link. -/
def subnetOf (k : Kernel) (row : RtnlAddr) : List RtnlAddr :=
  k.addrs.filter fun other =>
    other.ifindex = row.ifindex ∧ SameSubnet row.localAddr other.localAddr

/-- A kernel that drops the secondary addresses of a subnet with the primary one,
which is the first. -/
def Kernel.dropSecondary (k : Kernel) : Request → Kernel
  | .addrDelete row =>
      if row.localAddr.family = AF_INET ∧ (subnetOf k row).head? = some row then
        { k with addrs := k.addrs.filter fun other => other ∉ subnetOf k row }
      else k.obey (.addrDelete row)
  | r => k.obey r

/-- A world with such a kernel, in which every call and every request succeeds. -/
def secondaryEnv : InterfacesEnv := { ipv4Env with carryOut := Kernel.dropSecondary }

theorem changesIpv4Addrs_secondaryEnv : ChangesIpv4Addrs secondaryEnv where
  addLinks _ _ _ := rfl
  deleteLinks k row _ := by
    simp only [secondaryEnv, Kernel.dropSecondary]
    split <;> rfl
  add k row other _ _ := by
    simp [secondaryEnv, Kernel.dropSecondary, Kernel.obey]
  delete k row other _ _ h := by
    simp only [secondaryEnv, Kernel.dropSecondary] at h
    split at h
    · next hprimary =>
        obtain ⟨hmem, hout⟩ := List.mem_filter.mp h
        refine ⟨hmem, ?_⟩
        rintro rfl
        have hrow := List.mem_of_mem_head? (Option.mem_def.mpr hprimary.2)
        simp [hrow] at hout
    · simpa [Kernel.obey] using h
  spare k row other _ _ hmem hne hout := by
    simp only [secondaryEnv, Kernel.dropSecondary]
    split
    · refine List.mem_filter.mpr ⟨hmem, ?_⟩
      simpa [subnetOf, hmem, imp_iff_not_or] using hout
    · simpa [Kernel.obey] using ⟨hmem, hne⟩

def documentationIp : Octets := ⟨192, 0, 2, 1⟩

/-- One address with a subnet. -/
def oneAddress (subnet : Subnet) : AddressConfig :=
  fun ip => if ip = documentationIp then some subnet else none

def runningOf (subnet : Subnet) : Running where
  prefixLength _ _ _ :=
    match subnet with
    | .prefixLength n => some (UInt8.ofNat n)
    | .netmask _ => none
  netmask _ _ :=
    match subnet with
    | .prefixLength _ => none
    | .netmask n => some (dottedQuad (maskOctets n))

/-- The address gets another subnet. -/
def subnetSession (old new : Subnet) : Session where
  changes := diff "eth0" documentationIp (some old) (some new)
  running := runningOf old

theorem isStream_subnetSession (old new : Subnet) :
    IsStream "eth0" (oneAddress old) (oneAddress new) (subnetSession old new) where
  changes change := by
    constructor
    · exact fun h => ⟨documentationIp, by simpa [oneAddress, subnetSession] using h⟩
    · rintro ⟨ip, hdiff⟩
      by_cases hip : ip = documentationIp
      · subst hip
        simpa [oneAddress, subnetSession] using hdiff
      · simp [oneAddress, hip, diff] at hdiff
  nodup := by
    simp only [subnetSession, diff]
    split
    · simp
    · split <;> simp [subnetChange]
  running := by
    constructor
    · intro ip n h
      obtain ⟨-, rfl⟩ : ip = documentationIp ∧ old = .prefixLength n := by
        simpa [oneAddress] using h
      rfl
    · intro ip n h
      obtain ⟨-, rfl⟩ : ip = documentationIp ∧ old = .netmask n := by
        simpa [oneAddress] using h
      exact ⟨rfl, rfl⟩

theorem secondaryEnv_reads : ReadsIpv4 secondaryEnv := by
  have hparse : secondaryEnv.nlAddrParse AF_INET = parseIpv4 := rfl
  constructor
  · intro ip
    rw [hparse]
    exact parseIpv4_dottedQuad ip
  · intro ip length hlength
    rw [hparse]
    exact parseIpv4_addressText ip hlength

theorem sampleKernel_follows : sampleKernel.Follows "eth0" (oneAddress (.prefixLength 24)) := by
  refine ⟨{ ifindex := 2, name := "eth0" }, by decide, fun addr hfamily => ?_⟩
  have haddrs : sampleKernel.addrs =
      [{ ifindex := 2, localAddr := addr4 documentationIp.bits 24 }] := by decide
  rw [haddrs, List.mem_singleton]
  constructor
  · intro heq
    exact ⟨documentationIp, .prefixLength 24, rfl, congrArg RtnlAddr.localAddr heq⟩
  · rintro ⟨ip, subnet, hconfig, rfl⟩
    unfold oneAddress at hconfig
    split at hconfig
    · next hip =>
        cases hconfig
        rw [hip]
        rfl
    · cases hconfig

/-- The event in which the address gets another subnet. -/
def runSubnet (new : Subnet) : Exit Int × InterfacesState :=
  (interfacesSubscriptionChangeInterfacesInterface secondaryEnv
    (subnetSession (.prefixLength 24) new) .change).run { kernel := sampleKernel }

theorem acceptsChange_runSubnet {new : Subnet} (h : (runSubnet new).1 = .ok SR_ERR_OK) :
    AcceptsChange secondaryEnv "eth0" (oneAddress (.prefixLength 24)) (oneAddress new)
      { kernel := sampleKernel } (runSubnet new).2 := by
  refine ⟨subnetSession (.prefixLength 24) new, isStream_subnetSession _ _, ?_⟩
  rw [← runSubnet]
  exact Prod.ext h rfl

theorem runSubnet_shorter : (runSubnet (.prefixLength 16)).1 = .ok SR_ERR_OK := by decide +kernel

theorem switchesKeepLength_shorter :
    SwitchesKeepLength (oneAddress (.prefixLength 24)) (oneAddress (.prefixLength 16)) := by
  intro ip a b ha hb hleaf
  simp only [oneAddress] at ha hb
  grind [Subnet.leaf]

/-- There is no other address. -/
theorem sparesSubnets_oneAddress (old new : Subnet) :
    SparesSubnets (oneAddress old) (oneAddress new) := by
  intro ip a ha
  obtain ⟨hold, -⟩ := ha
  have hip : ip = documentationIp := by
    unfold oneAddress at hold
    split at hold
    · next h => exact h
    · cases hold
  have halone : ∀ subnet, AloneInSubnet (oneAddress subnet) ip a := by
    intro subnet ip' other hne hconfig
    rw [oneAddress, if_neg (hip ▸ hne)] at hconfig
    cases hconfig
  exact ⟨halone old, halone new⟩

theorem addressRun_follows_iff_shorter :
    (runSubnet (.prefixLength 16)).2.kernel.Follows "eth0" (oneAddress (.prefixLength 16)) ∧
      ∀ new u, AcceptsChange secondaryEnv "eth0" (oneAddress (.prefixLength 16)) new
        (runSubnet (.prefixLength 16)).2 u → SparesSubnets (oneAddress (.prefixLength 16)) new →
          (u.kernel.Follows "eth0" new ↔
            SwitchesKeepLength (oneAddress (.prefixLength 16)) new) :=
  addressRun_follows_iff secondaryEnv_reads changesIpv4Addrs_secondaryEnv
    (.step .nil (acceptsChange_runSubnet runSubnet_shorter) switchesKeepLength_shorter
      (sparesSubnets_oneAddress _ _))
    sampleKernel_follows

/-- Without its primary address a subnet has none left. -/
example :
    let primary : Change := ipChange .deleted "eth0" documentationIp
    let session : Session :=
      { changes := [primary], running := runningOf (.prefixLength 24) }
    let secondary : RtnlAddr := { ifindex := 2, localAddr := addr4 0xc0000202 24 }
    let run := (interfacesSubscriptionChangeInterfacesInterface secondaryEnv session .change).run
      { kernel := { sampleKernel with addrs := sampleKernel.addrs ++ [secondary] } }
    run.1 = .ok SR_ERR_OK ∧ run.2.kernel.addrs = [] := by
  decide +kernel

/-- The address goes from the prefix length 24 to the netmask 255.255.0.0: the
event is accepted, and the kernel keeps the old prefix length. -/
theorem switched_address_not_followed :
    AcceptsChange secondaryEnv "eth0" (oneAddress (.prefixLength 24)) (oneAddress (.netmask 16))
        { kernel := sampleKernel } (runSubnet (.netmask 16)).2 ∧
      sampleKernel.Follows "eth0" (oneAddress (.prefixLength 24)) ∧
      (runSubnet (.netmask 16)).2.kernel.addrs =
        [{ ifindex := 2, localAddr := addr4 0xc0000201 24 }] ∧
      ¬ (runSubnet (.netmask 16)).2.kernel.Follows "eth0" (oneAddress (.netmask 16)) := by
  have haccepts : AcceptsChange secondaryEnv "eth0" (oneAddress (.prefixLength 24))
      (oneAddress (.netmask 16)) { kernel := sampleKernel } (runSubnet (.netmask 16)).2 :=
    acceptsChange_runSubnet (by decide +kernel)
  refine ⟨haccepts, sampleKernel_follows, by decide +kernel, ?_⟩
  rw [haccepts.follows_iff secondaryEnv_reads changesIpv4Addrs_secondaryEnv
    (sparesSubnets_oneAddress _ _) sampleKernel_follows]
  intro hkeeps
  have hlength := hkeeps documentationIp (.prefixLength 24) (.netmask 16) rfl rfl (by decide)
  exact absurd hlength (by decide)

end SysrepoInterfaces.Interfaces
