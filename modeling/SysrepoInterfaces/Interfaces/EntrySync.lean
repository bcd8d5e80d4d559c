import SysrepoInterfaces.Interfaces.Entries
import SysrepoInterfaces.Interfaces.RoundTrip
import SysrepoInterfaces.Interfaces.Steps

/-!
# SysrepoInterfaces.Interfaces.EntrySync

What the handlers of the IPv6 addresses and of the neighbours do to the kernel:
each change that is carried out makes its entry the one of the new
configuration, and leaves the others alone.
-/

namespace SysrepoInterfaces.Interfaces

open CProg Mirror

/-! ## requests -/

section Requests

variable {env : InterfacesEnv} {schema : Schema} {managed : Book → EntryKey → Prop}
  {entries : BookEntries} {k : Kernel} {key : EntryKey} {family : IpFamily}

/-- An address for a new entry. -/
theorem Kernel.HasEntries.addAddress (h : k.HasEntries env managed entries)
    (hkernel : LeavesEntries env managed) (hreads : ReadsCanonical env schema)
    (hvalid : ValidEntries schema managed entries) (hmanaged : managed .address key)
    (hip : schema.ipAddress .ipv6 key.2) {text : String} (htext : PrefixLengthText .ipv6 text)
    (hnone : entries .address key = none) {row : RtnlAddr}
    (hrow : addressRow env k.links key text = some row) :
    (env.carryOut k (.addrAdd row)).HasEntries env managed
      (entries.set .address key (some text)) := by
  have hdomain := addressRow_domain hreads hmanaged hip htext hrow
  have hlinks := hkernel.links k (.addrAdd row) rfl
  constructor
  · rw [hlinks]
    exact h.links
  · rw [hlinks, BookEntries.set_self]
    refine h.addrs.insert hnone hrow (fun key' text' hentry hrow' => ?_)
      fun r hr => hkernel.addrAdd k row r hdomain hr
    exact key_eq_of_addressRow hreads (hvalid.ip .address _ _ hentry) hip
      (hvalid.value .address _ _ hentry) htext hrow' hrow
  · intro family
    rw [hlinks, BookEntries.set_of_ne (by simp)]
    exact (h.neighs family).frame fun r hr => (hkernel.addrNeighs k row family r hdomain hr).1

/-- The address of an entry that goes. -/
theorem Kernel.HasEntries.deleteAddress (h : k.HasEntries env managed entries)
    (hkernel : LeavesEntries env managed) (hreads : ReadsCanonical env schema)
    (hvalid : ValidEntries schema managed entries) {text : String}
    (hsome : entries .address key = some text) {row : RtnlAddr}
    (hrow : addressRow env k.links key text = some row) :
    (env.carryOut k (.addrDelete row)).HasEntries env managed
      (entries.set .address key none) := by
  have hdomain := addressRow_domain hreads (hvalid.managed .address _ _ hsome)
    (hvalid.ip .address _ _ hsome) (hvalid.value .address _ _ hsome) hrow
  have hlinks := hkernel.links k (.addrDelete row) rfl
  constructor
  · rw [hlinks]
    exact h.links
  · rw [hlinks, BookEntries.set_self]
    refine h.addrs.remove hsome hrow (fun key' text' hentry hrow' => ?_)
      fun r hr => hkernel.addrDelete k row r hdomain hr
    exact key_eq_of_addressRow hreads (hvalid.ip .address _ _ hentry)
      (hvalid.ip .address _ _ hsome) (hvalid.value .address _ _ hentry)
      (hvalid.value .address _ _ hsome) hrow' hrow
  · intro family
    rw [hlinks, BookEntries.set_of_ne (by simp)]
    exact (h.neighs family).frame fun r hr => (hkernel.addrNeighs k row family r hdomain hr).2

/-- What is there under the key of a row is the entry of that key. -/
theorem Kernel.HasEntries.entry_of_key (h : k.HasEntries env managed entries)
    (hreads : ReadsCanonical env schema) (hvalid : ValidEntries schema managed entries)
    (hmanaged : managed (.neighbor family) key) (hip : schema.ipAddress family key.2)
    {text : String} {row neigh : RtnlNeigh}
    (hrow : neighborRow env k.links family key text = some row) (hneigh : neigh ∈ k.neighs)
    (hkey : neigh.key = row.key) :
    Encodes (neighborRow env k.links family) key (entries (.neighbor family) key) neigh := by
  have hdomain := (neighborRow_domain hreads hmanaged hip hrow).of_key hkey
  obtain ⟨key', text', hentry, hrow'⟩ := ((h.neighs family).mem_iff hdomain).mp hneigh
  obtain rfl := key_eq_of_neighborRow hreads (hvalid.ip (.neighbor family) _ _ hentry) hip hrow'
    hrow hkey
  exact ⟨text', hentry, hrow'⟩

/-- There is nothing else under the key of an entry. -/
theorem Kernel.HasEntries.count_of_key (h : k.HasEntries env managed entries)
    (hreads : ReadsCanonical env schema) (hvalid : ValidEntries schema managed entries)
    {text : String} (hsome : entries (.neighbor family) key = some text) {row r : RtnlNeigh}
    (hrow : neighborRow env k.links family key text = some row) (hkey : r.key = row.key)
    (hne : r ≠ row) : k.neighs.count r = 0 := by
  rw [List.count_eq_zero]
  intro hmem
  have hencodes := h.entry_of_key hreads hvalid (hvalid.managed (.neighbor family) _ _ hsome)
    (hvalid.ip (.neighbor family) _ _ hsome) hrow hmem hkey
  rw [hsome, encodes_some, hrow] at hencodes
  exact hne (Option.some.inj hencodes).symm

/-- Rows of the other family have other keys. -/
theorem key_ne_of_family {family' : IpFamily} (hne : family' ≠ family) {r row : RtnlNeigh}
    (hr : r.dst.family = family'.af) (hrow : row.dst.family = family.af) : r.key ≠ row.key := by
  intro hkey
  have hdst : r.dst = row.dst := congrArg Prod.snd hkey
  rw [hdst, hrow] at hr
  cases family <;> cases family' <;> first | exact hne rfl | exact absurd hr (by decide)

/-- A neighbour for a new entry. -/
theorem Kernel.HasEntries.addNeighbor (h : k.HasEntries env managed entries)
    (hkernel : LeavesEntries env managed) (hreads : ReadsCanonical env schema)
    (hvalid : ValidEntries schema managed entries) (hmanaged : managed (.neighbor family) key)
    (hip : schema.ipAddress family key.2) {text : String}
    (hnone : entries (.neighbor family) key = none) {row : RtnlNeigh}
    (hrow : neighborRow env k.links family key text = some row) :
    (env.carryOut k (.neighAdd row NLM_F_CREATE)).HasEntries env managed
      (entries.set (.neighbor family) key (some text)) := by
  have hdomain := neighborRow_domain hreads hmanaged hip hrow
  have hlinks := hkernel.links k (.neighAdd row NLM_F_CREATE) rfl
  have hkey : row.key ∉ k.neighs.map RtnlNeigh.key := by
    intro hmem
    obtain ⟨neigh, hneigh, hsame⟩ := List.mem_map.mp hmem
    have hencodes := h.entry_of_key hreads hvalid hmanaged hip hrow hneigh hsame
    rw [hnone] at hencodes
    exact not_encodes_none hencodes
  constructor
  · rw [hlinks]
    exact h.links
  · rw [hlinks, BookEntries.set_of_ne (by simp)]
    exact h.addrs.frame fun r hr => (hkernel.neighAddrs k row family _ r hdomain hr).1
  · intro family'
    have hcount : ∀ r, ManagedNeigh env managed k.links family' r → _ :=
      fun r hr => hkernel.neighCreate k row family family' r hdomain hkey hr
    rw [hlinks]
    by_cases hfamily : family' = family
    · subst hfamily
      rw [BookEntries.set_self]
      refine (h.neighs family').insert hnone hrow (fun key' text' hentry hrow' => ?_) hcount
      exact key_eq_of_neighborRow hreads (hvalid.ip (.neighbor family') _ _ hentry) hip hrow' hrow
        rfl
    · rw [BookEntries.set_of_ne (by simpa using hfamily)]
      refine (h.neighs family').frame fun r hr => ?_
      have hne : r ≠ row := by
        rintro rfl
        exact key_ne_of_family hfamily hr.1 hdomain.1 rfl
      rw [hcount r hr, if_neg hne, Nat.add_zero]

/-- The neighbour of an entry that goes. -/
theorem Kernel.HasEntries.deleteNeighbor (h : k.HasEntries env managed entries)
    (hkernel : LeavesEntries env managed) (hreads : ReadsCanonical env schema)
    (hvalid : ValidEntries schema managed entries) {text : String}
    (hsome : entries (.neighbor family) key = some text) {row neigh : RtnlNeigh}
    (hrow : neighborRow env k.links family key text = some row) (hkey : neigh.key = row.key) :
    (env.carryOut k (.neighDelete neigh)).HasEntries env managed
      (entries.set (.neighbor family) key none) := by
  have hdomain := neighborRow_domain hreads (hvalid.managed (.neighbor family) _ _ hsome)
    (hvalid.ip (.neighbor family) _ _ hsome) hrow
  have hlinks := hkernel.links k (.neighDelete neigh) rfl
  have hasked := hdomain.of_key hkey
  constructor
  · rw [hlinks]
    exact h.links
  · rw [hlinks, BookEntries.set_of_ne (by simp)]
    exact h.addrs.frame fun r hr => (hkernel.neighAddrs k neigh family 0 r hasked hr).2
  · intro family'
    have hcount : ∀ r, ManagedNeigh env managed k.links family' r →
        (env.carryOut k (.neighDelete neigh)).neighs.count r =
          if r.key = row.key then 0 else k.neighs.count r := by
      intro r hr
      rw [hkernel.neighDelete k neigh family family' r hasked hr, hkey]
    rw [hlinks]
    by_cases hfamily : family' = family
    · subst hfamily
      rw [BookEntries.set_self]
      refine (h.neighs family').remove hsome hrow (fun key' text' hentry hrow' => ?_)
        fun r hr => ?_
      · exact key_eq_of_neighborRow hreads (hvalid.ip (.neighbor family') _ _ hentry)
          (hvalid.ip (.neighbor family') _ _ hsome) hrow' hrow rfl
      · have hother := @count_of_key env schema managed entries k key family' h hreads hvalid text
          hsome row r hrow
        rw [hcount r hr]
        grind
    · rw [BookEntries.set_of_ne (by simpa using hfamily)]
      refine (h.neighs family').frame fun r hr => ?_
      rw [hcount r hr, if_neg (key_ne_of_family hfamily hr.1 hdomain.1)]

/-- The neighbour of an entry that gets another link layer address. -/
theorem Kernel.HasEntries.replaceNeighbor (h : k.HasEntries env managed entries)
    (hkernel : LeavesEntries env managed) (hreads : ReadsCanonical env schema)
    (hvalid : ValidEntries schema managed entries) {text text' : String}
    (hsome : entries (.neighbor family) key = some text) {row row' : RtnlNeigh}
    (hrow : neighborRow env k.links family key text = some row)
    (hrow' : neighborRow env k.links family key text' = some row') :
    (env.carryOut k (.neighAdd row' NLM_F_REPLACE)).HasEntries env managed
      (entries.set (.neighbor family) key (some text')) := by
  have hmanaged := hvalid.managed (.neighbor family) _ _ hsome
  have hip := hvalid.ip (.neighbor family) _ _ hsome
  have hdomain := neighborRow_domain hreads hmanaged hip hrow
  have hdomain' := neighborRow_domain hreads hmanaged hip hrow'
  have hlinks := hkernel.links k (.neighAdd row' NLM_F_REPLACE) rfl
  have hkey : row'.key = row.key := by
    obtain ⟨link, dst, ll, hlink, hdst, -, rfl⟩ := neighborRow_eq_some.mp hrow
    obtain ⟨link', dst', ll', hlink', hdst', -, rfl⟩ := neighborRow_eq_some.mp hrow'
    rw [hlink] at hlink'
    rw [hdst] at hdst'
    cases hlink'
    cases hdst'
    rfl
  have hmem : row'.key ∈ k.neighs.map RtnlNeigh.key := by
    rw [hkey]
    exact List.mem_map_of_mem (((h.neighs family).mem_iff hdomain).mpr ⟨key, text, hsome, hrow⟩)
  constructor
  · rw [hlinks]
    exact h.links
  · rw [hlinks, BookEntries.set_of_ne (by simp)]
    exact h.addrs.frame fun r hr => (hkernel.neighAddrs k row' family _ r hdomain' hr).1
  · intro family'
    have hcount : ∀ r, ManagedNeigh env managed k.links family' r → _ :=
      fun r hr => hkernel.neighReplace k row' family family' r hdomain' hmem hr
    rw [hlinks]
    by_cases hfamily : family' = family
    · subst hfamily
      rw [BookEntries.set_self]
      refine (h.neighs family').replace hsome hrow hrow' (fun key' text'' r hentry hr hone => ?_)
        fun r hr => ?_
      · have hsame : r.key = row.key := by
          rcases hone with rfl | rfl
          · rfl
          · exact hkey
        exact key_eq_of_neighborRow hreads (hvalid.ip (.neighbor family') _ _ hentry) hip hr hrow
          hsame
      · have hother := @count_of_key env schema managed entries k key family' h hreads hvalid text
          hsome row r hrow
        rw [hcount r hr, hkey]
        grind
    · rw [BookEntries.set_of_ne (by simpa using hfamily)]
      refine (h.neighs family').frame fun r hr => ?_
      rw [hcount r hr, if_neg (key_ne_of_family hfamily hr.1 hdomain'.1)]

end Requests

/-! ## what is kept -/

/-- The kernel has some entries, and the lookups of a phase have left some data. -/
structure HoldsEntries (env : InterfacesEnv) (managed : Book → EntryKey → Prop) (table : LinkTable)
    (entries : BookEntries) (data : ModData → Prop) (s : InterfacesState) : Prop where
  kernel : s.kernel.HasEntries env managed entries
  links : s.kernel.links = table
  data : data s.modCtx.modData

/-- The same within a phase. -/
structure HoldsInPhase (env : InterfacesEnv) (managed : Book → EntryKey → Prop) (table : LinkTable)
    (entries : BookEntries) (data : ModData → Prop) (s : InterfacesState) : Prop extends
    HoldsEntries env managed table entries data s where
  linkCache : s.modCtx.linkCache = table.links

section HoldsEntries

variable {env : InterfacesEnv} {schema : Schema} {managed : Book → EntryKey → Prop}
  {table : LinkTable}
  {entries entries' : BookEntries} {data data' : ModData → Prop} {session : Session}
  {change : Change}
  {key : EntryKey} {name : String} {family : IpFamily} {link : RtnlLink}

theorem HoldsInPhase.calls {s : InterfacesState} (n : Nat)
    (h : HoldsInPhase env managed table entries data s) :
    HoldsInPhase env managed table entries data { s with calls := n } :=
  ⟨⟨h.kernel, h.links, h.data⟩, h.linkCache⟩

theorem HoldsInPhase.updateModData {s : InterfacesState} {f : FamilyData → FamilyData}
    (h : HoldsInPhase env managed table entries data s)
    (hdata : ∀ d, data d → data' (d.update f family)) :
    HoldsInPhase env managed table entries data' (s.updateModData family f) :=
  ⟨⟨h.kernel, h.links, hdata _ h.data⟩, h.linkCache⟩

/-- The link of the cache is one of the table. -/
theorem ensures_entryLink :
    Prog.Ensures (HoldsInPhase env managed table entries data) (currentLink name) fun link s =>
      table.getByName name = some link ∧ HoldsInPhase env managed table entries data s := by
  refine ensures_currentLink.weaken (fun _ hs => hs) fun link s ⟨hlink, hs⟩ => ⟨?_, hs⟩
  rwa [hs.linkCache] at hlink

/-- A request that is not refused. -/
theorem ensures_entryRequest (hkernel : LeavesEntries env managed) {r : Request}
    (hentry : r.isForEntry)
    (hr : ∀ k : Kernel, k.links = table → k.HasEntries env managed entries →
      (env.carryOut k r).HasEntries env managed entries') :
    Prog.Ensures (HoldsInPhase env managed table entries data) (request env r) fun _ =>
      HoldsInPhase env managed table entries' data :=
  ensures_request fun s _ hs =>
    ⟨⟨hr s.kernel hs.links hs.kernel, (hkernel.links s.kernel r hentry).trans hs.links, hs.data⟩,
      hs.linkCache⟩

/-- The steps the handlers of the mandatory leaves have in common. -/
theorem ensures_valuePreamble {f : String → RtnlLink → InterfacesM Unit}
    {post : Unit → InterfacesState → Prop} (hname : change.ifName = key.1)
    (hip : change.ip = key.2)
    (hf : ∀ link, table.getByName key.1 = some link →
      Prog.Ensures (HoldsInPhase env managed table entries data) (f key.2 link) post) :
    Prog.Ensures (HoldsInPhase env managed table entries data) (do
      let name ← extractInterfaceName env change
      let ip ← extractIp env change
      let link ← currentLink name
      f ip link) post := by
  refine (ensures_extractInterfaceName fun _ n h => h.calls n).bind fun name' => ?_
  refine Prog.ensures_of_fact fun hname' => ?_
  refine (ensures_extractIp fun _ n h => h.calls n).bind fun ip' => ?_
  refine Prog.ensures_of_fact fun hip' => ?_
  rw [hname', hip', hname, hip]
  exact ensures_entryLink.bind fun link => Prog.ensures_of_fact (hf link)

/-- The prefix length of an address is replaced. -/
theorem ensures_changeEntryLength (hkernel : LeavesEntries env managed)
    (hreads : ReadsCanonical env schema)
    (hvalid : ValidEntries schema managed entries) {text text' : String}
    (htext : PrefixLengthText .ipv6 text') (hsome : entries .address key = some text) :
    Prog.Ensures (HoldsInPhase env managed table entries data)
      (addressChangePrefixLength .ipv6 env
        (Book.address.valueChange .modified key text' text)).require fun _ =>
        HoldsInPhase env managed table (entries.set .address key (some text')) data := by
  have hmanaged := hvalid.managed .address _ _ hsome
  have hip := hvalid.ip .address _ _ hsome
  unfold addressChangePrefixLength
  rw [Prog.require_exitCode (by decide)]
  refine ensures_valuePreamble rfl rfl fun link hlink => ?_
  refine ensures_nlAddrParse.bind fun localAddr => Prog.ensures_of_fact fun hlocal => ?_
  refine ensures_nlAddrParse.bind fun oldLocalAddr => Prog.ensures_of_fact fun holdLocal => ?_
  refine (ensures_checked (fun _ n h => h.calls n) _).bind fun _ => ?_
  refine (ensures_checked (fun _ n h => h.calls n) _).bind fun _ => ?_
  have hold : addressRow env table key text =
      some { ifindex := link.ifindex, localAddr := oldLocalAddr } :=
    addressRow_eq_some.mpr ⟨link, oldLocalAddr, hlink, holdLocal, rfl⟩
  have hnew : addressRow env table key text' =
      some { ifindex := link.ifindex, localAddr := localAddr } :=
    addressRow_eq_some.mpr ⟨link, localAddr, hlink, hlocal, rfl⟩
  have hvalid' : ValidEntries schema managed (entries.set .address key none) :=
    hvalid.set hmanaged hip nofun
  have hdelete : Prog.Ensures (HoldsInPhase env managed table entries data)
      (request env (.addrDelete { ifindex := link.ifindex, localAddr := oldLocalAddr })) fun _ =>
        HoldsInPhase env managed table (entries.set .address key none) data := by
    refine ensures_entryRequest hkernel rfl fun k hk hentries => ?_
    exact hentries.deleteAddress hkernel hreads hvalid hsome (hk ▸ hold)
  have hadd : Prog.Ensures
      (HoldsInPhase env managed table (entries.set .address key none) data)
      (request env (.addrAdd { ifindex := link.ifindex, localAddr })) fun _ =>
        HoldsInPhase env managed table
          ((entries.set .address key none).set .address key (some text')) data := by
    refine ensures_entryRequest hkernel rfl fun k hk hentries => ?_
    have hnone : entries.set .address key none .address key = none := by
      rw [BookEntries.set_apply, if_pos ⟨rfl, rfl⟩]
    exact hentries.addAddress hkernel hreads hvalid' hmanaged hip htext hnone (hk ▸ hnew)
  rw [BookEntries.set_set] at hadd
  exact hdelete.bind fun _ => hadd

/-- The link layer address of a neighbour is replaced. -/
theorem ensures_changeEntryLladdr (hkernel : LeavesEntries env managed)
    (hreads : ReadsCanonical env schema)
    (hvalid : ValidEntries schema managed entries) {text text' : String}
    (hsome : entries (.neighbor family) key = some text) :
    Prog.Ensures (HoldsInPhase env managed table entries data)
      (neighborChangeLinkLayerAddress family env
        ((Book.neighbor family).valueChange .modified key text' text)).require fun _ =>
        HoldsInPhase env managed table (entries.set (.neighbor family) key (some text')) data := by
  unfold neighborChangeLinkLayerAddress
  rw [Prog.require_exitCode (by decide)]
  refine ensures_valuePreamble rfl rfl fun link hlink => ?_
  refine ensures_nlAddrParse.bind fun dst => Prog.ensures_of_fact fun hdst => ?_
  refine ensures_nlAddrParse.bind fun lladdr => Prog.ensures_of_fact fun hlladdr => ?_
  refine (ensures_checked (fun _ n h => h.calls n) _).bind fun _ => ?_
  refine ensures_entryRequest hkernel rfl fun k hk hentries => ?_
  have hnew : neighborRow env k.links family key text' =
      some { ifindex := link.ifindex, dst, lladdr := some lladdr } :=
    neighborRow_eq_some.mpr ⟨link, dst, lladdr, hk ▸ hlink, hdst, hlladdr, rfl⟩
  obtain ⟨row, hold⟩ := hentries.neighborRow_of_entry hreads hvalid hsome
  exact hentries.replaceNeighbor hkernel hreads hvalid hsome hold hnew

/-! ## the keys -/

/-- A nested iteration over one change. -/
theorem ensures_nestedOne {handler : Change → InterfacesM Int}
    (h : Prog.Ensures (HoldsInPhase env managed table entries data) (handler change).require
      fun _ => HoldsInPhase env managed table entries data') :
    Prog.Ensures (HoldsInPhase env managed table entries data)
      (nestedIterateChanges env [change] handler) fun _ =>
        HoldsInPhase env managed table entries data' := by
  unfold nestedIterateChanges srpcIterateChanges
  rw [Prog.require_exitCode (by decide)]
  refine Prog.Ensures.out ?_ fun _ _ hs => hs
  have hinit : Prog.Ensures (HoldsInPhase env managed table entries data)
      (Prog.require (return 0 : InterfacesM Int)) fun _ =>
        HoldsInPhase env managed table entries data := by
    intro s _ s' hs hrun
    cases hrun
    exact hs
  refine hinit.bind fun _ => (ensures_checked (fun _ n h => h.calls n) _).bind fun _ => ?_
  rw [List.forM_cons, List.forM_nil]
  exact h.bind fun _ => Prog.ensures_pure fun _ hs => hs

/-- The text of a prefix length is read as the number. -/
theorem toNat_uint8Of {n : Nat} (hn : n ≤ IpFamily.ipv6.width) :
    (uint8Of (toString n)).toNat = n := by
  have hwidth : IpFamily.ipv6.width = 128 := rfl
  have hnat : (UInt8.ofNat n).toNat = n := by
    simp
    omega
  have hread := uint8Of_repr (UInt8.ofNat n)
  rw [hnat] at hread
  rw [Nat.toString_eq_repr, hread, hnat]

/-- What the lookup of a prefix length leaves. -/
def LengthData (d : ModData) : Prop := ∃ n b, d = { ipv6 := { prefixLength := n, prefixSet := b } }

/-- What the lookup of a link layer address leaves. -/
def LladdrData (family : IpFamily) (d : ModData) : Prop :=
  ∃ l, d = ModData.update {} (fun x => { x with linkLayerAddress := l }) family

def NoData (d : ModData) : Prop := d = {}

/-- A created address is given the prefix length of its leaf. -/
theorem ensures_createdEntryLength {text : String}
    (hchanges : session.changesAt (.addressPrefixLength .ipv6) key.1 key.2 =
      [Book.address.valueChange .created key text ""]) :
    Prog.Ensures (HoldsInPhase env managed table entries NoData)
      (createdIpv6PrefixLength env session key.1 key.2) fun length s =>
        length = uint8Of text ∧ HoldsInPhase env managed table entries LengthData s := by
  have hfound : Prog.Ensures (HoldsInPhase env managed table entries NoData)
      (interfacesInterfaceIpv6AddressGetPrefixLength
        (Book.address.valueChange .created key text "")).require fun _ =>
        HoldsInPhase env managed table entries fun d =>
          d = { ipv6 := { prefixLength := uint8Of text, prefixSet := true } } := by
    intro s _ s' hs hrun
    cases hrun
    refine hs.updateModData fun d hd => ?_
    rw [hd]
    rfl
  unfold createdIpv6PrefixLength
  rw [hchanges]
  refine (ensures_nestedOne hfound).bind fun _ => ensures_modDataOf.bind fun d => ?_
  refine Prog.ensures_pure fun s hs => ?_
  obtain ⟨rfl, hs⟩ := hs
  have hdata := hs.data
  rw [hdata]
  exact ⟨rfl, ⟨⟨hs.kernel, hs.links, _, _, hdata⟩, hs.linkCache⟩⟩

/-- The steps the handlers of the keys have in common, up to the request; the
data of the lookups are cleared on every way out. -/
theorem ensures_keyPreamble {f : String → RtnlLink → InterfacesM Unit}
    {clear : FamilyData → FamilyData} (hname : change.ifName = key.1)
    (hclear : ∀ d, data d → NoData (d.update clear family))
    (hf : ∀ link, table.getByName key.1 = some link →
      Prog.Ensures (HoldsInPhase env managed table entries NoData) (f key.1 link) fun _ =>
        HoldsInPhase env managed table entries' data) :
    Prog.Ensures (HoldsInPhase env managed table entries NoData)
      (Prog.out (fun s => s.updateModData family clear) do
        let name ← extractInterfaceName env change
        let link ← currentLink name
        f name link) fun _ =>
      HoldsInPhase env managed table entries' NoData := by
  have hcleared : ∀ s, HoldsInPhase env managed table entries' data s →
      HoldsInPhase env managed table entries' NoData (s.updateModData family clear) :=
    fun s hs => hs.updateModData hclear
  refine Prog.Ensures.out ?_ fun _ => hcleared
  refine (ensures_extractInterfaceName fun _ n h => h.calls n).bind fun name' => ?_
  refine Prog.ensures_of_fact fun hname' => ?_
  rw [hname', hname]
  exact ensures_entryLink.bind fun link => Prog.ensures_of_fact (hf link)

theorem clear_lengthData {d : ModData} (h : LengthData d) :
    NoData (d.update (fun data => { data with prefixLength := 0, prefixSet := false }) .ipv6) := by
  obtain ⟨n, b, rfl⟩ := h
  rfl

theorem clear_lladdrData {d : ModData} (h : LladdrData family d) :
    NoData (d.update (fun data => { data with linkLayerAddress := none }) family) := by
  obtain ⟨l, rfl⟩ := h
  cases family <;> rfl

theorem lengthData_of_noData {d : ModData} (h : NoData d) : LengthData d := ⟨0, false, h⟩

theorem lladdrData_of_noData {d : ModData} (h : NoData d) : LladdrData family d := by
  refine ⟨none, h.trans ?_⟩
  cases family <;> rfl

theorem HoldsInPhase.weaken {s : InterfacesState}
    (h : HoldsInPhase env managed table entries data s) (hdata : ∀ d, data d → data' d) :
    HoldsInPhase env managed table entries data' s :=
  ⟨⟨h.kernel, h.links, hdata _ h.data⟩, h.linkCache⟩

/-- An address is created with the prefix length of its entry. -/
theorem ensures_createAddress (hkernel : LeavesEntries env managed)
    (hreads : ReadsCanonical env schema)
    (hvalid : ValidEntries schema managed entries) (hmanaged : managed .address key)
    (hip : schema.ipAddress .ipv6 key.2) {text : String} (htext : PrefixLengthText .ipv6 text)
    (hnone : entries .address key = none)
    (hchanges : session.changesAt (.addressPrefixLength .ipv6) key.1 key.2 =
      [Book.address.valueChange .created key text ""]) :
    Prog.Ensures (HoldsInPhase env managed table entries NoData)
      (interfacesInterfaceIpv6AddressChangeIp env session
        (Book.address.ipChange .created key)).require fun _ =>
        HoldsInPhase env managed table (entries.set .address key (some text)) NoData := by
  unfold interfacesInterfaceIpv6AddressChangeIp addressChangeIp
  rw [Prog.require_exitCode (by decide)]
  refine ensures_keyPreamble rfl (fun d => clear_lengthData) fun link hlink => ?_
  refine (ensures_checked (fun _ n h => h.calls n) _).bind fun _ => ?_
  refine (ensures_checked (fun _ n h => h.calls n) _).bind fun _ => ?_
  refine ensures_nlAddrParse.bind fun addr => Prog.ensures_of_fact fun haddr => ?_
  refine (ensures_createdEntryLength hchanges).bind fun length => ?_
  refine Prog.ensures_of_fact fun hlength => ?_
  refine (ensures_checked (fun _ n h => h.calls n) _).bind fun _ => ?_
  refine ensures_entryRequest hkernel rfl fun k hk hentries => ?_
  have hrow : addressRow env k.links key text =
      some { ifindex := link.ifindex, localAddr := { addr with prefixLen := length.toNat } } := by
    obtain ⟨n, hn, rfl⟩ := htext
    obtain ⟨whole, hwhole, -, -, hshort⟩ := hreads.address .ipv6 _ hip
    obtain rfl := Option.some.inj (haddr.symm.trans hwhole)
    rw [hlength, toNat_uint8Of hn]
    exact addressRow_eq_some.mpr ⟨link, _, hk ▸ hlink, hshort n hn, rfl⟩
  exact hentries.addAddress hkernel hreads hvalid hmanaged hip htext hnone hrow

/-- An address is deleted with the prefix length the running datastore has. -/
theorem ensures_deleteAddress (hkernel : LeavesEntries env managed)
    (hreads : ReadsCanonical env schema)
    (hvalid : ValidEntries schema managed entries) {text : String}
    (hsome : entries .address key = some text)
    (hrunning : session.running.prefixLength .ipv6 key.1 key.2 = some (uint8Of text)) :
    Prog.Ensures (HoldsInPhase env managed table entries NoData)
      (interfacesInterfaceIpv6AddressChangeIp env session
        (Book.address.ipChange .deleted key)).require fun _ =>
        HoldsInPhase env managed table (entries.set .address key none) NoData := by
  unfold interfacesInterfaceIpv6AddressChangeIp addressChangeIp
  rw [Prog.require_exitCode (by decide)]
  refine ensures_keyPreamble rfl (fun d => clear_lengthData) fun link hlink => ?_
  refine (ensures_checked (fun _ n h => h.calls n) _).bind fun _ => ?_
  refine (ensures_checked (fun _ n h => h.calls n) _).bind fun _ => ?_
  have hlookup : Prog.Ensures (HoldsInPhase env managed table entries NoData)
      (runningIpv6PrefixLength env session key.1 key.2) fun length s =>
        length = uint8Of text ∧ HoldsInPhase env managed table entries LengthData s := by
    unfold runningIpv6PrefixLength
    rw [hrunning]
    refine (ensures_checked (fun _ n h => h.calls n) _).bind fun _ => ?_
    exact Prog.ensures_pure fun s hs => ⟨rfl, hs.weaken fun d => lengthData_of_noData⟩
  refine hlookup.bind fun length => Prog.ensures_of_fact fun hlength => ?_
  refine ensures_nlAddrParse.bind fun addr => Prog.ensures_of_fact fun haddr => ?_
  refine (ensures_checked (fun _ n h => h.calls n) _).bind fun _ => ?_
  refine ensures_entryRequest hkernel rfl fun k hk hentries => ?_
  have hrow : addressRow env k.links key text =
      some { ifindex := link.ifindex, localAddr := addr } := by
    have htext : PrefixLengthText .ipv6 text := hvalid.value .address _ _ hsome
    obtain ⟨n, hn, rfl⟩ := htext
    rw [hlength, toNat_uint8Of hn] at haddr
    exact addressRow_eq_some.mpr ⟨link, addr, hk ▸ hlink, haddr, rfl⟩
  exact hentries.deleteAddress hkernel hreads hvalid hsome hrow

/-- A created neighbour is given the link layer address of its leaf. -/
theorem ensures_createdEntryLladdr {text : String}
    (hchanges : session.changesAt (.neighborLinkLayerAddress family) key.1 key.2 =
      [(Book.neighbor family).valueChange .created key text ""]) :
    Prog.Ensures (HoldsInPhase env managed table entries NoData) (do
      nestedIterateChanges env
        (session.changesAt (.neighborLinkLayerAddress family) key.1 key.2)
        (neighborGetLinkLayerAddress family env)
      foundLinkLayerAddress family env) fun lladdr s =>
        env.nlAddrParse AF_LLC text = some lladdr ∧
          HoldsInPhase env managed table entries (LladdrData family) s := by
  have hget : Prog.Ensures (HoldsInPhase env managed table entries NoData)
      (neighborGetLinkLayerAddress family env
        ((Book.neighbor family).valueChange .created key text "")).require fun _ =>
        HoldsInPhase env managed table entries fun d =>
          d = ModData.update {} (fun x => { x with linkLayerAddress := some text }) family := by
    simp only [neighborGetLinkLayerAddress, Book.valueChange]
    rw [Prog.require_exitCode (by decide)]
    refine (ensures_checked (fun _ n h => h.calls n) _).bind fun _ => ?_
    intro s _ s' hs hrun
    cases hrun
    refine hs.updateModData fun d hd => ?_
    rw [hd]
  rw [hchanges]
  refine (ensures_nestedOne hget).bind fun _ => ?_
  intro s lladdr s' hs hrun
  have hdata : (s.modCtx.modData.get family).linkLayerAddress = some text := by
    rw [hs.data]
    cases family <;> rfl
  have hread : (modDataOf family).run s = (.ok (s.modCtx.modData.get family), s) := rfl
  rw [foundLinkLayerAddress, Prog.run_bind_ok hread, hdata] at hrun
  exact ensures_nlAddrParse s lladdr s' (hs.weaken fun d hd => ⟨_, hd⟩) hrun

/-- A neighbour is created with the link layer address of its entry. -/
theorem ensures_createNeighbor (hkernel : LeavesEntries env managed)
    (hreads : ReadsCanonical env schema)
    (hvalid : ValidEntries schema managed entries) (hmanaged : managed (.neighbor family) key)
    (hip : schema.ipAddress family key.2) {text : String}
    (hnone : entries (.neighbor family) key = none)
    (hchanges : session.changesAt (.neighborLinkLayerAddress family) key.1 key.2 =
      [(Book.neighbor family).valueChange .created key text ""]) :
    Prog.Ensures (HoldsInPhase env managed table entries NoData)
      (neighborChangeIp family env session
        ((Book.neighbor family).ipChange .created key)).require fun _ =>
        HoldsInPhase env managed table (entries.set (.neighbor family) key (some text))
          NoData := by
  unfold neighborChangeIp
  rw [Prog.require_exitCode (by decide)]
  refine ensures_keyPreamble rfl (fun d => clear_lladdrData) fun link hlink => ?_
  refine ensures_nlAddrParse.bind fun dst => Prog.ensures_of_fact fun hdst => ?_
  have hlookup := @ensures_createdEntryLladdr env managed table entries session key family text
    hchanges
  rw [← bind_assoc]
  refine hlookup.bind fun lladdr => ?_
  refine Prog.ensures_of_fact fun hlladdr => ?_
  refine (ensures_checked (fun _ n h => h.calls n) _).bind fun _ => ?_
  refine ensures_entryRequest hkernel rfl fun k hk hentries => ?_
  have hrow : neighborRow env k.links family key text =
      some { ifindex := link.ifindex, dst, lladdr := some lladdr } :=
    neighborRow_eq_some.mpr ⟨link, dst, lladdr, hk ▸ hlink, hdst, hlladdr, rfl⟩
  exact hentries.addNeighbor hkernel hreads hvalid hmanaged hip hnone hrow

theorem ensures_deleteNeighbor (hkernel : LeavesEntries env managed)
    (hreads : ReadsCanonical env schema)
    (hvalid : ValidEntries schema managed entries) {text : String}
    (hsome : entries (.neighbor family) key = some text) :
    Prog.Ensures (HoldsInPhase env managed table entries NoData)
      (neighborChangeIp family env session
        ((Book.neighbor family).ipChange .deleted key)).require fun _ =>
        HoldsInPhase env managed table (entries.set (.neighbor family) key none) NoData := by
  unfold neighborChangeIp
  rw [Prog.require_exitCode (by decide)]
  refine ensures_keyPreamble rfl (fun d => clear_lladdrData) fun link hlink => ?_
  refine ensures_nlAddrParse.bind fun dst => Prog.ensures_of_fact fun hdst => ?_
  refine (ensures_checked (fun _ n h => h.calls n) _).bind fun _ => ?_
  have hrequest : Prog.Ensures (HoldsInPhase env managed table entries NoData)
      (request env (.neighDelete { ifindex := link.ifindex, dst })) fun _ =>
        HoldsInPhase env managed table (entries.set (.neighbor family) key none) NoData := by
    refine ensures_entryRequest hkernel rfl fun k hk hentries => ?_
    obtain ⟨row, hrow⟩ := hentries.neighborRow_of_entry hreads hvalid hsome
    have hkey : RtnlNeigh.key { ifindex := link.ifindex, dst } = row.key := by
      obtain ⟨link', dst', lladdr, hlink', hdst', -, rfl⟩ := neighborRow_eq_some.mp hrow
      obtain rfl := Option.some.inj (hlink'.symm.trans (hk ▸ hlink))
      obtain rfl := Option.some.inj (hdst'.symm.trans hdst)
      rfl
    exact hentries.deleteNeighbor hkernel hreads hvalid hsome hrow hkey
  exact hrequest.weaken (fun _ hs => hs) fun _ s hs => hs.weaken fun d => lladdrData_of_noData

end HoldsEntries

end SysrepoInterfaces.Interfaces
