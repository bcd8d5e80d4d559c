import SysrepoInterfaces.Interfaces.AcceptedEvent
import SysrepoInterfaces.Interfaces.EntrySync

/-!
# SysrepoInterfaces.Interfaces.EntryRun

Change events for IPv6 addresses and neighbours, on any number of interfaces,
and sequences of them: the kernel has the entries of the datastore again after
each event, and no event is refused while the calls succeed.
-/

namespace SysrepoInterfaces.Interfaces

open CProg Mirror Requests

/-! ## the changes of a stream -/

/-- The configuration after some of the changes. -/
def BookEntries.after (old new : BookEntries) (done : List Change) : BookEntries := fun book key =>
  if ∃ c ∈ done, c.ActsOn book key then new book key else old book key

section Stream

variable {schema : Schema} {managed : Book → EntryKey → Prop} {old new : BookEntries}
  {session : Session}
  {change change' : Change} {done : List Change} {book : Book} {key : EntryKey} {text : String}

theorem after_concat (h : change.ActsOn book key) :
    BookEntries.after old new (done ++ [change]) =
      (BookEntries.after old new done).set book key (new book key) := by
  funext book' key'
  rw [BookEntries.set_apply]
  unfold BookEntries.after
  by_cases hsame : book' = book ∧ key' = key
  · obtain ⟨rfl, rfl⟩ := hsame
    simp [h]
  · have hother : ¬ change.ActsOn book' key' := fun h' => hsame (h'.unique h)
    simp [hother, hsame]

theorem after_concat_of_not_acts (h : ∀ book key, ¬ change.ActsOn book key) :
    BookEntries.after old new (done ++ [change]) = BookEntries.after old new done := by
  funext book key
  simp [BookEntries.after, h book key]

theorem not_actsOn_valueChange {operation : SrChangeOper} (h : operation ≠ .modified)
    {previous : String} (book' : Book) (key' : EntryKey) :
    ¬ (book.valueChange operation key text previous).ActsOn book' key' := by
  rintro ⟨-, -, hleaf | ⟨-, hmodified⟩⟩
  · exact (Book.ipLeaf_ne_valueLeaf book' book) hleaf.symm
  · exact h hmodified

theorem ValidEntries.after (hold : ValidEntries schema managed old)
    (hnew : ValidEntries schema managed new) (done : List Change) :
    ValidEntries schema managed (BookEntries.after old new done) := by
  have hcases : ∀ book key text, BookEntries.after old new done book key = some text →
      old book key = some text ∨ new book key = some text := by
    intro book key text h
    unfold BookEntries.after at h
    split at h
    · exact .inr h
    · exact .inl h
  constructor
  · exact fun book key text h =>
      (hcases book key text h).elim (hold.managed book key text) (hnew.managed book key text)
  · exact fun book key text h =>
      (hcases book key text h).elim (hold.ip book key text) (hnew.ip book key text)
  · exact fun book key text h =>
      (hcases book key text h).elim (hold.value book key text) (hnew.value book key text)

/-- A change of an entry is found under its leaf and its key. -/
theorem EntryStream.mem_of_leaf (hstream : EntryStream old new session)
    (hmem : change ∈ session.changes)
    (hleaf : change.leaf = book.ipLeaf ∨ change.leaf = book.valueLeaf)
    (hname : change.ifName = key.1) (hip : change.ip = key.2) :
    change ∈ book.changes key (old book key) (new book key) := by
  obtain ⟨book', key', hmem'⟩ := (hstream.changes change).mp hmem
  obtain ⟨hleaf', hname', hip'⟩ := Book.key_of_mem_changes hmem'
  obtain rfl : key = key' := Prod.ext (hname.symm.trans hname') (hip.symm.trans hip')
  have hbook : book = book' := by
    rcases hleaf with hleaf | hleaf <;> rcases hleaf' with hleaf' | hleaf'
    · exact Book.ipLeaf_inj (hleaf.symm.trans hleaf')
    · exact absurd (hleaf.symm.trans hleaf') (Book.ipLeaf_ne_valueLeaf book book')
    · exact absurd (hleaf'.symm.trans hleaf) (Book.ipLeaf_ne_valueLeaf book' book)
    · exact Book.valueLeaf_inj (hleaf.symm.trans hleaf')
  rw [hbook]
  exact hmem'

theorem EntryStream.mem_of_acts (hstream : EntryStream old new session)
    (hmem : change ∈ session.changes) (hacts : change.ActsOn book key) :
    change ∈ book.changes key (old book key) (new book key) :=
  hstream.mem_of_leaf hmem (hacts.2.2.imp id And.left) hacts.1 hacts.2.1

/-- Before its change is carried out an entry is as it was. -/
theorem EntryStream.after_eq_old (hstream : EntryStream old new session)
    (hdone : ∀ c ∈ done, c ∈ session.changes) (hmem : change ∈ session.changes)
    (hnot : change ∉ done) (hacts : change.ActsOn book key) (hne : old book key ≠ new book key) :
    BookEntries.after old new done book key = old book key := by
  unfold BookEntries.after
  rw [if_neg]
  rintro ⟨c, hc, hacts'⟩
  have hunique := (@Book.existsUnique_acts book key _ _ hne).unique
    ⟨hstream.mem_of_acts hmem hacts, hacts⟩ ⟨hstream.mem_of_acts (hdone c hc) hacts', hacts'⟩
  exact hnot (hunique ▸ hc)

/-- After all changes the configuration is the new one. -/
theorem EntryStream.after_eq_new (hstream : EntryStream old new session)
    (hdone : ∀ c ∈ session.changes, c ∈ done) : BookEntries.after old new done = new := by
  funext book key
  unfold BookEntries.after
  split
  · rfl
  · next hnone =>
      by_contra hne
      obtain ⟨c, ⟨hmem, hacts⟩, -⟩ := @Book.existsUnique_acts book key _ _ hne
      exact hnone ⟨c, hdone c ((hstream.changes c).mpr ⟨book, key, hmem⟩), hacts⟩

/-- The lookups for a created entry see the change of its mandatory leaf. -/
theorem EntryStream.changesAt_created (hstream : EntryStream old new session)
    (hold : old book key = none) (hnew : new book key = some text) :
    session.changesAt book.valueLeaf key.1 key.2 = [book.valueChange .created key text ""] := by
  have hmem : book.valueChange .created key text "" ∈ session.changes := by
    refine (hstream.changes _).mpr ⟨book, key, ?_⟩
    rw [hold, hnew]
    simp [Book.changes]
  have honly : ∀ c ∈ session.changes,
      (decide (c.leaf = book.valueLeaf ∧ c.ifName = key.1 ∧ c.ip = key.2) =
        decide (c = book.valueChange .created key text "")) := by
    intro c hc
    rw [decide_eq_decide]
    constructor
    · rintro ⟨hleaf, hname, hip⟩
      have hc' := hstream.mem_of_leaf hc (.inr hleaf) hname hip
      rw [hold, hnew] at hc'
      rcases List.mem_pair.mp hc' with rfl | rfl
      · exact absurd hleaf (Book.ipLeaf_ne_valueLeaf book book)
      · rfl
    · rintro rfl
      exact ⟨rfl, rfl, rfl⟩
  rw [Session.changesAt, List.filter_congr honly, List.filter_eq,
    List.count_eq_one_of_mem hstream.nodup hmem, List.replicate_one]

end Stream

/-! ## the handlers -/

section Changes

variable {env : InterfacesEnv} {schema : Schema} {managed : Book → EntryKey → Prop}
  {table : LinkTable}
  {old new entries : BookEntries} {data : ModData → Prop} {session : Session} {change : Change}
  {done : List Change} {book : Book} {key : EntryKey} {text : String}

/-- A mandatory leaf that is created or deleted is left to the handler of the
key. -/
theorem ensures_valueKept {operation : SrChangeOper}
    (hoperation : operation = .created ∨ operation = .deleted) :
    Prog.Ensures (HoldsInPhase env managed table entries data)
      (changeHandler env session (book.valueChange operation key text "") book.valueLeaf).require
      fun _ => HoldsInPhase env managed table entries data := by
  have hkept : ∀ link, table.getByName key.1 = some link →
      Prog.Ensures (HoldsInPhase env managed table entries data) (pure () : InterfacesM Unit)
        fun _ => HoldsInPhase env managed table entries data :=
    fun _ _ => Prog.ensures_pure fun _ hs => hs
  cases book with
  | address =>
      show Prog.Ensures _ (addressChangePrefixLength .ipv6 env _).require _
      rw [addressChangePrefixLength, Prog.require_exitCode (by decide)]
      refine ensures_valuePreamble rfl rfl ?_
      rcases hoperation with rfl | rfl
      · exact hkept
      · exact hkept
  | neighbor family =>
      have hhandler : changeHandler env session
          ((Book.neighbor family).valueChange operation key text "")
          (Book.neighbor family).valueLeaf = neighborChangeLinkLayerAddress family env
            ((Book.neighbor family).valueChange operation key text "") := by
        cases family <;> rfl
      rw [hhandler, neighborChangeLinkLayerAddress, Prog.require_exitCode (by decide)]
      refine ensures_valuePreamble rfl rfl ?_
      rcases hoperation with rfl | rfl
      · exact hkept
      · exact hkept

/-- The handler of a key on an entry that comes. -/
theorem ensures_createEntry (hkernel : LeavesEntries env managed)
    (hreads : ReadsCanonical env schema)
    (hvalid : ValidEntries schema managed entries) (hnew : ValidEntries schema managed new)
    (hstream : EntryStream old new session) (hold : old book key = none)
    (htext : new book key = some text) (hnone : entries book key = none) :
    Prog.Ensures (HoldsInPhase env managed table entries NoData)
      (changeHandler env session (book.ipChange .created key) book.ipLeaf).require fun _ =>
        HoldsInPhase env managed table (entries.set book key (some text)) NoData := by
  have hip := hnew.ip book key text htext
  have hchanges := hstream.changesAt_created hold htext
  cases book with
  | address =>
      exact ensures_createAddress hkernel hreads hvalid (hnew.managed .address key text htext) hip
        (hnew.value .address key text htext) hnone
        hchanges
  | neighbor family =>
      have hmanaged := hnew.managed (.neighbor family) key text htext
      cases family <;> exact ensures_createNeighbor hkernel hreads hvalid hmanaged hip hnone
        hchanges

theorem ensures_deleteEntry (hkernel : LeavesEntries env managed)
    (hreads : ReadsCanonical env schema)
    (hvalid : ValidEntries schema managed entries) (hstream : EntryStream old new session)
    (hold : old book key = some text) (hsome : entries book key = some text) :
    Prog.Ensures (HoldsInPhase env managed table entries NoData)
      (changeHandler env session (book.ipChange .deleted key) book.ipLeaf).require fun _ =>
        HoldsInPhase env managed table (entries.set book key none) NoData := by
  cases book with
  | address =>
      exact ensures_deleteAddress hkernel hreads hvalid hsome (hstream.running key text hold)
  | neighbor family =>
      cases family <;>
        exact @ensures_deleteNeighbor env schema managed table entries session key _ hkernel hreads
          hvalid
          text hsome

theorem ensures_modifyEntry (hkernel : LeavesEntries env managed)
    (hreads : ReadsCanonical env schema)
    (hvalid : ValidEntries schema managed entries) (hnew : ValidEntries schema managed new)
    {text' : String} (htext : new book key = some text') (hsome : entries book key = some text) :
    Prog.Ensures (HoldsInPhase env managed table entries NoData)
      (changeHandler env session (book.valueChange .modified key text' text)
        book.valueLeaf).require fun _ =>
        HoldsInPhase env managed table (entries.set book key (some text')) NoData := by
  cases book with
  | address =>
      exact ensures_changeEntryLength hkernel hreads hvalid (hnew.value .address key text' htext)
        hsome
  | neighbor family =>
      cases family <;> exact ensures_changeEntryLladdr hkernel hreads hvalid hsome

/-- The handler of a leaf on one of its changes. -/
theorem ensures_entryChange (hkernel : LeavesEntries env managed)
    (hreads : ReadsCanonical env schema)
    (hold : ValidEntries schema managed old) (hnew : ValidEntries schema managed new)
    (hstream : EntryStream old new session) (hdone : ∀ c ∈ done, c ∈ session.changes)
    (hmem : change ∈ session.changes) (hnot : change ∉ done) :
    Prog.Ensures (HoldsInPhase env managed table (BookEntries.after old new done) NoData)
      (changeHandler env session change change.leaf).require fun _ =>
        HoldsInPhase env managed table (BookEntries.after old new (done ++ [change])) NoData := by
  have hvalid := hold.after hnew done
  obtain ⟨book, key, hchange⟩ := (hstream.changes change).mp hmem
  have hbefore : change.ActsOn book key → old book key ≠ new book key →
      BookEntries.after old new done book key = old book key :=
    hstream.after_eq_old hdone hmem hnot
  rcases Book.mem_changes hchange with ⟨text, hfrom, hto, rfl | rfl⟩ |
    ⟨text, hfrom, hto, rfl | rfl⟩ | ⟨text, text', hfrom, hto, hne, rfl⟩
  · have hacts : (book.ipChange .created key).ActsOn book key := ⟨rfl, rfl, .inl rfl⟩
    have hentry := (hbefore hacts (by rw [hfrom, hto]; nofun)).trans hfrom
    rw [after_concat hacts, hto]
    exact ensures_createEntry hkernel hreads hvalid hnew hstream hfrom hto hentry
  · have hkept : BookEntries.after old new (done ++ [book.valueChange .created key text ""]) =
        BookEntries.after old new done :=
      after_concat_of_not_acts (not_actsOn_valueChange (by decide))
    rw [hkept]
    exact ensures_valueKept (.inl rfl)
  · have hacts : (book.ipChange .deleted key).ActsOn book key := ⟨rfl, rfl, .inl rfl⟩
    have hentry := (hbefore hacts (by rw [hfrom, hto]; nofun)).trans hfrom
    rw [after_concat hacts, hto]
    exact ensures_deleteEntry hkernel hreads hvalid hstream hfrom hentry
  · have hkept : BookEntries.after old new (done ++ [book.valueChange .deleted key text ""]) =
        BookEntries.after old new done :=
      after_concat_of_not_acts (not_actsOn_valueChange (by decide))
    rw [hkept]
    exact ensures_valueKept (.inr rfl)
  · have hacts : (book.valueChange .modified key text' text).ActsOn book key :=
      ⟨rfl, rfl, .inr ⟨rfl, rfl⟩⟩
    have hentry := (hbefore hacts (by simpa [hfrom, hto] using hne)).trans hfrom
    rw [after_concat hacts, hto]
    exact ensures_modifyEntry hkernel hreads hvalid hnew hto hentry

/-! ## the phases -/

/-- The handlers of a phase, one after the other. -/
theorem ensures_entryChanges (hkernel : LeavesEntries env managed)
    (hreads : ReadsCanonical env schema)
    (hold : ValidEntries schema managed old) (hnew : ValidEntries schema managed new)
    (hstream : EntryStream old new session) {leaf : Leaf} {changes : List Change}
    (hleaf : ∀ c ∈ changes, c.leaf = leaf) (hmem : ∀ c ∈ changes, c ∈ session.changes)
    (hnodup : changes.Nodup) (hdone : ∀ c ∈ done, c ∈ session.changes)
    (hnot : ∀ c ∈ changes, c ∉ done) :
    Prog.Ensures (HoldsInPhase env managed table (BookEntries.after old new done) NoData)
      (forM changes fun c => (changeHandler env session c leaf).require) fun _ =>
        HoldsInPhase env managed table (BookEntries.after old new (done ++ changes)) NoData := by
  induction changes generalizing done with
  | nil =>
      rw [List.append_nil]
      exact Prog.ensures_pure fun _ hs => hs
  | cons c changes ih =>
      obtain ⟨hfresh, hnodup⟩ := List.nodup_cons.mp hnodup
      rw [List.forall_mem_cons] at hleaf hmem hnot
      have hround := @ensures_entryChange env schema managed table old new session c done hkernel
          hreads
        hold hnew hstream hdone hmem.1 hnot.1
      rw [hleaf.1] at hround
      rw [List.forM_cons, ← List.singleton_append, ← List.append_assoc]
      refine hround.bind fun _ => ih hleaf.2 hmem.2 hnodup ?_ ?_
      · intro c' hc'
        rcases List.mem_append.mp hc' with hc' | hc'
        · exact hdone c' hc'
        · exact List.mem_singleton.mp hc' ▸ hmem.1
      · intro c' hc' hc''
        rcases List.mem_append.mp hc'' with hc'' | hc''
        · exact hnot.2 c' hc' hc''
        · exact hfresh (List.mem_singleton.mp hc'' ▸ hc')

theorem ensures_entryInit :
    Prog.Ensures (HoldsEntries env managed table entries data)
      (interfacesChangeInterfaceInit env).require fun _ =>
        HoldsInPhase env managed table entries data := by
  have hcalls : ∀ s n, HoldsEntries env managed table entries data s →
      HoldsEntries env managed table entries data { s with calls := n } :=
    fun s n hs => ⟨hs.kernel, hs.links, hs.data⟩
  have hcaches : Prog.Ensures (HoldsEntries env managed table entries data)
      (Prog.modify fun s : InterfacesState =>
        s.setModCtx { s.modCtx with linkCache := s.kernel.links.links })
      fun _ => HoldsInPhase env managed table entries data := by
    intro s _ s' hs hrun
    cases hrun
    exact ⟨⟨hs.kernel, hs.links, hs.data⟩, by rw [← hs.links]; rfl⟩
  have haddrs : Prog.Ensures (HoldsInPhase env managed table entries data)
      (Prog.modify fun s : InterfacesState =>
        s.setModCtx { s.modCtx with addrCache := s.kernel.addrs })
      fun _ => HoldsInPhase env managed table entries data := by
    intro s _ s' hs hrun
    cases hrun
    exact ⟨⟨hs.kernel, hs.links, hs.data⟩, hs.linkCache⟩
  unfold interfacesChangeInterfaceInit
  rw [Prog.require_exitCode (by decide)]
  refine (ensures_checked hcalls _).bind fun _ => (ensures_checked hcalls _).bind fun _ => ?_
  refine (ensures_checked hcalls _).bind fun _ => hcaches.bind fun _ => ?_
  exact (ensures_checked (fun _ n h => h.calls n) _).bind fun _ => haddrs

/-- A phase does what its handlers do; the context is cleared after it. -/
theorem ensures_entryPhase {leaf : Leaf} {entries' : BookEntries}
    (hloop : Prog.Ensures (HoldsInPhase env managed table entries data)
      (forM (session.changesOf leaf) fun c => (changeHandler env session c leaf).require) fun _ =>
        HoldsInPhase env managed table entries' data) :
    Prog.Ensures (HoldsEntries env managed table entries data)
      (phase env session leaf).require fun _ =>
      HoldsEntries env managed table entries' NoData := by
  unfold phase srpcIterateChanges
  rw [Prog.require_exitCode (by decide)]
  have hfree : ∀ s, HoldsInPhase env managed table entries' data s →
      HoldsEntries env managed table entries' NoData (interfacesChangeInterfaceFree s) :=
    fun s hs => ⟨hs.kernel, hs.links, rfl⟩
  refine Prog.Ensures.out ?_ fun _ => hfree
  refine ensures_entryInit.bind fun _ => ?_
  exact (ensures_checked (fun _ n h => h.calls n) _).bind fun _ => hloop

/-- The phases of some leaves. -/
theorem ensures_entryPhases (hkernel : LeavesEntries env managed)
    (hreads : ReadsCanonical env schema)
    (hold : ValidEntries schema managed old) (hnew : ValidEntries schema managed new)
    (hstream : EntryStream old new session) {leaves : List Leaf} (hnodup : leaves.Nodup)
    (hdone : ∀ c ∈ done, c ∈ session.changes) (hnot : ∀ c ∈ done, c.leaf ∉ leaves) :
    Prog.Ensures (HoldsEntries env managed table (BookEntries.after old new done) NoData)
      (forM leaves fun leaf => (phase env session leaf).require) fun _ =>
        HoldsEntries env managed table
          (BookEntries.after old new (done ++ leaves.flatMap session.changesOf)) NoData := by
  induction leaves generalizing done with
  | nil =>
      rw [List.flatMap_nil, List.append_nil]
      exact Prog.ensures_pure fun _ hs => hs
  | cons leaf leaves ih =>
      obtain ⟨hfresh, hnodup⟩ := List.nodup_cons.mp hnodup
      have hchanges : ∀ c ∈ session.changesOf leaf, c ∈ session.changes ∧ c.leaf = leaf :=
        fun c hc => by simpa [Session.changesOf] using hc
      have hloop := @ensures_entryChanges env schema managed table old new session done hkernel
          hreads hold
        hnew hstream leaf (session.changesOf leaf) (fun c hc => (hchanges c hc).2)
        (fun c hc => (hchanges c hc).1) (hstream.nodup.filter _) hdone
        fun c hc hc' => hnot c hc' ((hchanges c hc).2 ▸ List.mem_cons_self)
      rw [List.forM_cons, List.flatMap_cons, ← List.append_assoc]
      refine (ensures_entryPhase hloop).bind fun _ => ih hnodup ?_ ?_
      · intro c hc
        rcases List.mem_append.mp hc with hc | hc
        · exact hdone c hc
        · exact (hchanges c hc).1
      · intro c hc
        rcases List.mem_append.mp hc with hc | hc
        · exact fun hleaf => hnot c hc (List.mem_cons_of_mem _ hleaf)
        · rw [(hchanges c hc).2]
          exact hfresh

end Changes

/-! ## an event -/

section Event

variable {env : InterfacesEnv} {schema : Schema} {managed : Book → EntryKey → Prop}
  {table : LinkTable}
  {old new : BookEntries} {session : Session} {change : Change}

/-- The leaves of the lists. -/
def bookLeaves : List Leaf := [
  .neighborIp .ipv4, .neighborLinkLayerAddress .ipv4, .addressIp .ipv6,
  .addressPrefixLength .ipv6, .neighborIp .ipv6, .neighborLinkLayerAddress .ipv6]

theorem EntryStream.leaf_mem (hstream : EntryStream old new session)
    (hmem : change ∈ session.changes) : change.leaf ∈ bookLeaves := by
  obtain ⟨book, key, hchange⟩ := (hstream.changes change).mp hmem
  have hleaf : ∀ book : Book, book.ipLeaf ∈ bookLeaves ∧ book.valueLeaf ∈ bookLeaves := by
    rintro (_ | (_ | _)) <;> decide
  rcases (Book.key_of_mem_changes hchange).1 with h | h
  · exact h ▸ (hleaf book).1
  · exact h ▸ (hleaf book).2

/-- Other leaves do not change. -/
theorem EntryStream.leaf_ne (hstream : EntryStream old new session)
    (hmem : change ∈ session.changes) {leaf : Leaf} (hleaf : leaf ∉ bookLeaves) :
    change.leaf ≠ leaf := by
  rintro rfl
  exact hleaf (hstream.leaf_mem hmem)

theorem EntryStream.changesOf_name (hstream : EntryStream old new session) :
    session.changesOf .name = [] := by
  rw [Session.changesOf, List.filter_eq_nil_iff]
  intro c hc hleaf
  exact hstream.leaf_ne hc (by decide) (of_decide_eq_true hleaf)

/-- An event that is accepted brings the kernel to the new configuration. -/
theorem ensures_entryEvent (hkernel : LeavesEntries env managed)
    (hreads : ReadsCanonical env schema)
    (hold : ValidEntries schema managed old) (hnew : ValidEntries schema managed new)
    (hstream : EntryStream old new session) :
    Prog.Ensures (HoldsEntries env managed table old fun _ => True)
      (forM phases fun leaf => (phase env session leaf).require) fun _ =>
        HoldsEntries env managed table new NoData := by
  have hphases : phases = .name :: phases.tail := rfl
  have hleaves : ∀ leaf ∈ bookLeaves, leaf ∈ phases.tail := by decide
  have hname : Prog.Ensures (HoldsEntries env managed table old fun _ => True)
      (phase env session .name).require fun _ => HoldsEntries env managed table old NoData := by
    apply ensures_entryPhase
    rw [hstream.changesOf_name]
    exact Prog.ensures_pure fun _ hs => hs
  have hstart : BookEntries.after old new [] = old := by
    funext book key
    simp [BookEntries.after]
  have hend : BookEntries.after old new ([] ++ phases.tail.flatMap session.changesOf) = new := by
    refine hstream.after_eq_new fun c hc => ?_
    rw [List.nil_append, List.mem_flatMap]
    exact ⟨c.leaf, hleaves _ (hstream.leaf_mem hc),
      List.mem_filter.mpr ⟨hc, decide_eq_true rfl⟩⟩
  have hlater := @ensures_entryPhases env schema managed table old new session [] hkernel hreads
      hold hnew
    hstream phases.tail (by decide) nofun nofun
  rw [hstart, hend] at hlater
  rw [hphases, List.forM_cons]
  exact hname.bind fun _ => hlater

/-! ## acceptance -/

/-- What the schema asks of the change of a key. -/
theorem validChange_ipChange (hstream : EntryStream old new session) {book : Book}
    {key : EntryKey} (hip : schema.ipAddress book.family key.2) {operation : SrChangeOper}
    (hoperation : operation = .created ∧ old book key = none ∧ (∃ text, new book key = some text ∧
        schema.ValidValue book.valueLeaf text) ∨
      operation = .deleted ∧ ∃ text, old book key = some text) :
    schema.ValidChange session (book.ipChange operation key) := by
  have hleaves : book.ipLeaf.entryLeaves = [book.valueLeaf] := by cases book <;> rfl
  have hcreated : operation = .created → ∃ text,
      session.changesAt book.valueLeaf key.1 key.2 = [book.valueChange .created key text ""] ∧
        schema.ValidValue book.valueLeaf text := by
    rintro rfl
    rcases hoperation with ⟨-, hfrom, text, hto, htext⟩ | ⟨hdeleted, -⟩
    · exact ⟨text, hstream.changesAt_created hfrom hto, htext⟩
    · cases hdeleted
  constructor
  · cases book <;> exact hip
  · intro hmodified
    have hmodified : operation = .modified := hmodified
    rcases hoperation with ⟨rfl, -⟩ | ⟨rfl, -⟩ <;> cases hmodified
  · intro hname
    cases book <;> cases hname
  · intro family hfamily
    cases book <;> cases hfamily
  · intro hop leaf hleaf c hc
    rw [Book.ipChange, hleaves, List.mem_singleton] at hleaf
    obtain ⟨text, hchanges, htext⟩ := hcreated hop
    rw [hleaf] at hc ⊢
    obtain rfl := List.mem_singleton.mp (hchanges ▸ hc)
    exact ⟨rfl, htext⟩
  · intro hop _
    obtain ⟨text, hchanges, -⟩ := hcreated hop
    refine ⟨book.valueLeaf, by rw [Book.ipChange, hleaves]; exact List.mem_singleton_self _, ?_⟩
    intro hnil
    exact List.cons_ne_nil _ _ (hchanges.symm.trans hnil)
  · intro hop family hfamily
    cases book with
    | neighbor => cases hfamily
    | address =>
        cases hfamily
        rcases hoperation with ⟨rfl, -⟩ | ⟨-, text, hfrom⟩
        · cases hop
        · exact Option.isSome_iff_exists.mpr ⟨_, hstream.running key text hfrom⟩

theorem validChange_valueChange {book : Book} {key : EntryKey}
    (hip : schema.ipAddress book.family key.2) {operation : SrChangeOper} {text previous : String}
    (htext : schema.ValidValue book.valueLeaf text)
    (hprevious : operation = .modified → schema.ValidValue book.valueLeaf previous) :
    schema.ValidChange session (book.valueChange operation key text previous) := by
  have hleaves : book.valueLeaf.entryLeaves = [] := by cases book <;> rfl
  constructor
  · exact htext
  · exact hprevious
  · intro hname
    cases book <;> cases hname
  · intro family hfamily
    have hsame : book.valueLeaf.entryFamily = some book.family := by cases book <;> rfl
    obtain rfl := Option.some.inj (hsame.symm.trans hfamily)
    exact hip
  · intro _ leaf hleaf
    rw [Book.valueChange, hleaves] at hleaf
    cases hleaf
  · intro _ hne
    exact absurd hleaves hne
  · intro _ family hfamily
    cases book <;> cases hfamily

theorem EntryStream.validSession (hstream : EntryStream old new session)
    (hold : ValidEntries schema managed old) (hnew : ValidEntries schema managed new) :
    schema.ValidSession session where
  running := hstream.valid
  changes change hmem := by
    obtain ⟨book, key, hchange⟩ := (hstream.changes change).mp hmem
    rcases Book.mem_changes hchange with ⟨text, hfrom, hto, rfl | rfl⟩ |
      ⟨text, hfrom, hto, rfl | rfl⟩ | ⟨text, text', hfrom, hto, hne, rfl⟩
    · exact validChange_ipChange hstream (hnew.ip book key text hto)
        (.inl ⟨rfl, hfrom, text, hto, hnew.value book key text hto⟩)
    · exact validChange_valueChange (hnew.ip book key text hto) (hnew.value book key text hto) nofun
    · exact validChange_ipChange hstream (hold.ip book key text hfrom) (.inr ⟨rfl, text, hfrom⟩)
    · exact validChange_valueChange (hold.ip book key text hfrom)
        (hold.value book key text hfrom) nofun
    · exact validChange_valueChange (hnew.ip book key text' hto) (hnew.value book key text' hto)
        fun _ => hold.value book key text hfrom

/-- Only values are modified. -/
theorem EntryStream.supported (hstream : EntryStream old new session)
    (hmem : change ∈ session.changes) : Supported change := by
  refine ⟨fun hmodified => ?_, fun htype => absurd htype (hstream.leaf_ne hmem (by decide))⟩
  obtain ⟨book, key, hchange⟩ := (hstream.changes change).mp hmem
  rcases Book.mem_changes hchange with ⟨_, -, -, rfl | rfl⟩ | ⟨_, -, -, rfl | rfl⟩ |
    ⟨_, _, -, -, -, rfl⟩
  · cases hmodified
  · cases hmodified
  · cases hmodified
  · cases hmodified
  · cases book <;> simp [Book.valueChange, Book.valueLeaf]

/-- The changes of a stream ask for addresses and neighbours only. -/
theorem isForEntry_of_planned {links : LinkTable} {asked : List Request}
    (hleaf : change.leaf ∈ bookLeaves) (h : planned env session links change = some asked) :
    ∀ r ∈ asked, r.isForEntry := by
  unfold planned at h
  split at h
  -- the length of an address is modified
  case h_13 =>
    obtain ⟨link, -, h⟩ := Option.bind_eq_some_iff.mp h
    obtain ⟨old, new, rfl⟩ := replacing_eq_some h
    simp [Request.isForEntry]
  -- the other changes of these leaves ask for one request or for none
  all_goals
    simp_all [bookLeaves, Option.bind_eq_some_iff]
    try grind [Request.isForEntry]

/-- No phase of a stream changes the links. -/
theorem EntryStream.links_of_phaseBegins (hstream : EntryStream old new session)
    (hkernel : LeavesEntries env managed) {k k' : Kernel} {leaf : Leaf} {asked : List Request}
    (h : PhaseBegins env session k leaf asked k') : k'.links = k.links := by
  have hrequests : ∀ (asked : List Request) (k₁ : Kernel), (∀ r ∈ asked, r.isForEntry) →
      k₁.links = k.links → (asked.foldl env.carryOut k₁).links = k.links := by
    intro asked
    induction asked with
    | nil => exact fun k₁ _ hk₁ => hk₁
    | cons r asked ih =>
        intro k₁ hentry hk₁
        rw [List.forall_mem_cons] at hentry
        exact ih _ hentry.2 ((hkernel.links k₁ r hentry.1).trans hk₁)
  refine Link.planRounds_keeps (P := fun k₁ => k₁.links = k.links) ?_ h.2 rfl
  intro leaf _ k₁ asked hk₁ hplan
  obtain ⟨⟨_, k₂⟩, hchanges, rfl⟩ := Option.map_eq_some_iff.mp hplan
  have hsame := Link.planRounds_eq_foldl hchanges
  rw [← hsame]
  refine Link.planRounds_keeps (P := fun k₁ => k₁.links = k.links) ?_ hchanges hk₁
  intro c hc k₃ asked hk₃ hplanned
  have hmem := hstream.leaf_mem (List.mem_filter.mp hc).1
  exact hrequests asked k₃ (isForEntry_of_planned hmem hplanned) hk₃

/-- While the calls succeed, an event on links that are there is accepted. -/
theorem EntryStream.accepted (hkernel : LeavesEntries env managed) (hsucc : env.Succeeds schema)
    (hstream : EntryStream old new session) (hold : ValidEntries schema managed old)
    (hnew : ValidEntries schema managed new) {s : InterfacesState}
    (hlinks : ∀ book key, managed book key → (s.kernel.links.getByName key.1).isSome) :
    ∃ s', (interfacesSubscriptionChangeInterfacesInterface env session .change).run s =
      (.ok SR_ERR_OK, s') := by
  have hthere : ∀ change ∈ session.changes,
      (s.kernel.links.getByName change.ifName).isSome := by
    intro change hmem
    obtain ⟨book, key, hchange⟩ := (hstream.changes change).mp hmem
    rw [(Book.key_of_mem_changes hchange).2.1]
    rcases Book.mem_changes hchange with ⟨text, -, hto, -⟩ | ⟨text, hfrom, -, -⟩ |
      ⟨text, text', hfrom, -, -, -⟩
    · exact hlinks book key (hnew.managed book key text hto)
    · exact hlinks book key (hold.managed book key text hfrom)
    · exact hlinks book key (hold.managed book key text hfrom)
  refine (event_returns_ok_iff hsucc (hstream.validSession hold hnew)
    (fun change => hstream.supported) ?_).mpr ?_
  · intro leaf asked k hbegins change hmem _
    rw [hstream.links_of_phaseBegins hkernel hbegins]
    exact hthere change (List.mem_filter.mp hmem).1
  · intro asked k hbegins change hmem hrefused
    exact hstream.leaf_ne (List.mem_filter.mp hmem).1 (by decide) hrefused.1

end Event

/-! ## runs -/

/-- A change event for some entries that the callback accepts. -/
def AcceptsEntries (env : InterfacesEnv) (old new : BookEntries) (s s' : InterfacesState) : Prop :=
  ∃ session, EntryStream old new session ∧
    (interfacesSubscriptionChangeInterfacesInterface env session .change).run s =
      (.ok SR_ERR_OK, s')

/-- A sequence of accepted events. -/
inductive EntryRun (env : InterfacesEnv) (schema : Schema) (managed : Book → EntryKey → Prop)
    (start : BookEntries) (s : InterfacesState) : BookEntries → InterfacesState → Prop
  | nil : EntryRun env schema managed start s start s
  | step {old new : BookEntries} {t u : InterfacesState}
      (hrun : EntryRun env schema managed start s old t) (hvalid : ValidEntries schema managed new)
      (haccepts : AcceptsEntries env old new t u) : EntryRun env schema managed start s new u

section Run

variable {env : InterfacesEnv} {schema : Schema} {managed : Book → EntryKey → Prop}
  {start old new : BookEntries} {s t u : InterfacesState}

theorem AcceptsEntries.hasEntries (haccepts : AcceptsEntries env old new t u)
    (hkernel : LeavesEntries env managed) (hreads : ReadsCanonical env schema)
    (hold : ValidEntries schema managed old) (hnew : ValidEntries schema managed new)
    (h : t.kernel.HasEntries env managed old) :
    u.kernel.HasEntries env managed new := by
  obtain ⟨session, hstream, hrun⟩ := haccepts
  have hevent := change_eq_ok_iff.mp hrun
  have hstart : HoldsEntries env managed t.kernel.links old (fun _ => True) t := ⟨h, rfl, trivial⟩
  exact (ensures_entryEvent hkernel hreads hold hnew hstream t () u hstart hevent).kernel

theorem EntryRun.hasEntries (hrun : EntryRun env schema managed start s old t)
    (hkernel : LeavesEntries env managed) (hreads : ReadsCanonical env schema)
    (hvalid : ValidEntries schema managed start)
    (hstart : s.kernel.HasEntries env managed start) :
    ValidEntries schema managed old ∧ t.kernel.HasEntries env managed old := by
  induction hrun with
  | nil => exact ⟨hvalid, hstart⟩
  | step _ hnew haccepts ih => exact ⟨hnew, haccepts.hasEntries hkernel hreads ih.1 hnew ih.2⟩

/-- Along a run of accepted events the kernel has the IPv6 addresses and the
neighbours of the datastore, and a further event is only refused when a call
or a request fails. -/
theorem entryRun_hasEntries (hkernel : LeavesEntries env managed)
    (hreads : ReadsCanonical env schema)
    (hrun : EntryRun env schema managed start s old t) (hvalid : ValidEntries schema managed start)
    (hstart : s.kernel.HasEntries env managed start) :
    t.kernel.HasEntries env managed old ∧
      (env.Succeeds schema → ∀ new session, ValidEntries schema managed new →
        EntryStream old new session →
          ∃ u, (interfacesSubscriptionChangeInterfacesInterface env session .change).run t =
            (.ok SR_ERR_OK, u)) := by
  obtain ⟨hold, hentries⟩ := hrun.hasEntries hkernel hreads hvalid hstart
  exact ⟨hentries, fun hsucc new session hnew hstream =>
    hstream.accepted hkernel hsucc hold hnew hentries.links⟩

end Run

/-! ## an address and a neighbour -/

def entryAddrs : List (String × NlAddr) := [
  ("192.0.2.7", { family := AF_INET, bits := 0xc0000207, prefixLen := 32 }),
  ("2001:db8::1", {
    family := AF_INET6, bits := 0x20010db8000000000000000000000001, prefixLen := 128 }),
  ("02:00:00:00:00:01", { family := AF_LLC, bits := 0x020000000001, prefixLen := 48 })]

/-- `nl_addr_parse` on these texts, with or without a prefix length. -/
def parseEntry (text : String) : Option NlAddr :=
  match text.toList.splitOn '/' with
  | [ip] => entryAddrs.lookup (String.ofList ip)
  | [ip, length] =>
      match entryAddrs.lookup (String.ofList ip), parseOctet length with
      | some addr, some n =>
          if n.toNat ≤ addr.prefixLen then some { addr with prefixLen := n.toNat } else none
      | _, _ => none
  | _ => none

def entryEnv : InterfacesEnv where
  nlAddrParse _ text := parseEntry text
  littleEndian := true
  lib _ _ := true
  answer _ := 0
  carryOut := Kernel.obey

def entrySchema : Schema where
  ipAddress family ip :=
    match family with
    | .ipv4 => ip = "192.0.2.7"
    | .ipv6 => ip = "2001:db8::1"
  physAddress text := text = "02:00:00:00:00:01"

theorem parseEntry_addressText {ip : String} {addr : NlAddr} {length : Nat}
    (hip : entryAddrs.lookup ip = some addr) (hslash : '/' ∉ ip.toList)
    (hlength : length ≤ addr.prefixLen) (hbyte : length < 256) :
    parseEntry (addressText ip (toString length)) = some { addr with prefixLen := length } := by
  have hnat : (UInt8.ofNat length).toNat = length := by
    simp
    omega
  have htext : (addressText ip (toString length)).toList =
      ['/'].intercalate [ip.toList, (toString length).toList] := by
    simp [addressText, List.intercalate]
  have hparts : ∀ part ∈ [ip.toList, (toString length).toList], '/' ∉ part := by
    simp only [List.mem_cons, List.not_mem_nil]
    grind [slash_notMem_toString]
  unfold parseEntry
  rw [htext, List.splitOn_intercalate '/' hparts (by simp)]
  simp only [String.ofList_toList, hip, parseOctet_toString hbyte, hnat, if_pos hlength]

theorem entryEnv_reads : ReadsCanonical entryEnv entrySchema where
  address family ip hip := by
    cases family with
    | ipv4 =>
        obtain rfl : ip = "192.0.2.7" := hip
        refine ⟨{ family := AF_INET, bits := 0xc0000207, prefixLen := 32 },
          by decide +kernel, rfl, rfl, fun length hlength => ?_⟩
        have hle : length ≤ 32 := hlength
        exact parseEntry_addressText (by decide +kernel) (by decide +kernel) hle (by omega)
    | ipv6 =>
        obtain rfl : ip = "2001:db8::1" := hip
        refine ⟨{ family := AF_INET6
                  bits := 0x20010db8000000000000000000000001
                  prefixLen := 128 }, by decide +kernel, rfl, rfl, fun length hlength => ?_⟩
        have hle : length ≤ 128 := hlength
        exact parseEntry_addressText (by decide +kernel) (by decide +kernel) hle (by omega)
  canonical family ip ip' hip hip' _ := by
    cases family with
    | ipv4 => exact Eq.trans hip (Eq.symm hip')
    | ipv6 => exact Eq.trans hip (Eq.symm hip')
  lladdr text htext := by
    obtain rfl : text = "02:00:00:00:00:01" := htext
    decide +kernel

theorem entryEnv_succeeds : entryEnv.Succeeds entrySchema where
  calls _ _ := rfl
  answers _ := rfl
  ip family ip hip := by
    obtain ⟨addr, haddr, -⟩ := entryEnv_reads.address family ip hip
    rw [haddr]
    rfl
  address family ip length hip hlength := by
    obtain ⟨addr, -, -, -, hshort⟩ := entryEnv_reads.address family ip hip
    rw [hshort length hlength]
    rfl
  lladdr := entryEnv_reads.lladdr

def noEntries : BookEntries := fun _ _ => none

def sampleAddress : EntryKey := ("eth0", "2001:db8::1")

def sampleNeighbor : EntryKey := ("eth0", "192.0.2.7")

def sampleEntries : BookEntries :=
  (noEntries.set .address sampleAddress (some "64")).set (.neighbor .ipv4) sampleNeighbor
    (some "02:00:00:00:00:01")

def entrySession : Session where
  changes := Book.address.changes sampleAddress none (some "64") ++
    (Book.neighbor .ipv4).changes sampleNeighbor none (some "02:00:00:00:00:01")

/-- A kernel that does what it is asked for leaves all entries to the requests. -/
theorem leavesEntries_obey {env : InterfacesEnv} (h : env.carryOut = Kernel.obey)
    (managed : Book → EntryKey → Prop) : LeavesEntries env managed := by
  have hadd : ∀ (neighs : List RtnlNeigh) row r, row.key ∉ neighs.map RtnlNeigh.key →
      (addNeigh neighs row NLM_F_CREATE).count r = neighs.count r + if r = row then 1 else 0 := by
    intro neighs row r hkey
    rw [addNeigh, if_neg hkey, count_concat]
  have hreplace : ∀ (neighs : List RtnlNeigh) row r, row.key ∈ neighs.map RtnlNeigh.key →
      (addNeigh neighs row NLM_F_REPLACE).count r =
        if r.key = row.key then if r = row then 1 else 0 else neighs.count r := by
    intro neighs row r hkey
    rw [addNeigh, if_pos hkey, if_pos rfl, count_concat, count_filter_eq]
    grind
  constructor
  · intro k r hentry
    rw [h]
    cases r <;> first | rfl | cases hentry
  · intro k row r _ _
    rw [h]
    exact count_concat _ _ r
  · intro k row r _ _
    rw [h]
    simp [Kernel.obey, count_filter_eq]
  · intro k row family r _ _
    rw [h]
    exact ⟨rfl, rfl⟩
  · intro k row family family' r _ hkey _
    rw [h]
    exact hadd _ _ _ hkey
  · intro k row family family' r _ hkey _
    rw [h]
    exact hreplace _ _ _ hkey
  · intro k row family family' r _ _
    rw [h]
    simp [Kernel.obey, count_filter_eq]
  · intro k row family flags r _ _
    rw [h]
    exact ⟨rfl, rfl⟩

/-- The entries of `eth0`. -/
def onEth0 (_ : Book) (key : EntryKey) : Prop := key.1 = "eth0"

theorem validEntries_noEntries (schema : Schema) (managed : Book → EntryKey → Prop) :
    ValidEntries schema managed noEntries := ⟨nofun, nofun, nofun⟩

theorem validEntries_sampleEntries : ValidEntries entrySchema onEth0 sampleEntries := by
  have haddress : ValidEntries entrySchema onEth0
      (noEntries.set .address sampleAddress (some "64")) := by
    refine (validEntries_noEntries _ _).set rfl rfl fun text htext => ?_
    cases htext
    exact ⟨64, by decide, by decide +kernel⟩
  refine haddress.set rfl rfl fun text htext => ?_
  cases htext
  rfl

theorem entryStream_sample : EntryStream noEntries sampleEntries entrySession where
  changes change := by
    constructor
    · intro hmem
      rcases List.mem_append.mp hmem with hmem | hmem
      · exact ⟨.address, sampleAddress, hmem⟩
      · exact ⟨.neighbor .ipv4, sampleNeighbor, hmem⟩
    · rintro ⟨book, key, hmem⟩
      rw [sampleEntries, BookEntries.set_apply, BookEntries.set_apply] at hmem
      split at hmem
      · next h =>
          obtain ⟨rfl, rfl⟩ := h
          exact List.mem_append_right _ hmem
      · split at hmem
        · next h =>
            obtain ⟨rfl, rfl⟩ := h
            exact List.mem_append_left _ hmem
        · cases hmem
  nodup := by decide +kernel
  running _ _ h := by cases h
  valid := ⟨nofun, nofun⟩

/-- The kernel of the sample has an IPv4 address and nothing of the lists. -/
theorem sampleKernel_hasEntries :
    sampleKernel.HasEntries entryEnv onEth0 noEntries where
  links book key hkey := by
    rw [show key.1 = "eth0" from hkey]
    decide
  addrs := by
    refine ⟨fun _ _ _ h => absurd h not_encodes_none, fun row hrow _ => ?_⟩
    rw [List.count_eq_zero]
    intro hmem
    obtain rfl := List.mem_singleton.mp hmem
    exact absurd hrow.1 (by decide)
  neighs _ := ⟨fun _ _ _ h => absurd h not_encodes_none, fun _ _ _ => rfl⟩

theorem entryRun_hasEntries_sample :
    ∃ u : InterfacesState, u.kernel.HasEntries entryEnv onEth0 sampleEntries ∧
      (entryEnv.Succeeds entrySchema → ∀ new session,
        ValidEntries entrySchema onEth0 new → EntryStream sampleEntries new session →
          ∃ v, (interfacesSubscriptionChangeInterfacesInterface entryEnv session .change).run u =
            (.ok SR_ERR_OK, v)) := by
  have hkernel : LeavesEntries entryEnv onEth0 := leavesEntries_obey rfl _
  have hempty := validEntries_noEntries entrySchema onEth0
  obtain ⟨u, hrun⟩ := entryStream_sample.accepted hkernel entryEnv_succeeds hempty
    validEntries_sampleEntries (s := { kernel := sampleKernel }) sampleKernel_hasEntries.links
  have haccepts : AcceptsEntries entryEnv noEntries sampleEntries { kernel := sampleKernel } u :=
    ⟨entrySession, entryStream_sample, hrun⟩
  exact ⟨u, entryRun_hasEntries hkernel entryEnv_reads
    (.step .nil validEntries_sampleEntries haccepts) hempty sampleKernel_hasEntries⟩

end SysrepoInterfaces.Interfaces
