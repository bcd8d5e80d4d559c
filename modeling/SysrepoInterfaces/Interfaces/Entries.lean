import SysrepoInterfaces.Interfaces.Schema
import SysrepoInterfaces.Lib.Mirror

/-!
# SysrepoInterfaces.Interfaces.Entries

The list entries of the interfaces that have a key and one mandatory leaf: the
IPv6 addresses with their prefix lengths, and the neighbours of both families
with their link layer addresses.  What the datastore says of them, the changes
that lead from one configuration to another, and what it means for the kernel
to follow a configuration.
-/

namespace SysrepoInterfaces.Interfaces

open Mirror

/-! ## configurations -/

/-- The lists. -/
inductive Book where
  | address
  | neighbor (family : IpFamily)
deriving DecidableEq, Repr

namespace Book

def family : Book → IpFamily
  | address => .ipv6
  | neighbor family => family

/-- The key leaf. -/
def ipLeaf : Book → Leaf
  | address => .addressIp .ipv6
  | neighbor family => .neighborIp family

/-- The mandatory leaf. -/
def valueLeaf : Book → Leaf
  | address => .addressPrefixLength .ipv6
  | neighbor family => .neighborLinkLayerAddress family

theorem ipLeaf_ne_valueLeaf (book book' : Book) : book.ipLeaf ≠ book'.valueLeaf := by
  cases book <;> cases book' <;> simp [ipLeaf, valueLeaf]

theorem ipLeaf_inj {book book' : Book} (h : book.ipLeaf = book'.ipLeaf) : book = book' := by
  cases book <;> cases book' <;> simp_all [ipLeaf]

theorem valueLeaf_inj {book book' : Book} (h : book.valueLeaf = book'.valueLeaf) :
    book = book' := by
  cases book <;> cases book' <;> simp_all [valueLeaf]

end Book

/-- An interface and an ip. -/
abbrev EntryKey := String × String

/-- The entries of the datastore, each with the text of its mandatory leaf. -/
abbrev BookEntries := Book → EntryKey → Option String

/-- The configuration with another entry. -/
def BookEntries.set (entries : BookEntries) (book : Book) (key : EntryKey) (entry : Option String) :
    BookEntries := Function.update entries book (Function.update (entries book) key entry)

/-- A configuration the schema admits, of the entries that are managed. -/
structure ValidEntries (schema : Schema) (managed : Book → EntryKey → Prop)
    (entries : BookEntries) : Prop where
  managed : ∀ book key text, entries book key = some text → managed book key
  ip : ∀ book key text, entries book key = some text → schema.ipAddress book.family key.2
  value : ∀ book key text, entries book key = some text → schema.ValidValue book.valueLeaf text

section Set

variable {schema : Schema} {managed : Book → EntryKey → Prop} {entries : BookEntries}
  {book : Book} {key : EntryKey} {entry : Option String}

theorem BookEntries.set_self :
    (entries.set book key entry) book = Function.update (entries book) key
    entry := Function.update_self ..

theorem BookEntries.set_of_ne {book' : Book} (h : book' ≠ book) :
    (entries.set book key entry) book' = entries book' := Function.update_of_ne h ..

theorem BookEntries.set_apply (book' : Book) (key' : EntryKey) :
    entries.set book key entry book' key' =
      if book' = book ∧ key' = key then entry else entries book' key' := by
  by_cases hbook : book' = book
  · subst hbook
    rw [set_self]
    by_cases hkey : key' = key
    · subst hkey
      simp
    · simp [hkey]
  · rw [set_of_ne hbook, if_neg fun h => hbook h.1]

theorem BookEntries.set_set {entry' : Option String} :
    (entries.set book key entry).set book key entry' = entries.set book key entry' := by
  unfold BookEntries.set
  rw [Function.update_self, Function.update_idem, Function.update_idem]

theorem ValidEntries.set (h : ValidEntries schema managed entries) (hmanaged : managed book key)
    (hip : schema.ipAddress book.family key.2)
    (hvalue : ∀ text, entry = some text → schema.ValidValue book.valueLeaf text) :
    ValidEntries schema managed (entries.set book key entry) := by
  have hcases : ∀ book' key' text, entries.set book key entry book' key' = some text →
      book' = book ∧ key' = key ∧ entry = some text ∨ entries book' key' = some text := by
    intro book' key' text
    rw [BookEntries.set_apply]
    split
    · next hsame => exact fun hentry => .inl ⟨hsame.1, hsame.2, hentry⟩
    · exact .inr
  constructor
  · intro book' key' text htext
    rcases hcases book' key' text htext with ⟨rfl, rfl, -⟩ | hwas
    · exact hmanaged
    · exact h.managed book' key' text hwas
  · intro book' key' text htext
    rcases hcases book' key' text htext with ⟨rfl, rfl, -⟩ | hwas
    · exact hip
    · exact h.ip book' key' text hwas
  · intro book' key' text htext
    rcases hcases book' key' text htext with ⟨rfl, rfl, hentry⟩ | hwas
    · exact hvalue text hentry
    · exact h.value book' key' text hwas

end Set

/-! ## changes -/

/-- The change of a key leaf. -/
def Book.ipChange (book : Book) (operation : SrChangeOper) (key : EntryKey) : Change where
  operation
  leaf := book.ipLeaf
  ifName := key.1
  ip := key.2
  nodeValue := key.2

/-- The change of a mandatory leaf. -/
def Book.valueChange (book : Book) (operation : SrChangeOper) (key : EntryKey)
    (value previous : String) : Change where
  operation
  leaf := book.valueLeaf
  ifName := key.1
  ip := key.2
  nodeValue := value
  previousValue := previous

/-- The changes of one entry. -/
def Book.changes (book : Book) (key : EntryKey) : Option String → Option String → List Change
  | none, none => []
  | none, some new => [book.ipChange .created key, book.valueChange .created key new ""]
  | some old, none => [book.ipChange .deleted key, book.valueChange .deleted key old ""]
  | some old, some new => if old = new then [] else [book.valueChange .modified key new old]

/-- A session with the changes from one configuration to another, in any order,
and the first of them in the running datastore. -/
structure EntryStream (old new : BookEntries) (session : Session) : Prop where
  changes : ∀ change, change ∈ session.changes ↔
    ∃ book key, change ∈ Book.changes book key (old book key) (new book key)
  nodup : session.changes.Nodup
  running : ∀ key text, old .address key = some text →
    session.running.prefixLength .ipv6 key.1 key.2 = some (uint8Of text)
  valid : Schema.ValidRunning session.running

/-- The handlers carry out the change of a key, and that of a value which is
modified. -/
def Change.ActsOn (change : Change) (book : Book) (key : EntryKey) : Prop :=
  change.ifName = key.1 ∧ change.ip = key.2 ∧
    (change.leaf = book.ipLeaf ∨ change.leaf = book.valueLeaf ∧ change.operation = .modified)

instance (change : Change) (book : Book) (key : EntryKey) : Decidable (change.ActsOn book key) :=
  inferInstanceAs (Decidable (_ ∧ _))

section Changes

variable {book book' : Book} {key key' : EntryKey} {old new : Option String}
  {change change' : Change}

/-- The changes of an entry that comes, that goes, and that gets another value. -/
theorem Book.mem_changes (h : change ∈ book.changes key old new) :
    (∃ text, old = none ∧ new = some text ∧ (change = book.ipChange .created key ∨
      change = book.valueChange .created key text "")) ∨
    (∃ text, old = some text ∧ new = none ∧ (change = book.ipChange .deleted key ∨
      change = book.valueChange .deleted key text "")) ∨
    ∃ text text', old = some text ∧ new = some text' ∧ text ≠ text' ∧
      change = book.valueChange .modified key text' text := by
  unfold Book.changes at h
  split at h
  · cases h
  · simp only [List.mem_cons, List.not_mem_nil, or_false] at h
    exact .inl ⟨_, rfl, rfl, h⟩
  · simp only [List.mem_cons, List.not_mem_nil, or_false] at h
    exact .inr (.inl ⟨_, rfl, rfl, h⟩)
  · split at h
    · cases h
    · next hne => exact .inr (.inr ⟨_, _, rfl, rfl, hne, List.mem_singleton.mp h⟩)

/-- A change belongs to one entry. -/
theorem Book.key_of_mem_changes (h : change ∈ book.changes key old new) :
    (change.leaf = book.ipLeaf ∨ change.leaf = book.valueLeaf) ∧ change.ifName = key.1 ∧
      change.ip = key.2 := by
  have hcases := Book.mem_changes h
  grind [Book.ipChange, Book.valueChange]

theorem Change.ActsOn.unique (h : change.ActsOn book key) (h' : change.ActsOn book' key') :
    book = book' ∧ key = key' := by
  obtain ⟨hname, hip, hleaf⟩ := h
  obtain ⟨hname', hip', hleaf'⟩ := h'
  have hkey : key = key' := Prod.ext (hname.symm.trans hname') (hip.symm.trans hip')
  refine ⟨?_, hkey⟩
  rcases hleaf with hleaf | ⟨hleaf, -⟩ <;> rcases hleaf' with hleaf' | ⟨hleaf', -⟩
  · exact Book.ipLeaf_inj (hleaf.symm.trans hleaf')
  · exact absurd (hleaf.symm.trans hleaf') (Book.ipLeaf_ne_valueLeaf book book')
  · exact absurd (hleaf'.symm.trans hleaf) (Book.ipLeaf_ne_valueLeaf book' book)
  · exact Book.valueLeaf_inj (hleaf.symm.trans hleaf')

/-- One change of an entry is carried out, unless the entry stays. -/
theorem Book.existsUnique_acts (hne : old ≠ new) :
    ∃! change, change ∈ book.changes key old new ∧ change.ActsOn book key := by
  have hother : book.valueLeaf ≠ book.ipLeaf := (Book.ipLeaf_ne_valueLeaf book book).symm
  cases old with
  | none =>
      cases new with
      | none => exact absurd rfl hne
      | some text =>
          refine ⟨book.ipChange .created key, ?_, ?_⟩
          · simp [Book.changes, Change.ActsOn, Book.ipChange]
          · rintro change ⟨hmem, hacts⟩
            simp [Book.changes, Change.ActsOn, Book.valueChange] at hmem hacts
            grind
  | some text =>
      cases new with
      | none =>
          refine ⟨book.ipChange .deleted key, ?_, ?_⟩
          · simp [Book.changes, Change.ActsOn, Book.ipChange]
          · rintro change ⟨hmem, hacts⟩
            simp [Book.changes, Change.ActsOn, Book.valueChange] at hmem hacts
            grind
      | some text' =>
          have hne' : text ≠ text' := fun heq => hne (congrArg some heq)
          refine ⟨book.valueChange .modified key text' text, ?_, ?_⟩
          · simp [Book.changes, Change.ActsOn, Book.valueChange, hne']
          · rintro change ⟨hmem, -⟩
            simpa [Book.changes, hne'] using hmem

end Changes

/-! ## the kernel -/

/-- The address of an entry. -/
def addressRow (env : InterfacesEnv) (links : LinkTable) (key : EntryKey) (length : String) :
    Option RtnlAddr := do
  let link ← links.getByName key.1
  let addr ← env.nlAddrParse AF_INET6 (addressText key.2 length)
  return { ifindex := link.ifindex, localAddr := addr }

/-- The neighbour of an entry. -/
def neighborRow (env : InterfacesEnv) (links : LinkTable) (family : IpFamily) (key : EntryKey)
    (lladdr : String) : Option RtnlNeigh := do
  let link ← links.getByName key.1
  let dst ← env.nlAddrParse family.af key.2
  let lladdr ← env.nlAddrParse AF_LLC lladdr
  return { ifindex := link.ifindex, dst, lladdr := some lladdr }

/-- The address of a managed entry, with any prefix length. -/
def ManagedAddr (env : InterfacesEnv) (managed : Book → EntryKey → Prop) (links : LinkTable)
    (row : RtnlAddr) : Prop :=
  row.localAddr.family = AF_INET6 ∧
    ∃ key length, managed .address key ∧ addressRow env links key length = some row

/-- A neighbour with the link and the destination of a managed entry. -/
def ManagedNeigh (env : InterfacesEnv) (managed : Book → EntryKey → Prop) (links : LinkTable)
    (family : IpFamily) (row : RtnlNeigh) : Prop :=
  row.dst.family = family.af ∧ ∃ key link, managed (.neighbor family) key ∧
    links.getByName key.1 = some link ∧ row.ifindex = link.ifindex ∧
      env.nlAddrParse family.af key.2 = some row.dst

/-- The interfaces are there, and what the kernel has of the managed entries is
the configuration. -/
structure Kernel.HasEntries (env : InterfacesEnv) (managed : Book → EntryKey → Prop)
    (entries : BookEntries) (k : Kernel) : Prop where
  links : ∀ book key, managed book key → (k.links.getByName key.1).isSome
  addrs : Mirrors (ManagedAddr env managed k.links) (addressRow env k.links) k.addrs
    (entries .address)
  neighs : ∀ family, Mirrors (ManagedNeigh env managed k.links family)
    (neighborRow env k.links family) k.neighs (entries (.neighbor family))

/-- The requests for addresses and for neighbours. -/
def Request.isForEntry : Request → Bool
  | .addrAdd _ | .addrDelete _ | .neighAdd .. | .neighDelete _ => true
  | .linkAdd .. | .linkChange .. | .linkDelete _ => false

/-- The kernel leaves the managed entries to the requests for them: it stores
and removes them as asked, touches no other of them and adds none by itself. -/
structure LeavesEntries (env : InterfacesEnv) (managed : Book → EntryKey → Prop) : Prop where
  links : ∀ (k : Kernel) (r : Request), r.isForEntry → (env.carryOut k r).links = k.links
  addrAdd : ∀ (k : Kernel) row r, ManagedAddr env managed k.links row →
    ManagedAddr env managed k.links r →
      (env.carryOut k (.addrAdd row)).addrs.count r =
        k.addrs.count r + if r = row then 1 else 0
  addrDelete : ∀ (k : Kernel) row r, ManagedAddr env managed k.links row →
    ManagedAddr env managed k.links r →
      (env.carryOut k (.addrDelete row)).addrs.count r =
        if r = row then 0 else k.addrs.count r
  addrNeighs : ∀ (k : Kernel) row family r, ManagedAddr env managed k.links row →
    ManagedNeigh env managed k.links family r →
      (env.carryOut k (.addrAdd row)).neighs.count r = k.neighs.count r ∧
        (env.carryOut k (.addrDelete row)).neighs.count r = k.neighs.count r
  neighCreate : ∀ (k : Kernel) row family family' r, ManagedNeigh env managed k.links family row →
    row.key ∉ k.neighs.map RtnlNeigh.key → ManagedNeigh env managed k.links family' r →
      (env.carryOut k (.neighAdd row NLM_F_CREATE)).neighs.count r =
        k.neighs.count r + if r = row then 1 else 0
  neighReplace : ∀ (k : Kernel) row family family' r, ManagedNeigh env managed k.links family row →
    row.key ∈ k.neighs.map RtnlNeigh.key → ManagedNeigh env managed k.links family' r →
      (env.carryOut k (.neighAdd row NLM_F_REPLACE)).neighs.count r =
        if r.key = row.key then if r = row then 1 else 0 else k.neighs.count r
  neighDelete : ∀ (k : Kernel) row family family' r, ManagedNeigh env managed k.links family row →
    ManagedNeigh env managed k.links family' r →
      (env.carryOut k (.neighDelete row)).neighs.count r =
        if r.key = row.key then 0 else k.neighs.count r
  neighAddrs : ∀ (k : Kernel) row family flags r, ManagedNeigh env managed k.links family row →
    ManagedAddr env managed k.links r →
      (env.carryOut k (.neighAdd row flags)).addrs.count r = k.addrs.count r ∧
        (env.carryOut k (.neighDelete row)).addrs.count r = k.addrs.count r

/-- `nl_addr_parse` reads the canonical text of an ip as its address, with or
without a prefix length, and it reads link layer addresses. -/
structure ReadsCanonical (env : InterfacesEnv) (schema : Schema) : Prop where
  address : ∀ family ip, schema.ipAddress family ip →
    ∃ addr, env.nlAddrParse family.af ip = some addr ∧ addr.family = family.af ∧
      addr.prefixLen = family.width ∧ ∀ length ≤ family.width,
        env.nlAddrParse family.af (addressText ip (toString length)) =
          some { addr with prefixLen := length }
  canonical : ∀ family ip ip', schema.ipAddress family ip → schema.ipAddress family ip' →
    env.nlAddrParse family.af ip = env.nlAddrParse family.af ip' → ip = ip'
  lladdr : ∀ text, schema.physAddress text → (env.nlAddrParse AF_LLC text).isSome

section Rows

variable {env : InterfacesEnv} {schema : Schema} {managed : Book → EntryKey → Prop}
  {links : LinkTable} {link : RtnlLink} {key key' : EntryKey} {family : IpFamily}

theorem eq_of_ifindex {name name' : String} {link link' : RtnlLink}
    (h : links.getByName name = some link) (h' : links.getByName name' = some link')
    (hindex : link.ifindex = link'.ifindex) : name = name' := by
  have hsame : link = link' := List.inj_on_of_nodup_map links.ifindexes
    (Keyed.mem_of_lookup h) (Keyed.mem_of_lookup h') hindex
  rw [← Keyed.key_of_lookup h, ← Keyed.key_of_lookup h', hsame]

theorem neighborRow_eq_some {lladdr : String} {row : RtnlNeigh} :
    neighborRow env links family key lladdr = some row ↔
      ∃ link dst ll, links.getByName key.1 = some link ∧
        env.nlAddrParse family.af key.2 = some dst ∧ env.nlAddrParse AF_LLC lladdr = some ll ∧
        row = { ifindex := link.ifindex, dst, lladdr := some ll } := by
  simp [neighborRow, Option.bind_eq_some_iff, @eq_comm _ row]

theorem addressRow_eq_some {length : String} {row : RtnlAddr} :
    addressRow env links key length = some row ↔
      ∃ link addr, links.getByName key.1 = some link ∧
        env.nlAddrParse AF_INET6 (addressText key.2 length) = some addr ∧
        row = { ifindex := link.ifindex, localAddr := addr } := by
  simp [addressRow, Option.bind_eq_some_iff, @eq_comm _ row]

/-- The rows of two entries differ in the link or in the ip. -/
theorem key_eq_of_neighborRow (hreads : ReadsCanonical env schema)
    (hip : schema.ipAddress family key.2) (hip' : schema.ipAddress family key'.2)
    {lladdr lladdr' : String} {row row' : RtnlNeigh}
    (h : neighborRow env links family key lladdr = some row)
    (h' : neighborRow env links family key' lladdr' = some row') (hkey : row.key = row'.key) :
    key = key' := by
  obtain ⟨link, dst, ll, hlink, hdst, -, rfl⟩ := neighborRow_eq_some.mp h
  obtain ⟨link', dst', ll', hlink', hdst', -, rfl⟩ := neighborRow_eq_some.mp h'
  obtain ⟨hindex, rfl⟩ := Prod.mk.inj hkey
  exact Prod.ext (eq_of_ifindex hlink hlink' hindex)
    (hreads.canonical family _ _ hip hip' (hdst.trans hdst'.symm))

theorem key_eq_of_addressRow (hreads : ReadsCanonical env schema)
    (hip : schema.ipAddress .ipv6 key.2) (hip' : schema.ipAddress .ipv6 key'.2)
    {length length' : String} (hlength : PrefixLengthText .ipv6 length)
    (hlength' : PrefixLengthText .ipv6 length') {row : RtnlAddr}
    (h : addressRow env links key length = some row)
    (h' : addressRow env links key' length' = some row) : key = key' := by
  obtain ⟨link, addr, hlink, haddr, rfl⟩ := addressRow_eq_some.mp h
  obtain ⟨link', addr', hlink', haddr', heq⟩ := addressRow_eq_some.mp h'
  obtain ⟨n, hn, rfl⟩ := hlength
  obtain ⟨n', hn', rfl⟩ := hlength'
  obtain ⟨whole, hwhole, -, hfull, hshort⟩ := hreads.address .ipv6 _ hip
  obtain ⟨whole', hwhole', -, hfull', hshort'⟩ := hreads.address .ipv6 _ hip'
  obtain rfl := Option.some.inj (haddr.symm.trans (hshort n hn))
  obtain rfl := Option.some.inj (haddr'.symm.trans (hshort' n' hn'))
  simp only [RtnlAddr.mk.injEq, NlAddr.mk.injEq] at heq
  obtain ⟨hindex, hfamily, hbits, -⟩ := heq
  have hsame : whole = whole' := by
    obtain ⟨family, bits, length⟩ := whole
    obtain ⟨family', bits', length'⟩ := whole'
    simp_all
  exact Prod.ext (eq_of_ifindex hlink hlink' hindex)
    (hreads.canonical .ipv6 _ _ hip hip' (by rw [hwhole, hwhole', hsame]))

theorem addressRow_domain (hreads : ReadsCanonical env schema) (hmanaged : managed .address key)
    (hip : schema.ipAddress .ipv6 key.2) {length : String} (hlength : PrefixLengthText .ipv6 length)
    {row : RtnlAddr} (h : addressRow env links key length = some row) :
    ManagedAddr env managed links row := by
  refine ⟨?_, key, length, hmanaged, h⟩
  obtain ⟨link, addr, hlink, haddr, rfl⟩ := addressRow_eq_some.mp h
  obtain ⟨n, hn, rfl⟩ := hlength
  obtain ⟨whole, -, hfamily, -, hshort⟩ := hreads.address .ipv6 _ hip
  obtain rfl := Option.some.inj (haddr.symm.trans (hshort n hn))
  exact hfamily

theorem neighborRow_domain (hreads : ReadsCanonical env schema)
    (hmanaged : managed (.neighbor family) key) (hip : schema.ipAddress family key.2)
    {lladdr : String} {row : RtnlNeigh} (h : neighborRow env links family key lladdr = some row) :
    ManagedNeigh env managed links family row := by
  obtain ⟨link, dst, ll, hlink, hdst, -, rfl⟩ := neighborRow_eq_some.mp h
  obtain ⟨whole, hwhole, hfamily, -⟩ := hreads.address family _ hip
  obtain rfl := Option.some.inj (hdst.symm.trans hwhole)
  exact ⟨hfamily, key, link, hmanaged, hlink, rfl, hdst⟩

/-- The domain asks for the key only. -/
theorem ManagedNeigh.of_key {row r : RtnlNeigh} (h : ManagedNeigh env managed links family row)
    (hkey : r.key = row.key) : ManagedNeigh env managed links family r := by
  obtain ⟨hindex, hdst⟩ := Prod.mk.inj hkey
  rw [ManagedNeigh, hindex, hdst]
  exact h

/-- An entry of the configuration has a neighbour. -/
theorem Kernel.HasEntries.neighborRow_of_entry {entries : BookEntries} {k : Kernel}
    (h : k.HasEntries env managed entries) (hreads : ReadsCanonical env schema)
    (hvalid : ValidEntries schema managed entries) {text : String}
    (hsome : entries (.neighbor family) key = some text) :
    ∃ row, neighborRow env k.links family key text = some row := by
  have hmanaged := hvalid.managed (.neighbor family) _ _ hsome
  obtain ⟨link, hlink⟩ := Option.isSome_iff_exists.mp (h.links _ _ hmanaged)
  obtain ⟨dst, hdst, -⟩ := hreads.address family _ (hvalid.ip (.neighbor family) _ _ hsome)
  have hphys : schema.physAddress text := hvalid.value (.neighbor family) _ _ hsome
  obtain ⟨lladdr, hlladdr⟩ := Option.isSome_iff_exists.mp (hreads.lladdr text hphys)
  exact ⟨_, neighborRow_eq_some.mpr ⟨link, dst, lladdr, hlink, hdst, hlladdr, rfl⟩⟩

end Rows

end SysrepoInterfaces.Interfaces
