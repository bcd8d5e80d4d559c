import Mathlib.Logic.Function.Basic
import SysrepoInterfaces.Interfaces.Schema

/-!
# SysrepoInterfaces.Interfaces.AddressConfig

The IPv4 addresses of an interface as the datastore describes them, the changes
that lead from one description to another, and what it means for the kernel's
addresses to follow a description.
-/

namespace SysrepoInterfaces.Interfaces

/-! ## configurations -/

/-- The subnet of an address: a prefix length, or the netmask of that many
ones. -/
inductive Subnet where
  | prefixLength (length : Fin 33)
  | netmask (length : Fin 33)
deriving DecidableEq, Repr

namespace Subnet

def length : Subnet → Nat
  | prefixLength n => n
  | netmask n => n

/-- The leaf of the choice. -/
def leaf : Subnet → Leaf
  | prefixLength _ => .addressPrefixLength .ipv4
  | netmask _ => .ipv4AddressNetmask

/-- The value of the leaf. -/
def text : Subnet → String
  | prefixLength n => toString n.val
  | netmask n => dottedQuad (maskOctets n)

theorem length_le (subnet : Subnet) : subnet.length ≤ 32 := by
  cases subnet <;> simp only [length] <;> omega

theorem leaf_ne_ip (subnet : Subnet) : subnet.leaf ≠ .addressIp .ipv4 := by
  cases subnet <;> simp [leaf]

end Subnet

/-- The addresses of an interface.  There are finitely many ips. -/
abbrev AddressConfig := Octets → Option Subnet

/-- What the running datastore says of the addresses. -/
structure Describes (running : Running) (name : String) (config : AddressConfig) : Prop where
  prefixLength : ∀ ip n, config ip = some (.prefixLength n) →
    running.prefixLength .ipv4 name (dottedQuad ip) = some (UInt8.ofNat n)
  netmask : ∀ ip n, config ip = some (.netmask n) →
    running.prefixLength .ipv4 name (dottedQuad ip) = none ∧
      running.netmask name (dottedQuad ip) = some (dottedQuad (maskOctets n))

/-! ## changes -/

/-- The change of a key leaf. -/
def ipChange (operation : SrChangeOper) (name : String) (ip : Octets) : Change where
  operation
  leaf := .addressIp .ipv4
  ifName := name
  ip := dottedQuad ip
  nodeValue := dottedQuad ip

/-- The change of a leaf of the choice. -/
def subnetChange (operation : SrChangeOper) (name : String) (ip : Octets) (subnet : Subnet)
    (previous : String) : Change where
  operation
  leaf := subnet.leaf
  ifName := name
  ip := dottedQuad ip
  nodeValue := subnet.text
  previousValue := previous

/-- The changes of one address. -/
def diff (name : String) (ip : Octets) : Option Subnet → Option Subnet → List Change
  | none, none => []
  | none, some new => [ipChange .created name ip, subnetChange .created name ip new ""]
  | some old, none => [ipChange .deleted name ip, subnetChange .deleted name ip old ""]
  | some old, some new =>
      if old = new then []
      else if old.leaf = new.leaf then [subnetChange .modified name ip new old.text]
      else [subnetChange .deleted name ip old "", subnetChange .created name ip new ""]

/-- A session with the changes from one configuration to another, in any order,
and the first of them in the running datastore. -/
structure IsStream (name : String) (old new : AddressConfig) (session : Session) : Prop where
  changes : ∀ change, change ∈ session.changes ↔ ∃ ip, change ∈ diff name ip (old ip) (new ip)
  nodup : session.changes.Nodup
  running : Describes session.running name old

/-- An address that goes from one leaf of the choice to the other. -/
def Switches (old new : Option Subnet) : Prop :=
  ∃ a b, old = some a ∧ new = some b ∧ a.leaf ≠ b.leaf

/-- The addresses that switch keep their prefix lengths. -/
def SwitchesKeepLength (old new : AddressConfig) : Prop :=
  ∀ ip a b, old ip = some a → new ip = some b → a.leaf ≠ b.leaf → a.length = b.length

/-- An address that is taken from the kernel: it goes, or its leaf gets another
value. -/
def Removed (old new : Option Subnet) (a : Subnet) : Prop :=
  old = some a ∧ ∀ b, new = some b → a.leaf = b.leaf ∧ a ≠ b

/-- A change a handler carries out: that of an ip, or of a value. -/
def Change.acts (change : Change) : Bool :=
  change.leaf = .addressIp .ipv4 ∨ change.operation = .modified

section Diff

variable {name : String} {ip : Octets} {a b : Option Subnet} {change change' : Change}

theorem dottedQuad_inj {ip ip' : Octets} (h : dottedQuad ip = dottedQuad ip') : ip = ip' := by
  have hread := inetPton_dottedQuad ip
  rw [h, inetPton_dottedQuad] at hread
  exact (Option.some.inj hread).symm

/-- The changes of an address that comes, that goes, and that stays. -/
theorem mem_diff_cases (h : change ∈ diff name ip a b) :
    (∃ new, a = none ∧ b = some new ∧ (change = ipChange .created name ip ∨
      change = subnetChange .created name ip new "")) ∨
    (∃ old, a = some old ∧ b = none ∧ (change = ipChange .deleted name ip ∨
      change = subnetChange .deleted name ip old "")) ∨
    ∃ old new, a = some old ∧ b = some new ∧
      (old.leaf = new.leaf ∧ change = subnetChange .modified name ip new old.text ∨
        old.leaf ≠ new.leaf ∧ (change = subnetChange .deleted name ip old "" ∨
          change = subnetChange .created name ip new "")) := by
  unfold diff at h
  split at h
  · cases h
  · simp only [List.mem_cons, List.not_mem_nil, or_false] at h
    exact .inl ⟨_, rfl, rfl, h⟩
  · simp only [List.mem_cons, List.not_mem_nil, or_false] at h
    exact .inr (.inl ⟨_, rfl, rfl, h⟩)
  · next old new =>
      refine .inr (.inr ⟨old, new, rfl, rfl, ?_⟩)
      split at h
      · cases h
      · split at h
        · next hsame => exact .inl ⟨hsame, List.mem_singleton.mp h⟩
        · next hother => exact .inr ⟨hother, by simpa using h⟩

theorem ip_of_mem_diff (h : change ∈ diff name ip a b) : change.ip = dottedQuad ip := by
  have hcases := mem_diff_cases h
  grind [ipChange, subnetChange]

theorem ifName_of_mem_diff (h : change ∈ diff name ip a b) : change.ifName = name := by
  have hcases := mem_diff_cases h
  grind [ipChange, subnetChange]

theorem leaf_of_mem_diff (h : change ∈ diff name ip a b) :
    change.leaf = .addressIp .ipv4 ∨ change.leaf = .addressPrefixLength .ipv4 ∨
      change.leaf = .ipv4AddressNetmask := by
  have hleaf : ∀ subnet : Subnet, subnet.leaf = .addressPrefixLength .ipv4 ∨
      subnet.leaf = .ipv4AddressNetmask := by
    intro subnet
    cases subnet <;> simp [Subnet.leaf]
  have hcases := mem_diff_cases h
  grind [ipChange, subnetChange]

/-- The key of an address changes when there is an address and then none, or
the other way round. -/
theorem mem_diff_ip (h : change ∈ diff name ip a b) (hleaf : change.leaf = .addressIp .ipv4) :
    (∃ new, a = none ∧ b = some new ∧ change = ipChange .created name ip) ∨
      ∃ old, a = some old ∧ b = none ∧ change = ipChange .deleted name ip := by
  have hcases := mem_diff_cases h
  grind [subnetChange, Subnet.leaf_ne_ip]

/-- A leaf of the choice is created, deleted or given another value. -/
theorem mem_diff_subnet (h : change ∈ diff name ip a b) (hleaf : change.leaf ≠ .addressIp .ipv4) :
    change.operation = .created ∨ change.operation = .deleted ∨ ∃ old new, a = some old ∧
      b = some new ∧ old.leaf = new.leaf ∧
        change = subnetChange .modified name ip new old.text := by
  have hcases := mem_diff_cases h
  grind [ipChange, subnetChange]

/-- A created address comes with one leaf. -/
theorem mem_diff_created {new : Subnet} (h : change ∈ diff name ip none (some new))
    (hleaf : change.leaf ≠ .addressIp .ipv4) :
    change = subnetChange .created name ip new "" := by
  have hcases := mem_diff_cases h
  grind [ipChange]

/-- A leaf of an address changes once. -/
theorem eq_of_mem_diff (h : change ∈ diff name ip a b) (h' : change' ∈ diff name ip a b)
    (hleaf : change.leaf = change'.leaf) : change = change' := by
  have hcases := mem_diff_cases h
  have hcases' := mem_diff_cases h'
  grind [ipChange, subnetChange, Subnet.leaf_ne_ip]

/-- At most one change of an address is carried out. -/
theorem eq_of_acts (h : change ∈ diff name ip a b) (h' : change' ∈ diff name ip a b)
    (hacts : change.acts) (hacts' : change'.acts) : change = change' := by
  have hcases := mem_diff_cases h
  have hcases' := mem_diff_cases h'
  simp only [Change.acts, decide_eq_true_eq] at hacts hacts'
  grind [ipChange, subnetChange, Subnet.leaf_ne_ip]

/-- An address has a change that is carried out unless it stays or switches. -/
theorem exists_acts_iff :
    (∃ change ∈ diff name ip a b, change.acts) ↔ a ≠ b ∧ ¬ Switches a b := by
  unfold diff Switches
  split
  · simp
  · simp [Change.acts, ipChange]
  · simp [Change.acts, ipChange]
  · next old new =>
      split
      · next heq => simp [heq]
      · next hne =>
          split
          · next hsame => simp [Change.acts, subnetChange, hne, hsame]
          · next hother => simp [Change.acts, subnetChange, hne, hother, Subnet.leaf_ne_ip]

end Diff

/-! ## the kernel -/

/-- The IPv4 addresses of a link are those of a configuration. -/
def Represents (addrs : List RtnlAddr) (ifindex : Nat) (config : AddressConfig) : Prop :=
  ∀ addr : NlAddr, addr.family = AF_INET →
    ({ ifindex, localAddr := addr } ∈ addrs ↔
      ∃ ip subnet, config ip = some subnet ∧ addr = addr4 ip.bits subnet.length)

/-- Two IPv4 addresses with one prefix length and one network. -/
def SameSubnet (a b : NlAddr) : Prop :=
  a.prefixLen = b.prefixLen ∧ a.bits / 2 ^ (32 - a.prefixLen) = b.bits / 2 ^ (32 - a.prefixLen)

instance (a b : NlAddr) : Decidable (SameSubnet a b) := inferInstanceAs (Decidable (_ ∧ _))

/-- What the kernel makes of the requests about IPv4 addresses that it accepts:
an added address comes, a deleted one goes.  With it others of its link may go,
but only ones of its subnet: the kernel drops the secondary addresses of a
subnet with the primary one. -/
structure ChangesIpv4Addrs (env : InterfacesEnv) : Prop where
  addLinks : ∀ (k : Kernel) row, row.localAddr.family = AF_INET →
    (env.carryOut k (.addrAdd row)).links = k.links
  deleteLinks : ∀ (k : Kernel) row, row.localAddr.family = AF_INET →
    (env.carryOut k (.addrDelete row)).links = k.links
  add : ∀ (k : Kernel) row other, row.localAddr.family = AF_INET →
    other.localAddr.family = AF_INET →
      (other ∈ (env.carryOut k (.addrAdd row)).addrs ↔ other ∈ k.addrs ∨ other = row)
  delete : ∀ (k : Kernel) row other, row.localAddr.family = AF_INET →
    other.localAddr.family = AF_INET → other ∈ (env.carryOut k (.addrDelete row)).addrs →
      other ∈ k.addrs ∧ other ≠ row
  spare : ∀ (k : Kernel) row other, row.localAddr.family = AF_INET →
    other.localAddr.family = AF_INET → other ∈ k.addrs → other ≠ row →
      ¬ (other.ifindex = row.ifindex ∧ SameSubnet row.localAddr other.localAddr) →
        other ∈ (env.carryOut k (.addrDelete row)).addrs

section Represents

variable {env : InterfacesEnv} {addrs : List RtnlAddr} {ifindex : Nat}
  {config config' : AddressConfig} {ip : Octets} {subnet : Subnet} {k : Kernel}

theorem bits_inj {ip ip' : Octets} (h : ip.bits = ip'.bits) : ip = ip' := by
  obtain ⟨a, b, c, d⟩ := ip
  obtain ⟨a', b', c', d'⟩ := ip'
  simp only [Octets.bits] at h
  have ha := a.toNat_lt
  have hb := b.toNat_lt
  have hc := c.toNat_lt
  have hd := d.toNat_lt
  have ha' := a'.toNat_lt
  have hb' := b'.toNat_lt
  have hc' := c'.toNat_lt
  have hd' := d'.toNat_lt
  have h₁ : a.toNat = a'.toNat := by omega
  have h₂ : b.toNat = b'.toNat := by omega
  have h₃ : c.toNat = c'.toNat := by omega
  have h₄ : d.toNat = d'.toNat := by omega
  rw [UInt8.toNat_inj] at h₁ h₂ h₃ h₄
  rw [h₁, h₂, h₃, h₄]

/-- An ip and a prefix length make one address. -/
theorem addr4_inj {ip ip' : Octets} {m n : Nat} (h : addr4 ip.bits m = addr4 ip'.bits n) :
    ip = ip' ∧ m = n := by
  simp only [addr4, NlAddr.mk.injEq, true_and] at h
  exact ⟨bits_inj h.1, h.2⟩

theorem Represents.mem (h : Represents addrs ifindex config) {n : Nat} :
    { ifindex, localAddr := addr4 ip.bits n } ∈ addrs ↔
      (config ip).map Subnet.length = some n := by
  rw [h _ rfl]
  constructor
  · rintro ⟨ip', subnet, hconfig, haddr⟩
    obtain ⟨rfl, rfl⟩ := addr4_inj haddr
    rw [hconfig]
    rfl
  · intro hlength
    obtain ⟨subnet, hconfig, rfl⟩ := Option.map_eq_some_iff.mp hlength
    exact ⟨ip, subnet, hconfig, rfl⟩

/-- The kernel knows nothing of a configuration but the prefix lengths. -/
theorem Represents.iff_of (h : Represents addrs ifindex config) :
    Represents addrs ifindex config' ↔
      ∀ ip, (config ip).map Subnet.length = (config' ip).map Subnet.length := by
  constructor
  · intro h' ip
    ext n
    rw [← h.mem, ← h'.mem]
  · intro hlengths
    refine fun addr hfamily => (h addr hfamily).trans ?_
    have hone : ∀ {c d : AddressConfig}, (∀ ip, (c ip).map Subnet.length =
        (d ip).map Subnet.length) → (∃ ip subnet, c ip = some subnet ∧
          addr = addr4 ip.bits subnet.length) → ∃ ip subnet, d ip = some subnet ∧
            addr = addr4 ip.bits subnet.length := by
      rintro c d hcd ⟨ip, subnet, hc, rfl⟩
      have hlength := hcd ip
      rw [hc] at hlength
      obtain ⟨subnet', hd, hlength⟩ := Option.map_eq_some_iff.mp hlength.symm
      exact ⟨ip, subnet', hd, by rw [hlength]⟩
    exact ⟨hone hlengths, hone fun ip => (hlengths ip).symm⟩

/-- A new address is added. -/
theorem Represents.add (h : Represents k.addrs ifindex config) (hkernel : ChangesIpv4Addrs env)
    (hnone : config ip = none) :
    Represents (env.carryOut k
        (.addrAdd { ifindex, localAddr := addr4 ip.bits subnet.length })).addrs ifindex
      (Function.update config ip (some subnet)) := by
  intro addr hfamily
  rw [hkernel.add _ _ _ rfl hfamily, h addr hfamily]
  simp only [RtnlAddr.mk.injEq, true_and]
  constructor
  · rintro (⟨ip', old, hconfig, rfl⟩ | rfl)
    · refine ⟨ip', old, ?_, rfl⟩
      rw [Function.update_of_ne (by grind), hconfig]
    · exact ⟨ip, subnet, Function.update_self .., rfl⟩
  · rintro ⟨ip', new, hconfig, rfl⟩
    by_cases hip : ip' = ip
    · subst hip
      rw [Function.update_self] at hconfig
      cases hconfig
      exact .inr rfl
    · rw [Function.update_of_ne hip] at hconfig
      exact .inl ⟨ip', new, hconfig, rfl⟩

/-- No other address of the configuration is in the subnet of this one. -/
def AloneInSubnet (config : AddressConfig) (ip : Octets) (subnet : Subnet) : Prop :=
  ∀ ip' other, ip' ≠ ip → config ip' = some other →
    ¬ SameSubnet (addr4 ip.bits subnet.length) (addr4 ip'.bits other.length)

/-- No address that is taken from the kernel shares its subnet with another one,
old or new. -/
def SparesSubnets (old new : AddressConfig) : Prop :=
  ∀ ip a, Removed (old ip) (new ip) a → AloneInSubnet old ip a ∧ AloneInSubnet new ip a

/-- A configuration on the way from one to another. -/
def Between (old new config : AddressConfig) : Prop := ∀ ip, config ip = old ip ∨ config ip = new ip

theorem AloneInSubnet.between {old new : AddressConfig} (hold : AloneInSubnet old ip subnet)
    (hnew : AloneInSubnet new ip subnet) (h : Between old new config) :
    AloneInSubnet config ip subnet := by
  intro ip' other hip hconfig
  rcases h ip' with hsame | hsame
  · exact hold ip' other hip (hsame ▸ hconfig)
  · exact hnew ip' other hip (hsame ▸ hconfig)

/-- An address is deleted with its prefix length; it takes no other along where
it is alone in its subnet. -/
theorem Represents.delete (h : Represents k.addrs ifindex config) (hkernel : ChangesIpv4Addrs env)
    (hsome : config ip = some subnet) (halone : AloneInSubnet config ip subnet) :
    Represents (env.carryOut k
        (.addrDelete { ifindex, localAddr := addr4 ip.bits subnet.length })).addrs ifindex
      (Function.update config ip none) := by
  intro addr hfamily
  constructor
  · intro hmem
    obtain ⟨hmem, hne⟩ := hkernel.delete _ _ _ rfl hfamily hmem
    obtain ⟨ip', old, hconfig, rfl⟩ := (h addr hfamily).mp hmem
    refine ⟨ip', old, ?_, rfl⟩
    rw [Function.update_of_ne ?_, hconfig]
    rintro rfl
    rw [hsome] at hconfig
    cases hconfig
    exact hne rfl
  · rintro ⟨ip', other, hconfig, rfl⟩
    have hip : ip' ≠ ip := by
      rintro rfl
      rw [Function.update_self] at hconfig
      cases hconfig
    rw [Function.update_of_ne hip] at hconfig
    refine hkernel.spare _ _ _ rfl rfl (h.mem.mpr (by rw [hconfig]; rfl)) ?_ fun hsame => ?_
    · intro heq
      exact hip (addr4_inj (congrArg RtnlAddr.localAddr heq)).1
    · exact halone ip' other hip hconfig hsame.2

end Represents

end SysrepoInterfaces.Interfaces
