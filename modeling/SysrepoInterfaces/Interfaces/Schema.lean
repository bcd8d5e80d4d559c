import SysrepoInterfaces.Interfaces.Outcome

/-!
# SysrepoInterfaces.Interfaces.Schema

What `ietf-ip` promises the change handlers: the texts of the leaves, and the
leaves that come with a created or deleted list entry.  The library is taken to
read every text the schema admits.
-/

namespace SysrepoInterfaces.Interfaces

open CProg

/-! ## texts -/

/-- The bits of an address. -/
def IpFamily.width : IpFamily → Nat
  | .ipv4 => 32
  | .ipv6 => 128

/-- The texts of the types whose patterns only the library looks at. -/
structure Schema where
  /-- `inet:ipv4-address-no-zone`, `inet:ipv6-address-no-zone` -/
  ipAddress : IpFamily → String → Prop
  /-- `yang:phys-address` -/
  physAddress : String → Prop

/-- The texts of `prefix-length`. -/
def PrefixLengthText (family : IpFamily) (text : String) : Prop :=
  ∃ length ≤ family.width, text = toString length

/-- The texts of `yang:dotted-quad`. -/
def NetmaskText (text : String) : Prop := ∃ octets, text = dottedQuad octets

/-- The texts a leaf may have, where a handler looks at them. -/
def Schema.ValidValue (schema : Schema) : Leaf → String → Prop
  | .addressIp family, text | .neighborIp family, text => schema.ipAddress family text
  | .addressPrefixLength family, text => PrefixLengthText family text
  | .ipv4AddressNetmask, text => NetmaskText text
  | .neighborLinkLayerAddress _, text => schema.physAddress text
  | _, _ => True

/-! ## list entries -/

/-- The family of the list entry a leaf belongs to. -/
def Leaf.entryFamily : Leaf → Option IpFamily
  | .addressPrefixLength family | .neighborLinkLayerAddress family => some family
  | .ipv4AddressNetmask => some .ipv4
  | _ => none

/-- The leaves one of which an entry with this key has to have. -/
def Leaf.entryLeaves : Leaf → List Leaf
  | .addressIp .ipv4 => [.addressPrefixLength .ipv4, .ipv4AddressNetmask]
  | .addressIp .ipv6 => [.addressPrefixLength .ipv6]
  | .neighborIp family => [.neighborLinkLayerAddress family]
  | _ => []

/-- The datastore has a valid subnet for an address. -/
def Running.HasSubnet (running : Running) : IpFamily → String → String → Prop
  | .ipv4, name, ip =>
      (running.prefixLength .ipv4 name ip).isSome ∨ (running.netmask name ip).isSome
  | .ipv6, name, ip => (running.prefixLength .ipv6 name ip).isSome

structure Schema.ValidRunning (running : Running) : Prop where
  prefixLength : ∀ family name ip length,
    running.prefixLength family name ip = some length → length.toNat ≤ family.width
  netmask : ∀ name ip text, running.netmask name ip = some text → NetmaskText text

/-- A change the schema admits, next to the others of its session. -/
structure Schema.ValidChange (schema : Schema) (session : Session) (change : Change) : Prop where
  value : schema.ValidValue change.leaf change.nodeValue
  previous : change.operation = .modified →
    schema.ValidValue change.leaf change.previousValue
  name : change.leaf = .name → change.nodeValue = change.ifName
  ip : ∀ family, change.leaf.entryFamily = some family → schema.ipAddress family change.ip
  /-- the leaves of a created entry are created with it -/
  created : change.operation = .created → ∀ leaf ∈ change.leaf.entryLeaves,
    ∀ c ∈ session.changesAt leaf change.ifName change.nodeValue,
      c.operation = .created ∧ schema.ValidValue leaf c.nodeValue
  /-- and it has one of them -/
  mandatory : change.operation = .created → change.leaf.entryLeaves ≠ [] →
    ∃ leaf ∈ change.leaf.entryLeaves,
      session.changesAt leaf change.ifName change.nodeValue ≠ []
  /-- an address that is deleted was there -/
  deleted : change.operation = .deleted → ∀ family, change.leaf = .addressIp family →
    session.running.HasSubnet family change.ifName change.nodeValue

structure Schema.ValidSession (schema : Schema) (session : Session) : Prop where
  running : Schema.ValidRunning session.running
  changes : ∀ change ∈ session.changes, schema.ValidChange session change

/-! ## calls that succeed -/

/-- Every call and every request succeeds, and `nl_addr_parse` reads what the
schema admits. -/
structure InterfacesEnv.Succeeds (env : InterfacesEnv) (schema : Schema) : Prop where
  calls : env.CallsSucceed
  answers : ∀ n, env.answer n = 0
  ip : ∀ family ip, schema.ipAddress family ip → (env.nlAddrParse family.af ip).isSome
  address : ∀ family ip length, schema.ipAddress family ip → length ≤ family.width →
    (env.nlAddrParse family.af (addressText ip (toString length))).isSome
  lladdr : ∀ text, schema.physAddress text → (env.nlAddrParse AF_LLC text).isSome

/-- The values no handler refuses: a key is not modified, and a type is one of
the supported ones. -/
def Supported (change : Change) : Prop :=
  (change.operation = .modified → change.leaf ≠ .name ∧
    ∀ family, change.leaf ≠ .addressIp family ∧ change.leaf ≠ .neighborIp family) ∧
  (change.leaf = .type → change.nodeValue ∈ typePairs.map Prod.fst)

section Calls

variable {env : InterfacesEnv} {schema : Schema} {I : InterfacesState → Prop}

theorem ends_nlAddrParse {family : Nat} {text : String}
    (h : (env.nlAddrParse family text).isSome) :
    Prog.Ends I (nlAddrParse env family text) fun _ => I := by
  obtain ⟨addr, haddr⟩ := Option.isSome_iff_exists.mp h
  intro s hs
  refine ⟨addr, s, ?_, hs⟩
  rw [nlAddrParse, haddr]
  rfl

theorem InterfacesEnv.Succeeds.address_text {family : IpFamily} {ip text : String}
    (h : env.Succeeds schema) (hip : schema.ipAddress family ip)
    (htext : PrefixLengthText family text) :
    (env.nlAddrParse family.af (addressText ip text)).isSome := by
  obtain ⟨length, hle, rfl⟩ := htext
  exact h.address family ip length hip hle

theorem ends_netmaskLength {text : String} (htext : NetmaskText text) :
    Prog.Ends I (netmaskLength env text) fun length s =>
      length.toNat ≤ IpFamily.ipv4.width ∧ I s := by
  obtain ⟨octets, rfl⟩ := htext
  obtain ⟨length, hlength, hle⟩ := netmask2prefix_dottedQuad env.littleEndian octets
  intro s hs
  refine ⟨length, s, ?_, hle, hs⟩
  rw [netmaskLength, hlength]
  rfl

end Calls

/-! ## IPv4 texts -/

/-- `nl_addr_parse` on the canonical texts of IPv4, with or without a prefix
length. -/
def parseIpv4 (text : String) : Option NlAddr :=
  match text.toList.splitOn '/' with
  | [ip] => (inetPton (String.ofList ip)).map fun octets => addr4 octets.bits 32
  | [ip, length] =>
      match inetPton (String.ofList ip), parseOctet length with
      | some octets, some n => if n.toNat ≤ 32 then some (addr4 octets.bits n.toNat) else none
      | _, _ => none
  | _ => none

theorem parseIpv4_dottedQuad (octets : Octets) :
    parseIpv4 (dottedQuad octets) = some (addr4 octets.bits 32) := by
  have htext : (dottedQuad octets).toList = ['/'].intercalate [(dottedQuad octets).toList] := by
    simp [List.intercalate]
  have hslash : ∀ part ∈ [(dottedQuad octets).toList], '/' ∉ part := by
    simp [slash_notMem_dottedQuad]
  unfold parseIpv4
  rw [htext, List.splitOn_intercalate '/' hslash (by simp)]
  simp [inetPton_dottedQuad]

theorem parseIpv4_addressText (octets : Octets) {length : Nat} (hlength : length ≤ 32) :
    parseIpv4 (addressText (dottedQuad octets) (toString length)) =
      some (addr4 octets.bits length) := by
  have hnat : (UInt8.ofNat length).toNat = length := by
    simp
    omega
  have hparse := @parseOctet_toString length (by omega)
  have htext : (addressText (dottedQuad octets) (toString length)).toList =
      ['/'].intercalate [(dottedQuad octets).toList, (toString length).toList] := by
    simp [addressText, List.intercalate]
  have hslash : ∀ part ∈ [(dottedQuad octets).toList, (toString length).toList], '/' ∉ part := by
    simp only [List.mem_cons, List.not_mem_nil]
    grind [slash_notMem_dottedQuad, slash_notMem_toString]
  unfold parseIpv4
  rw [htext, List.splitOn_intercalate '/' hslash (by simp)]
  simp only [String.ofList_toList, inetPton_dottedQuad, hparse, hnat, if_pos hlength]

/-- A world in which every call and every request succeeds, and IPv4 texts are
read. -/
def ipv4Env : InterfacesEnv where
  nlAddrParse _ text := parseIpv4 text
  littleEndian := true
  lib _ _ := true
  answer _ := 0
  carryOut := Kernel.obey

end SysrepoInterfaces.Interfaces
