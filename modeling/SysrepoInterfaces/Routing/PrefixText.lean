import SysrepoInterfaces.Interfaces.Netmask
import SysrepoInterfaces.Routing.CallLog

/-!
# SysrepoInterfaces.Routing.PrefixText

The `destination-prefix` of a route in the two exports.  Both write what
`nl_addr2str` prints, with the length libnl leaves out; the operational one
also spells out the default route, which libnl prints as `none`.
-/

namespace SysrepoInterfaces.Routing

open CProg Trace Interfaces

/-! ## texts of a family -/

/-- The addresses of a family as texts: `text` is what libnl prints of one,
`read` what a reader of the YANG types makes of a text. -/
structure AddressTexts where
  family : Nat
  text : Nat → String
  read : String → Option Nat

/-- The bits of an address of the family. -/
def AddressTexts.width (texts : AddressTexts) : Nat := if texts.family = AF_INET then 32 else 128

/-- The address with all bits zero. -/
def AddressTexts.anyText (texts : AddressTexts) : String :=
  if texts.family = AF_INET then "0.0.0.0" else "::"

/-- Printed addresses are read back, and `none` is no address. -/
structure AddressTexts.Lawful (texts : AddressTexts) : Prop where
  family : texts.family = AF_INET ∨ texts.family = AF_INET6
  read_text : ∀ bits < 2 ^ texts.width, texts.read (texts.text bits) = some bits
  slash : ∀ bits < 2 ^ texts.width, '/' ∉ (texts.text bits).toList
  any : texts.read texts.anyText = some 0
  none : texts.read "none" = none

/-- The address and the length a prefix denotes: an address of the family, a
slash and a decimal number no greater than the width. -/
def prefixValue (texts : AddressTexts) (text : String) : Option (Nat × Nat) :=
  match text.toList.splitOn '/' with
  | [ip, length] =>
      match texts.read (String.ofList ip), parseOctet length with
      | some bits, some n => if n.toNat ≤ texts.width then some (bits, n.toNat) else none
      | _, _ => none
  | _ => none

/-- An address of the family, as the kernel lists it: one of length zero has no
bits and no prefix. -/
structure AddressTexts.Destination (texts : AddressTexts) (nlAddrGetLen : NlAddr → Nat)
    (dst : NlAddr) : Prop where
  family : dst.family = texts.family
  bits : dst.bits < 2 ^ texts.width
  prefixLen : dst.prefixLen ≤ texts.width
  empty : nlAddrGetLen dst = 0 → dst.bits = 0 ∧ dst.prefixLen = 0

/-- What `nl_addr2str` prints. -/
structure PrintsAddr (env : RoutingEnv) (texts : AddressTexts) (nlAddrGetLen : NlAddr → Nat)
    (dst : NlAddr) : Prop where
  empty : nlAddrGetLen dst = 0 → env.nlAddr2str dst = "none"
  host : nlAddrGetLen dst ≠ 0 → dst.prefixLen = texts.width →
    env.nlAddr2str dst = texts.text dst.bits
  net : nlAddrGetLen dst ≠ 0 → dst.prefixLen ≠ texts.width →
    env.nlAddr2str dst = texts.text dst.bits ++ "/" ++ toString dst.prefixLen

section Texts

variable {env : RoutingEnv} {texts : AddressTexts} {nlAddrGetLen : NlAddr → Nat} {dst : NlAddr}

theorem width_le (texts : AddressTexts) : texts.width ≤ 128 := by
  unfold AddressTexts.width
  split <;> omega

/-- An address, a slash and a length are read back. -/
theorem prefixValue_append {ip : String} {bits length : Nat} (hread : texts.read ip = some bits)
    (hslash : '/' ∉ ip.toList) (hlength : length ≤ texts.width) :
    prefixValue texts (ip ++ "/" ++ toString length) = some (bits, length) := by
  have hwidth := width_le texts
  have hnat : (UInt8.ofNat length).toNat = length := by
    simp
    omega
  have hparse := @parseOctet_toString length (by omega)
  have htext : (ip ++ "/" ++ toString length).toList =
      ['/'].intercalate [ip.toList, (toString length).toList] := by
    simp [List.intercalate]
  have hparts : ∀ part ∈ [ip.toList, (toString length).toList], '/' ∉ part := by
    simp only [List.mem_cons, List.not_mem_nil]
    grind [slash_notMem_toString]
  unfold prefixValue
  rw [htext, List.splitOn_intercalate '/' hparts (by simp)]
  simp only [String.ofList_toList, hread, hparse, hnat, if_pos hlength]

/-- The text of an address that is not empty. -/
theorem prefixText_eq (hlaw : texts.Lawful) (hdst : texts.Destination nlAddrGetLen dst)
    (hprints : PrintsAddr env texts nlAddrGetLen dst) (hlen : nlAddrGetLen dst ≠ 0) :
    prefixText env dst = texts.text dst.bits ++ "/" ++ toString dst.prefixLen := by
  unfold prefixText
  by_cases hwidth : dst.prefixLen = texts.width
  · have hslash := hlaw.slash dst.bits hdst.bits
    simp only [hprints.host hlen hwidth, hslash, if_false]
  · simp [hprints.net hlen hwidth]

/-- The default route is left as libnl prints it. -/
theorem prefixText_empty (hdst : texts.Destination nlAddrGetLen dst)
    (hprints : PrintsAddr env texts nlAddrGetLen dst) (hlen : nlAddrGetLen dst = 0) :
    prefixText env dst = "none/0" := by
  obtain ⟨-, hpre⟩ := hdst.empty hlen
  unfold prefixText
  rw [hprints.empty hlen, hpre]
  decide

/-- Only the text of an empty address starts like `none/0`. -/
theorem defaultPrefix_eq (hlaw : texts.Lawful) {bits : Nat} (hbits : bits < 2 ^ texts.width)
    (af : Nat) (length : String) :
    defaultPrefix af (texts.text bits ++ "/" ++ length) = texts.text bits ++ "/" ++ length := by
  have hnot : ¬ strPrefix (texts.text bits ++ "/" ++ length) "none/0" := by
    intro hpre
    rw [strPrefix, List.isPrefixOf_iff_prefix] at hpre
    obtain ⟨rest, hrest⟩ := hpre
    have hslash := hlaw.slash bits hbits
    have htake : ((texts.text bits ++ "/" ++ length).toList ++ rest).takeWhile (· ≠ '/') =
        (texts.text bits).toList := by
      have hall : ∀ c ∈ (texts.text bits).toList, decide (c ≠ '/') = true := by grind
      rw [String.toList_append, String.toList_append, List.append_assoc, List.append_assoc,
        List.takeWhile_append_of_pos hall]
      simp
    have hnone : texts.text bits = "none" := by
      rw [← String.toList_inj, ← htake, hrest]
      decide
    have hread := hlaw.read_text bits hbits
    rw [hnone, hlaw.none] at hread
    cases hread
  rw [defaultPrefix, if_neg hnot]

/-- What the operational callback makes of the buffer denotes the destination,
the default route included. -/
theorem prefixValue_defaultPrefix (hlaw : texts.Lawful)
    (hdst : texts.Destination nlAddrGetLen dst)
    (hprints : PrintsAddr env texts nlAddrGetLen dst) :
    prefixValue texts (defaultPrefix texts.family (prefixText env dst)) =
      some (dst.bits, dst.prefixLen) := by
  by_cases hlen : nlAddrGetLen dst = 0
  · obtain ⟨hbits, hpre⟩ := hdst.empty hlen
    have hany : prefixText env dst = "none/0" := prefixText_empty hdst hprints hlen
    have hdefault : defaultPrefix texts.family "none/0" = texts.anyText ++ "/" ++ toString 0 := by
      unfold defaultPrefix AddressTexts.anyText
      rw [if_pos (by decide)]
      split <;> decide
    have hslash : '/' ∉ texts.anyText.toList := by
      unfold AddressTexts.anyText
      split <;> decide
    rw [hany, hdefault, hbits, hpre]
    exact prefixValue_append hlaw.any hslash (Nat.zero_le _)
  · rw [prefixText_eq hlaw hdst hprints hlen, defaultPrefix_eq hlaw hdst.bits]
    exact prefixValue_append (hlaw.read_text _ hdst.bits) (hlaw.slash _ hdst.bits) hdst.prefixLen

end Texts

/-! ## what the exports write -/

/-- The list entry the startup export creates for a destination. -/
def routeEntryPath (text : String) : String := "route[destination-prefix=\"" ++ text ++ "\"]"

/-- The value of a `destination-prefix` leaf, where a call creates one. -/
def destinationPrefix : Call → Option String
  | .lydNewTerm _ _ name value => if name = "destination-prefix" then some value else none
  | _ => none

/-- The `destination-prefix` leaves created so far. -/
def destinationPrefixes (s : RoutingState) : List String := s.log.filterMap destinationPrefix

/-- A destination is exported as `text`: every run of the startup export over a
bucket of it begins with this entry, and every run of the operational one
creates leaves of this text only, one for each route if it comes to its end. -/
structure ExportedAs (env : RoutingEnv) (dst : NlAddr) (text : String) : Prop where
  startup : ∀ family container error (e : RouteListHashElement), e.pfx = dst → e.routesHead ≠ [] →
    ∀ s, s.log ++ [.lydNewPath container (routeEntryPath text) none] <+:
      ((startupBucket env family container error e).run s).2.log
  operational : ∀ modules routesNode error (e : RouteListHashElement), e.pfx = dst →
    (UnicastModules.forFamily modules dst.family).isSome →
    Emits destinationPrefixes (operBucket env modules dst.family routesNode error e)
      (e.routesHead.map fun _ => text) fun _ => True

section Operational

variable {env : RoutingEnv}

theorem hides_destinationPrefix : Hides destinationPrefix fun _ => True where
  child _ _ := id
  path _ _ _ _ := rfl
  address _ _ _ := rfl
  others c h := by cases c <;> first | rfl | cases h

/-- One route writes one leaf, and leaves its text in the buffer. -/
theorem emits_operRoute {modules : UnicastModules} {af : Nat} {acc : Int × String} {text : String}
    (routesNode : LydNode) (route : Route) (hmodule : (modules.forFamily af).isSome)
    (hbuffer : defaultPrefix af acc.2 = text) :
    Emits destinationPrefixes (operRoute env modules af routesNode acc route) [text]
      fun acc => defaultPrefix af acc.2 = text := by
  obtain ⟨module, hmodule⟩ := Option.isSome_iff_exists.mp hmodule
  have hroute := @HidesNextHop.operRoute _ env _ _ hides_destinationPrefix.nextHop modules af
    routesNode trivial acc route
  have hshown : routeShown destinationPrefix modules af (routesNode ++ "/" ++ "routes/route") acc.2
      route = [text] := by
    have hleaf : ∀ node value,
        destinationPrefix (.lydNewTerm node module "destination-prefix" value) = some value := by
      intro node value
      rw [destinationPrefix, if_pos rfl]
    have hother : ∀ node path value, destinationPrefix (.lydNewPath node path value) = none :=
      fun _ _ _ => rfl
    rw [routeShown, hmodule, Option.bind_some, hleaf, hother, hother, hbuffer]
    rfl
  rwa [hshown, hbuffer] at hroute

theorem emits_operBucket {modules : UnicastModules} {af : Nat} {text : String}
    (routesNode : LydNode) (error : Int) (e : RouteListHashElement)
    (hmodule : (modules.forFamily af).isSome)
    (hbuffer : defaultPrefix af (prefixText env e.pfx) = text) :
    Emits destinationPrefixes (operBucket env modules af routesNode error e)
      (e.routesHead.map fun _ => text) fun _ => True := by
  have hloop : Emits destinationPrefixes
      (e.routesHead.foldlM (operRoute env modules af routesNode) (error, prefixText env e.pfx))
      (e.routesHead.flatMap fun _ => [text]) fun acc => defaultPrefix af acc.2 = text :=
    emits_foldlM (fun _ hacc route _ => emits_operRoute routesNode route hmodule hacc) hbuffer
  unfold operBucket
  rw [List.map_eq_flatMap]
  exact hloop.then fun _ _ => emits_pure trivial

end Operational

section Startup

variable {env : RoutingEnv}

/-- The calls made stay in the log. -/
def LogGrows (s s' : RoutingState) : Prop := s.log <+: s'.log

instance : IsPreorder RoutingState LogGrows where
  refl s := List.prefix_refl s.log
  trans _ _ _ h h' := List.IsPrefix.trans h h'

theorem grows_checked (c : Call) : Prog.Within LogGrows (checked env c) := by
  intro s
  rw [run_checked]
  exact List.prefix_append _ _

theorem grows_lydNewAny (parent : LydNode) (module name : String) :
    Prog.Within LogGrows (lydNewAny env parent module name) :=
  Prog.within_bind (grows_checked _) fun _ => Prog.within_pure _

theorem grows_lydNewInner (parent : LydNode) (module name : String) :
    Prog.Within LogGrows (lydNewInner env parent module name) :=
  Prog.within_bind (grows_checked _) fun _ => Prog.within_pure _

theorem grows_startupLeaf (node : LydNode) (module name : String) (value : Option String) :
    Prog.Within LogGrows (startupLeaf env node module name value) := by
  unfold startupLeaf
  cases value with
  | none => exact Prog.within_pure ()
  | some value => exact grows_checked _

theorem grows_startupListNextHop (family : StartupFamily) (nhNode : LydNode)
    (simple : RouteNextHopSimple) :
    Prog.Within LogGrows (startupListNextHop env family nhNode simple) := by
  unfold startupListNextHop
  simp only
  split
  · exact Prog.within_fail
  · apply Prog.within_bind (grows_lydNewAny _ _ _)
    intro nhListNode
    apply Prog.within_bind (grows_startupLeaf _ _ _ _)
    intro _
    exact Prog.within_bind (grows_startupLeaf _ _ _ _) fun _ => Prog.within_pure _

theorem grows_startupNextHop (family : StartupFamily) (nhNode : LydNode)
    (nextHop : RouteNextHop) (error : Int) :
    Prog.Within LogGrows (startupNextHop env family nhNode nextHop error) := by
  unfold startupNextHop
  cases nextHop.kind with
  | none => exact Prog.within_pure error
  | simple =>
      apply Prog.within_bind (grows_startupLeaf _ _ _ _)
      intro _
      exact Prog.within_bind (grows_startupLeaf _ _ _ _) fun _ => Prog.within_pure error
  | special => exact Prog.within_pure error
  | list => exact Prog.within_foldlM (fun _ _ => grows_startupListNextHop family nhNode _) _ _

/-- The first call for a bucket creates its list entry. -/
theorem startupBucket_entry (family : StartupFamily) (container : LydNode) (error : Int)
    {e : RouteListHashElement} (hroutes : e.routesHead ≠ []) (s : RoutingState) :
    s.log ++ [.lydNewPath container (routeEntryPath (prefixText env e.pfx)) none] <+:
      ((startupBucket env family container error e).run s).2.log := by
  obtain ⟨route, routes, hhead⟩ := List.exists_cons_of_ne_nil hroutes
  have hrest : ∀ routeNode, Prog.Within LogGrows (do
      startupLeaf env routeNode family.module "description" route.metadata.description
      let nhNode ← lydNewInner env routeNode family.module "next-hop"
      startupNextHop env family nhNode route.nextHop error) := by
    intro routeNode
    apply Prog.within_bind (grows_startupLeaf _ _ _ _)
    intro _
    apply Prog.within_bind (grows_lydNewInner _ _ _)
    exact fun nhNode => grows_startupNextHop family nhNode route.nextHop error
  unfold startupBucket lydNewPath
  rw [hhead]
  simp only [bind_assoc, pure_bind]
  rw [Prog.run_bind, run_checked]
  cases env.lib s.calls with
  | false => exact List.prefix_refl _
  | true =>
      exact hrest (container ++ "/" ++ routeEntryPath (prefixText env e.pfx)) { s with
        log := s.log ++ [.lydNewPath container (routeEntryPath (prefixText env e.pfx)) none]
        calls := s.calls + 1, failed := s.failed || !true }

theorem routeEntryPath_inj {text text' : String} (h : routeEntryPath text = routeEntryPath text') :
    text = text' := by
  unfold routeEntryPath at h
  rw [← String.toList_inj] at h ⊢
  simpa using h

end Startup

/-! ## the two exports -/

section Exported

variable {env : RoutingEnv} {texts : AddressTexts} {nlAddrGetLen : NlAddr → Nat} {dst : NlAddr}

/-- The startup export leaves no choice of the text. -/
theorem ExportedAs.eq_prefixText {text : String} (h : ExportedAs env dst text) :
    text = prefixText env dst := by
  let e : RouteListHashElement := { pfx := dst, routesHead := [{}] }
  have hone := h.startup startupIpv4 "" 0 e rfl (by simp [e]) {}
  have htwo := @startupBucket_entry env startupIpv4 "" 0 e (by simp [e]) {}
  have heq := List.prefix_of_prefix_length_le hone htwo (by simp)
  simp only [List.nil_append, List.cons_prefix_cons, Call.lydNewPath.injEq] at heq
  exact routeEntryPath_inj heq.1.2.1

/-- Both exports write one text, and it denotes the destination, exactly when
the destination is not of length zero, which the default route is. -/
theorem exportedAs_prefix_iff (hlaw : texts.Lawful) (hdst : texts.Destination nlAddrGetLen dst)
    (hprints : PrintsAddr env texts nlAddrGetLen dst) :
    (∃ text, ExportedAs env dst text ∧
      prefixValue texts text = some (dst.bits, dst.prefixLen)) ↔ nlAddrGetLen dst ≠ 0 := by
  constructor
  · rintro ⟨text, hexported, hvalue⟩ hlen
    rw [hexported.eq_prefixText, prefixText_empty hdst hprints hlen] at hvalue
    have hsplit : "none/0".toList.splitOn '/' = ["none".toList, ['0']] := by decide
    unfold prefixValue at hvalue
    rw [hsplit] at hvalue
    simp only [String.ofList_toList, hlaw.none] at hvalue
    cases hvalue
  · intro hlen
    have htext := prefixText_eq hlaw hdst hprints hlen
    have hfixed : defaultPrefix dst.family (prefixText env dst) = prefixText env dst := by
      rw [htext]
      exact defaultPrefix_eq hlaw hdst.bits _ _
    refine ⟨prefixText env dst, ⟨?_, ?_⟩, ?_⟩
    · rintro family container error e rfl hroutes s
      exact startupBucket_entry family container error hroutes s
    · rintro modules routesNode error e rfl hmodule
      exact emits_operBucket routesNode error e hmodule hfixed
    · rw [htext]
      exact prefixValue_append (hlaw.read_text _ hdst.bits) (hlaw.slash _ hdst.bits) hdst.prefixLen

end Exported

/-! ## IPv4 -/

/-- The canonical texts of IPv4. -/
def ipv4Texts : AddressTexts where
  family := AF_INET
  text bits := dottedQuad (octetsOf bits)
  read text := (inetPton text).map Octets.bits

theorem ipv4Texts_lawful : ipv4Texts.Lawful where
  family := .inl rfl
  read_text := by
    intro bits hbits
    simp only [ipv4Texts, inetPton_dottedQuad, Option.map_some]
    rw [bits_octetsOf hbits]
  slash bits _ := slash_notMem_dottedQuad (octetsOf bits)
  any := by decide
  none := by decide

/-- `nl_addr_get_len`, taking the address without bits and prefix to be
empty. -/
def ipv4AddrLen (addr : NlAddr) : Nat := if addr.bits = 0 ∧ addr.prefixLen = 0 then 0 else 4

/-- `nl_addr2str` on IPv4 addresses. -/
def ipv4Str (addr : NlAddr) : String :=
  if ipv4AddrLen addr = 0 then "none"
  else if addr.prefixLen = 32 then dottedQuad (octetsOf addr.bits)
  else dottedQuad (octetsOf addr.bits) ++ "/" ++ toString addr.prefixLen

def ipv4StrEnv : RoutingEnv := { sampleEnv with nlAddr2str := ipv4Str }

theorem ipv4_destination {bits prefixLen : Nat} (hbits : bits < 2 ^ 32) (hlen : prefixLen ≤ 32) :
    ipv4Texts.Destination ipv4AddrLen (addr4 bits prefixLen) where
  family := rfl
  bits := hbits
  prefixLen := hlen
  empty := by
    intro h
    simp only [ipv4AddrLen] at h
    grind

theorem ipv4_prints (dst : NlAddr) : PrintsAddr ipv4StrEnv ipv4Texts ipv4AddrLen dst where
  empty h := if_pos h
  host h hlen := (if_neg h).trans (if_pos hlen)
  net h hlen := (if_neg h).trans (if_neg hlen)

theorem exportedAs_prefix_iff_ipv4 :
    (∃ text, ExportedAs ipv4StrEnv (addr4 0x0a000000 8) text ∧
      prefixValue ipv4Texts text = some (0x0a000000, 8)) ↔
      ipv4AddrLen (addr4 0x0a000000 8) ≠ 0 :=
  exportedAs_prefix_iff ipv4Texts_lawful (ipv4_destination (by decide) (by decide))
    (ipv4_prints _)

/-- A bucket with a route through eth0. -/
def bucketOf (dst : NlAddr) : RouteListHashElement where
  pfx := dst
  routesHead := [{ nextHop := { kind := .simple, simple := { ifindex := 2, ifName := "eth0" } } }]

/-- The default route: the startup export writes a text that is no prefix, the
operational one the prefix itself. -/
theorem defaultRoute_not_exportedAs :
    ((startupBucket ipv4StrEnv startupIpv4 "ipv4" 0 (bucketOf (addr4 0 0))).run {}).2.log.head? =
        some (.lydNewPath "ipv4" "route[destination-prefix=\"none/0\"]" none) ∧
      destinationPrefixes ((operBucket ipv4StrEnv ⟨true, true⟩ AF_INET "routes" 0
        (bucketOf (addr4 0 0))).run {}).2 = ["0.0.0.0/0"] ∧
      ¬ ∃ text, ExportedAs ipv4StrEnv (addr4 0 0) text ∧
        prefixValue ipv4Texts text = some (0, 0) := by
  refine ⟨by decide +kernel, by decide +kernel, ?_⟩
  rintro ⟨text, hexported, hvalue⟩
  have htext : text = "none/0" := hexported.eq_prefixText.trans (by decide)
  rw [htext] at hvalue
  exact absurd hvalue (by decide)

end SysrepoInterfaces.Routing
