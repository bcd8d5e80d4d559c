import SysrepoInterfaces.Interfaces.EntryByEntry
import SysrepoInterfaces.Interfaces.LoadComplete
import SysrepoInterfaces.Interfaces.StoreItems
import Std.Data.String.ToNat

/-!
# SysrepoInterfaces.Interfaces.Mtu

The way of an MTU from the datastore to a link, and from a link into the
datastore.  On the first way 0 stands for a leaf that is not there and is also
the least number; on the second the number passes through 16 bits.
-/

namespace SysrepoInterfaces.Interfaces

open CProg DataTree

/-! ## the leaves -/

/-- The `mtu` leaf in a container of an interface entry. -/
def mtuLeafIn (container : String) (node : Node) : Option String :=
  (node.childContainer container).bind fun n => n.childLeaf "mtu"

/-- The MTUs an entry configures. -/
def configuredMtus (node : Node) : List Nat :=
  ([mtuLeafIn "ipv4" node, mtuLeafIn "ipv6" node].filterMap id).map fun text => (atoi text).toNat

/-! ## from the datastore to the link -/

/-- The element of an entry never has an IPv6 MTU: its leaf is not read. -/
theorem ipv6Mtu_interfaceFromLy {ptrs : NodePointers} {node : Node}
    {r : NodePointers × Interface} (h : interfaceFromLy ptrs node = .ok r) : r.2.ipv6.mtu = 0 := by
  unfold interfaceFromLy at h
  cases hname : node.childLeaf "name" with
  | none =>
      rw [hname] at h
      cases h
  | some name =>
      rw [hname] at h
      cases htype : node.childLeaf "type" with
      | none =>
          rw [htype] at h
          cases h
      | some type =>
          rw [htype] at h
          obtain ⟨ipv4Address, -, h⟩ := Exit.bind_eq_ok.mp h
          obtain ⟨ipv6Address, -, h⟩ := Exit.bind_eq_ok.mp h
          cases h
          rfl

theorem ipv6Mtu_interfacesFromLy {nodes : List Node} {ptrs : NodePointers} {ifHash : InterfaceHash}
    (h : ∀ i ∈ ifHash, i.ipv6.mtu = 0) :
    ∀ i ∈ (interfacesFromLy ptrs ifHash nodes).2, i.ipv6.mtu = 0 := by
  induction nodes generalizing ptrs ifHash with
  | nil => exact h
  | cons node nodes ih =>
      unfold interfacesFromLy
      split
      · next ptrs' newElement heq =>
          apply ih
          have hnew : newElement.ipv6.mtu = 0 := ipv6Mtu_interfaceFromLy heq
          unfold interfaceHashAddElement
          split
          · exact h
          · intro i hi
            rcases List.mem_append.mp hi with hold | hi
            · exact h i hold
            · rw [List.mem_singleton.mp hi]
              exact hnew
      · exact h
      · exact h

/-- The links added are those of the hash. -/
def AddsLinksOf (ifHash : InterfaceHash) (s s' : StoreState) : Prop :=
  ∀ link, .linkAdd link ∈ s'.sent → .linkAdd link ∈ s.sent ∨
    ∃ i ∈ ifHash, ∃ type, link = storeNewLink i type

instance (ifHash : InterfaceHash) : IsPreorder StoreState (AddsLinksOf ifHash) where
  refl _ _ h := .inl h
  trans _ _ _ h h' link hlink := by
    rcases h' link hlink with hmid | hnew
    · exact h link hmid
    · exact .inr hnew

section Store

variable {env : StoreEnv} {ifHash : InterfaceHash}

theorem addsLinks_checked (call : StoreCall) :
    Prog.Within (AddsLinksOf ifHash) (storeChecked env call) := by
  have hcount : Prog.Within (AddsLinksOf ifHash)
      (Prog.modify fun s : StoreState => { s with calls := s.calls + 1 }) :=
    Prog.within_modify fun _ _ h => .inl h
  unfold storeChecked
  refine Prog.within_bind Prog.within_get fun s => Prog.within_bind hcount fun _ => ?_
  split
  · exact Prog.within_pure ()
  · exact Prog.within_fail

theorem addsLinks_storeAddr (name : String) (localAddr : NlAddr) (prefixLength : UInt8) :
    Prog.Within (AddsLinksOf ifHash) (storeAddr env name localAddr prefixLength) := by
  unfold storeAddr storeSend
  refine Prog.within_bind (addsLinks_checked _) fun _ => ?_
  refine Prog.within_bind (Prog.within_modify fun s link h => ?_) fun _ => addsLinks_checked _
  left
  simpa using h

theorem addsLinks_storeInterface {i : Interface} (hi : i ∈ ifHash) :
    Prog.Within (AddsLinksOf ifHash) (storeInterface env i) := by
  have hset : ∀ f : StoreState → StoreState, (∀ s, (f s).sent = s.sent) →
      Prog.Within (AddsLinksOf ifHash) (Prog.modify f) := by
    intro f hf
    refine Prog.within_modify fun s link h => .inl ?_
    rwa [hf] at h
  have hlink : Prog.Within (AddsLinksOf ifHash) (storeLink env i) := by
    unfold storeLink storeSend
    refine Prog.within_bind (addsLinks_checked _) fun _ => ?_
    refine Prog.within_bind (hset _ fun _ => rfl) fun _ => ?_
    refine Prog.within_bind (addsLinks_checked _) fun _ =>
      Prog.within_bind Prog.within_get fun s => ?_
    refine Prog.within_bind (Prog.within_bind (Prog.within_modify fun s' link h => ?_) fun _ =>
      addsLinks_checked _) fun _ => ?_
    · rcases List.mem_append.mp h with hold | hnew
      · exact .inl hold
      · cases List.mem_singleton.mp hnew
        exact .inr ⟨i, hi, _, rfl⟩
    · exact Prog.within_bind (addsLinks_checked _) fun _ => addsLinks_checked _
  unfold storeInterface
  refine Prog.within_bind hlink fun _ => Prog.within_bind ?_ fun _ => ?_
  · refine Prog.within_forM (fun address => ?_) _
    unfold storeIpv4Address
    split
    · exact Prog.within_fail
    · refine Prog.within_bind (hset _ fun _ => rfl) fun _ => ?_
      exact Prog.within_bind Prog.within_get fun _ => addsLinks_storeAddr _ _ _
  · refine Prog.within_forM (fun address => ?_) _
    unfold storeIpv6Address
    split
    · exact Prog.within_fail
    · exact addsLinks_storeAddr _ _ _

/-- Whatever the calls do, only links of the hash are added. -/
theorem link_of_storeOutcome {link : NewLink} (h : .linkAdd link ∈ (storeOutcome env ifHash).2) :
    ∃ i ∈ ifHash, ∃ type, link = storeNewLink i type := by
  have hwithin : Prog.Within (AddsLinksOf ifHash) (interfacesStoreInterface env ifHash) := by
    unfold interfacesStoreInterface
    refine Prog.within_exitCode _ (Prog.within_bind (Prog.within_modify fun _ _ h => .inl h)
      fun _ => ?_)
    refine Prog.within_bind (addsLinks_checked _) fun _ => ?_
    refine Prog.within_bind (addsLinks_checked _) fun _ => ?_
    refine Prog.within_bind (addsLinks_checked _) fun _ => ?_
    exact Prog.within_forM_mem fun i hi => addsLinks_storeInterface hi
  rcases hwithin {} link h with hold | hnew
  · exact absurd hold List.not_mem_nil
  · exact hnew

end Store

/-- No link is ever added with an MTU. -/
theorem mtu_of_storeOutcome {env : StoreEnv} {nodes : List Node} {link : NewLink}
    (h : .linkAdd link ∈ (storeOutcome env (interfacesInterfaceHashFromLy nodes).2).2) :
    link.mtu = none := by
  obtain ⟨i, hi, type, rfl⟩ := link_of_storeOutcome h
  have hipv6 : i.ipv6.mtu = 0 :=
    ipv6Mtu_interfacesFromLy (fun _ h => absurd h List.not_mem_nil) i hi
  have hmtu : storeMtu i = 0 := by
    unfold storeMtu
    rw [hipv6, if_neg (by simp)]
    rfl
  simp [storeNewLink, hmtu]

/-- A link that is added has the least MTU its entry configures, or none where
it configures none, in the second case only. -/
theorem storedMtu_iff {env : StoreEnv} {nodes : List Node} {link : NewLink}
    (h : .linkAdd link ∈ (storeOutcome env (interfacesInterfaceHashFromLy nodes).2).2) :
    ∀ node ∈ nodes, node.childLeaf "name" = some link.name →
      (link.mtu = (configuredMtus node).min? ↔ configuredMtus node = []) := by
  intro node _ _
  rw [mtu_of_storeOutcome h, eq_comm, List.min?_eq_none_iff]

/-- An entry with an MTU for each family. -/
def bothMtusEntry : Node :=
  .list "interface" [.leaf "name" "eth0", .leaf "type" "iana-if-type:ethernetCsmacd",
    .container "ipv4" [.leaf "mtu" "1400"], .container "ipv6" [.leaf "mtu" "1500"]]

def eth0NewLink : NewLink where
  name := "eth0"
  type := some "veth"
  up := false
  operstate := IF_OPER_DOWN
  mtu := none

theorem storedMtu_iff_eth0 :
    .linkAdd eth0NewLink ∈
        (storeOutcome sampleStoreEnv (interfacesInterfaceHashFromLy [bothMtusEntry]).2).2 ∧
      (eth0NewLink.mtu = (configuredMtus bothMtusEntry).min? ↔
        configuredMtus bothMtusEntry = []) := by
  have hadd : .linkAdd eth0NewLink ∈
      (storeOutcome sampleStoreEnv (interfacesInterfaceHashFromLy [bothMtusEntry]).2).2 := by
    decide
  exact ⟨hadd, storedMtu_iff hadd bothMtusEntry List.mem_cons_self (by decide)⟩

/-- Both leaves are there, and the link is added without an MTU. -/
theorem bothMtus_not_stored :
    .linkAdd eth0NewLink ∈
        (storeOutcome sampleStoreEnv (interfacesInterfaceHashFromLy [bothMtusEntry]).2).2 ∧
      bothMtusEntry.childLeaf "name" = some eth0NewLink.name ∧
      eth0NewLink.mtu ≠ (configuredMtus bothMtusEntry).min? := by
  decide

/-! ## from the link into the datastore -/

/-- An element of the hash has the name of a link, and of its MTU what fits. -/
structure MtuLoaded (link : RtnlLink) (element : Interface) : Prop where
  name : element.name = link.name
  ipv4 : element.ipv4.mtu = interfaceIpv4LoadMtu link
  ipv6 : element.ipv6.mtu = interfaceIpv6LoadMtu link

def KeepsHash (s s' : LoadState) : Prop := s'.ifHash = s.ifHash

instance : IsPreorder LoadState KeepsHash where
  refl _ := rfl
  trans _ _ _ h h' := h'.trans h

section Load

variable {env : LoadEnv}

theorem keepsHash_checked (call : LoadCall) : Prog.Within KeepsHash (loadChecked env call) := by
  have hcount : Prog.Within KeepsHash
      (Prog.modify fun s : LoadState => { s with calls := s.calls + 1 }) :=
    Prog.within_modify fun _ => rfl
  unfold loadChecked
  refine Prog.within_bind Prog.within_get fun s => Prog.within_bind hcount fun _ => ?_
  split
  · exact Prog.within_pure ()
  · exact Prog.within_fail

theorem keepsHash_string (text : String) : Prog.Within KeepsHash (loadString env text) :=
  Prog.within_bind (keepsHash_checked _) fun _ => Prog.within_pure text

theorem yields_loadString (text : String) : Prog.Yields (loadString env text) text := by
  intro s b s' h
  obtain ⟨_, _, _, hret⟩ := Prog.bind_eq_ok h
  cases hret
  rfl

theorem keepsHash_cache {α β : Type} {alloc : LoadCall} {cache : List α} {listed : α → Bool}
    {element : α → LoadM β} (helement : ∀ x, Prog.Within KeepsHash (element x)) :
    Prog.Within KeepsHash (loadCache env alloc cache listed element) := by
  unfold loadCache
  refine Prog.within_bind (keepsHash_checked _) fun _ => ?_
  split
  · exact Prog.within_fail
  · refine Prog.within_foldlM (fun list x => ?_) _ _
    unfold loadEntry
    split
    · exact Prog.within_bind (helement x) fun _ => Prog.within_pure _
    · exact Prog.within_pure _

theorem keepsHash_element (link : RtnlLink) : Prog.Within KeepsHash (loadElement env link) := by
  have htype : Prog.Within KeepsHash (interfaceLoadType env link) := by
    unfold interfaceLoadType
    split
    · exact keepsHash_string _
    · exact Prog.within_fail
  have hneighbor : ∀ neigh, Prog.Within KeepsHash (neighborLoad env neigh) := fun neigh =>
    Prog.within_bind (keepsHash_string _) fun _ =>
      Prog.within_bind (keepsHash_string _) fun _ => Prog.within_pure _
  have hipv4 : ∀ addr, Prog.Within KeepsHash (ipv4AddressLoad env addr) := fun addr =>
    Prog.within_bind (keepsHash_string _) fun _ => Prog.within_pure _
  have hipv6 : ∀ addr, Prog.Within KeepsHash (ipv6AddressLoad env addr) := fun addr =>
    Prog.within_bind (keepsHash_string _) fun _ => Prog.within_pure _
  unfold loadElement
  refine Prog.within_bind (keepsHash_string _) fun _ => Prog.within_bind htype fun _ => ?_
  refine Prog.within_bind (keepsHash_cache hipv4) fun _ => ?_
  refine Prog.within_bind (keepsHash_cache hneighbor) fun _ => ?_
  refine Prog.within_bind (keepsHash_cache hipv6) fun _ => ?_
  exact Prog.within_bind (keepsHash_cache hneighbor) fun _ => Prog.within_pure _

theorem mtuLoaded_of_loadElement {link : RtnlLink} {element : Interface} {s s' : LoadState}
    (h : (loadElement env link).run s = (.ok element, s')) :
    s'.ifHash = s.ifHash ∧ MtuLoaded link element := by
  have hkeeps : s'.ifHash = s.ifHash := by
    have hwithin := @keepsHash_element env link s
    rwa [h] at hwithin
  unfold loadElement at h
  obtain ⟨name, _, hname, h⟩ := Prog.bind_eq_ok h
  obtain ⟨_, _, _, h⟩ := Prog.bind_eq_ok h
  obtain ⟨_, _, _, h⟩ := Prog.bind_eq_ok h
  obtain ⟨_, _, _, h⟩ := Prog.bind_eq_ok h
  obtain ⟨_, _, _, h⟩ := Prog.bind_eq_ok h
  obtain ⟨_, _, _, h⟩ := Prog.bind_eq_ok h
  cases h
  exact ⟨hkeeps, yields_loadString link.name _ _ _ hname, rfl, rfl⟩

/-- One link, one element. -/
theorem mtuLoaded_of_loadLink {link : RtnlLink} {s s' : LoadState}
    (h : (loadLink env link).run s = (.ok (), s')) :
    ∃ element, s'.ifHash = s.ifHash ++ [element] ∧ MtuLoaded link element := by
  unfold loadLink at h
  obtain ⟨element, s₁, helement, h⟩ := Prog.bind_eq_ok h
  obtain ⟨hkeeps, hloaded⟩ := mtuLoaded_of_loadElement helement
  rw [Prog.run_bind_ok (Prog.run_get s₁)] at h
  refine ⟨element, ?_, hloaded⟩
  cases hlookup : Keyed.lookup Interface.name element.name s₁.ifHash with
  | some _ =>
      have hadd : interfaceHashAddElement s₁.ifHash element = (-1, s₁.ifHash) := by
        simp [interfaceHashAddElement, hlookup]
      simp only [hadd] at h
      cases h
  | none =>
      have hadd : interfaceHashAddElement s₁.ifHash element = (0, s₁.ifHash ++ [element]) := by
        simp [interfaceHashAddElement, hlookup]
      simp only [hadd] at h
      cases h
      rw [← hkeeps]

theorem mtusLoaded_of_forM {links : List RtnlLink} {s s' : LoadState}
    (h : (forM links (loadLink env)).run s = (.ok (), s')) :
    ∃ elements, s'.ifHash = s.ifHash ++ elements ∧ List.Forall₂ MtuLoaded links elements := by
  induction links generalizing s with
  | nil =>
      cases h
      exact ⟨[], (List.append_nil _).symm, .nil⟩
  | cons link links ih =>
      rw [List.forM_cons] at h
      obtain ⟨_, s₁, hlink, hrest⟩ := Prog.bind_eq_ok h
      obtain ⟨element, hhash, hloaded⟩ := mtuLoaded_of_loadLink hlink
      obtain ⟨elements, hhashes, hall⟩ := ih hrest
      refine ⟨element :: elements, ?_, .cons hloaded hall⟩
      rw [hhashes, hhash, List.append_assoc]
      rfl

/-- A load that returns 0 has an element for each link. -/
theorem mtusLoaded_of_interfacesLoadInterface {s s' : LoadState}
    (h : (interfacesLoadInterface env).run s = (.ok 0, s')) :
    List.Forall₂ MtuLoaded env.links s'.ifHash := by
  have hbody := (Prog.exitCode_eq_zero (by decide)).mp h
  rw [Prog.run_bind_ok (Prog.run_modify ..)] at hbody
  obtain ⟨_, s₁, hsocket, hbody⟩ := Prog.bind_eq_ok hbody
  obtain ⟨_, s₂, hconnect, hbody⟩ := Prog.bind_eq_ok hbody
  obtain ⟨_, s₃, hcache, hbody⟩ := Prog.bind_eq_ok hbody
  have hkeeps : s₃.ifHash = [] := by
    have h₁ := @keepsHash_checked env .nlSocketAlloc { s with ifHash := [] }
    have h₂ := @keepsHash_checked env .nlConnect s₁
    have h₃ := @keepsHash_checked env .rtnlLinkAllocCache s₂
    rw [hsocket] at h₁
    rw [hconnect] at h₂
    rw [hcache] at h₃
    exact h₃.trans (h₂.trans h₁)
  split at hbody
  · cases hbody
  · obtain ⟨elements, hhash, hall⟩ := mtusLoaded_of_forM hbody
    rw [hhash, hkeeps]
    exact hall

end Load

/-- The leaf is not there, or it has the link's MTU and that is in its range. -/
def MtuKept (container : String) (least most mtu : Nat) (node : Node) : Prop :=
  ∀ text, mtuLeafIn container node = some text → text = toString mtu ∧ least ≤ mtu ∧ mtu ≤ most

/-- Both leaves of an entry, with the ranges of the model. -/
structure MtusKept (mtu : Nat) (node : Node) : Prop where
  ipv4 : MtuKept "ipv4" 68 65535 mtu node
  ipv6 : MtuKept "ipv6" 1280 4294967295 mtu node

theorem mtuLeafIn_ipv4_interfaceNode (i : Interface) : mtuLeafIn "ipv4" (interfaceNode i) =
    if i.ipv4.mtu.toNat ≠ 0 then some (toString i.ipv4.mtu.toNat) else none := by
  rw [mtuLeafIn, childContainer_ipv4_interfaceNode, Option.bind_some, childLeaf_mtu_ipv4Node]

theorem mtuLeafIn_ipv6_interfaceNode (i : Interface) : mtuLeafIn "ipv6" (interfaceNode i) =
    if i.ipv6.mtu.toNat ≠ 0 then some (toString i.ipv6.mtu.toNat) else none := by
  rw [mtuLeafIn, childContainer_ipv6_interfaceNode, Option.bind_some, childLeaf_mtu_ipv6Node]

/-- Where the leaf has what is left of the MTU after the cast. -/
theorem mtuKept_iff {container : String} {least most mtu : Nat} {node : Node}
    (h : mtuLeafIn container node =
      if mtu % 65536 ≠ 0 then some (toString (mtu % 65536)) else none) :
    MtuKept container least most mtu node ↔
      mtu % 65536 = 0 ∨ (mtu < 65536 ∧ least ≤ mtu ∧ mtu ≤ most) := by
  unfold MtuKept
  rw [h]
  by_cases hzero : mtu % 65536 = 0
  · simp [hzero]
  · simp only [ne_eq, hzero, not_false_iff, if_true, Option.some.injEq, forall_eq', false_or]
    refine and_congr_left fun _ => ⟨fun hrepr => ?_, fun hlt => ?_⟩
    · have hmod : mtu % 65536 = mtu := Nat.repr_injective hrepr
      omega
    · rw [Nat.mod_eq_of_lt hlt]

theorem mtusKept_iff {link : RtnlLink} {i : Interface} (h : MtuLoaded link i) :
    MtusKept link.mtu (interfaceNode i) ↔
      link.mtu % 65536 = 0 ∨ (1280 ≤ link.mtu ∧ link.mtu ≤ 65535) := by
  have hipv4 : i.ipv4.mtu.toNat = link.mtu % 65536 := by
    simp [h.ipv4, interfaceIpv4LoadMtu]
  have hipv6 : i.ipv6.mtu.toNat = link.mtu % 65536 := by
    simp [h.ipv6, interfaceIpv6LoadMtu]
  have hkept4 := mtuLeafIn_ipv4_interfaceNode i
  have hkept6 := mtuLeafIn_ipv6_interfaceNode i
  rw [hipv4] at hkept4
  rw [hipv6] at hkept6
  constructor
  · rintro ⟨hipv4, hipv6⟩
    rcases (mtuKept_iff hkept6).mp hipv6 with hzero | ⟨hlt, hleast, -⟩
    · exact .inl hzero
    · exact .inr ⟨hleast, Nat.le_of_lt_succ hlt⟩
  · intro hmtu
    constructor
    · rw [mtuKept_iff hkept4]
      omega
    · rw [mtuKept_iff hkept6]
      omega

/-- In the tree of a load there is an entry for each link, and its MTU leaves
are as they should be just where the MTU is in the range of both or vanishes in
16 bits. -/
theorem loadedMtu_iff {env : LoadEnv} {lib : Nat → Bool} {s s' : LoadState} {nodes : List Node}
    {n n' : Nat} (hload : (interfacesLoadInterface env).run s = (.ok 0, s'))
    (htoLy : (interfacesInterfaceHashToLy lib s'.ifHash).run n = (.ok (0, nodes), n')) :
    List.Forall₂ (fun link node => node.childLeaf "name" = some link.name ∧
      (MtusKept link.mtu node ↔
        link.mtu % 65536 = 0 ∨ (1280 ≤ link.mtu ∧ link.mtu ≤ 65535))) env.links nodes := by
  rw [interfacesInterfaceHashToLy_eq_ok lib htoLy, List.forall₂_map_right_iff]
  refine (mtusLoaded_of_interfacesLoadInterface hload).imp fun link i hloaded => ?_
  have hname : (interfaceNode i).childLeaf "name" = some link.name := by
    rw [← hloaded.name]
    simp [interfaceNode, Node.childLeaf]
  exact ⟨hname, mtusKept_iff hloaded⟩

/-- A link with an MTU that 16 bits do not hold. -/
def jumboLink : RtnlLink := { ifindex := 2, name := "eth0", type := some "veth", mtu := 70000 }

def jumboEnv : LoadEnv := { hostEnv with links := [loopbackLink, jumboLink] }

def jumboLoaded : LoadState := ((interfacesLoadInterface jumboEnv).run {}).2

def jumboNodes : List Node := jumboLoaded.ifHash.map interfaceNode

theorem loadedMtu_iff_jumbo : List.Forall₂ (fun link node =>
    node.childLeaf "name" = some link.name ∧ (MtusKept link.mtu node ↔
      link.mtu % 65536 = 0 ∨ (1280 ≤ link.mtu ∧ link.mtu ≤ 65535))) jumboEnv.links jumboNodes := by
  have hload : (interfacesLoadInterface jumboEnv).run {} = (.ok 0, jumboLoaded) :=
    Prod.ext (by decide) rfl
  have htoLy : (interfacesInterfaceHashToLy (fun _ => true) jumboLoaded.ifHash).run 0 =
      (.ok (0, jumboNodes),
        ((interfacesInterfaceHashToLy (fun _ => true) jumboLoaded.ifHash).run 0).2) :=
    Prod.ext rfl rfl
  exact loadedMtu_iff hload htoLy

/-- Both leaves of the link have another number, and no call has failed. -/
theorem jumboLink_mtu_altered :
    (interfacesLoadInterface jumboEnv).run {} = (.ok 0, jumboLoaded) ∧
      ((interfacesInterfaceHashToLy (fun _ => true) jumboLoaded.ifHash).run 0).1 =
        .ok (0, jumboNodes) ∧
      ∃ node ∈ jumboNodes, node.childLeaf "name" = some jumboLink.name ∧
        mtuLeafIn "ipv4" node = some "4464" ∧ mtuLeafIn "ipv6" node = some "4464" ∧
        ¬ MtusKept jumboLink.mtu node := by
  refine ⟨Prod.ext (by decide) rfl, rfl, interfaceNode (jumboLoaded.ifHash.getD 1 eth0), ?_⟩
  have hipv4 : mtuLeafIn "ipv4" (interfaceNode (jumboLoaded.ifHash.getD 1 eth0)) = some "4464" := by
    decide
  refine ⟨List.mem_map_of_mem (List.mem_cons_of_mem _ List.mem_cons_self), by decide, hipv4,
    by decide, fun hkept => ?_⟩
  have htext := (hkept.ipv4 _ hipv4).1
  exact absurd htext (by decide)

end SysrepoInterfaces.Interfaces
