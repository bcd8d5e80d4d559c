import Mathlib.Data.List.TakeWhile
import SysrepoInterfaces.Interfaces.Store

/-!
# SysrepoInterfaces.Interfaces.StoreItems

Storing a hash item by item: each link and each address is one request, until
an address cannot be parsed.  What is asked is that every request is the
item's own, whatever was stored before it.
-/

namespace SysrepoInterfaces.Interfaces

open CProg

/-! ## items -/

/-- What a round of one of the three loops stores. -/
inductive StoreItem where
  | link (i : Interface)
  | ipv4 (name : String) (address : Ipv4Address)
  | ipv6 (name : String) (address : Ipv6Address)

def Interface.storeItems (i : Interface) : List StoreItem :=
  .link i :: (i.ipv4.address.map (.ipv4 i.name) ++ i.ipv6.address.map (.ipv6 i.name))

/-- The items of a hash, in the order they are stored. -/
def storeItems (ifHash : InterfaceHash) : List StoreItem := ifHash.flatMap Interface.storeItems

def storeItem (env : StoreEnv) : StoreItem → StoreM Unit
  | .link i => storeLink env i
  | .ipv4 name address => storeIpv4Address env name address
  | .ipv6 name address => storeIpv6Address env name address

theorem storeInterface_eq (env : StoreEnv) (i : Interface) :
    storeInterface env i = forM i.storeItems (storeItem env) := by
  have hipv4 : forM (i.ipv4.address.map (StoreItem.ipv4 i.name)) (storeItem env) =
      forM i.ipv4.address (storeIpv4Address env i.name) := List.forM_map ..
  have hipv6 : forM (i.ipv6.address.map (StoreItem.ipv6 i.name)) (storeItem env) =
      forM i.ipv6.address (storeIpv6Address env i.name) := List.forM_map ..
  rw [Interface.storeItems, List.forM_cons, List.forM_append, hipv4, hipv6]
  rfl

/-- The nested loops are one loop over the items. -/
theorem forM_storeInterface (env : StoreEnv) (ifHash : InterfaceHash) :
    forM ifHash (storeInterface env) = forM (storeItems ifHash) (storeItem env) := by
  induction ifHash with
  | nil => rfl
  | cons i ifHash ih =>
      rw [storeItems, List.flatMap_cons, List.forM_cons, List.forM_append, storeInterface_eq, ih]
      rfl

/-- The request for an item, with the variables as an earlier item left them. -/
def storeRequest (env : StoreEnv) (s : StoreState) : StoreItem → Option StoreRequest
  | .link i => some (.linkAdd (storeNewLink i (storeTypeLibnl i.type s.ifTypeLibnl)))
  | .ipv4 name address => (env.nlAddrParse AF_INET address.ip).map fun localAddr => .addrAdd {
      ifindex := env.ifindex name
      localAddr := { localAddr with
        prefixLen := (storePrefixLength env address.subnet s.prefixLength).toNat } }
  | .ipv6 name address => (env.nlAddrParse AF_INET6 address.ip).map fun localAddr => .addrAdd {
      ifindex := env.ifindex name
      localAddr := { localAddr with prefixLen := address.prefixLength.toNat } }

/-- Whether the address of an item is one. -/
def StoreItem.parses (env : StoreEnv) : StoreItem → Bool
  | .link _ => true
  | .ipv4 _ address => (env.nlAddrParse AF_INET address.ip).isSome
  | .ipv6 _ address => (env.nlAddrParse AF_INET6 address.ip).isSome

theorem isSome_storeRequest (env : StoreEnv) (s : StoreState) (item : StoreItem) :
    (storeRequest env s item).isSome = item.parses env := by
  cases item <;> simp [storeRequest, StoreItem.parses]

/-- The items before the first whose address is none. -/
def reachedItems (env : StoreEnv) (items : List StoreItem) : List StoreItem :=
  items.takeWhile fun item => item.parses env

/-! ## items that can be stored -/

/-- The prefix length a subnet denotes, if any. -/
def Ipv4AddressSubnet.Denotes : Ipv4AddressSubnet → Nat → Prop
  | .none, _ => False
  | .prefixLength length, k => k = length.toNat
  | .netmask mask, k => DenotesMask mask k

/-- A link of a supported type, or an address with a prefix length. -/
def StoreItem.Usable : StoreItem → Prop
  | .link i => (interfacesInterfaceTypeLy2nl i.type).isSome
  | .ipv4 _ address => ∃ k, address.subnet.Denotes k
  | .ipv6 _ _ => True

theorem storePrefixLength_of_denotes {subnet : Ipv4AddressSubnet} {k : Nat}
    (h : subnet.Denotes k) (env : StoreEnv) (prefixLength : UInt8) :
    (storePrefixLength env subnet prefixLength).toNat = k := by
  cases subnet with
  | none => exact absurd h id
  | prefixLength length => exact h.symm
  | netmask mask =>
      have hmask : DenotesMask mask k := h
      obtain ⟨o, _, hk, _⟩ := hmask
      have hsmall : k < 2 ^ 8 := by omega
      rw [storePrefixLength, interfaceIpv4AddressNetmask2prefix,
        netmask2prefix_of_denotesMask h env.littleEndian]
      exact UInt8.toNat_ofNat_of_lt' hsmall

/-- What is sent for such an item does not depend on what was stored before. -/
theorem storeRequest_of_usable {item : StoreItem} (h : item.Usable) (env : StoreEnv)
    (s : StoreState) : storeRequest env s item = storeRequest env {} item := by
  cases item with
  | link i =>
      obtain ⟨type, htype⟩ := Option.isSome_iff_exists.mp h
      simp only [storeRequest, storeTypeLibnl_eq, htype, Option.some_or]
  | ipv4 name address =>
      obtain ⟨k, hk⟩ := h
      simp only [storeRequest, storePrefixLength_of_denotes hk]
  | ipv6 name address => rfl

/-! ## runs -/

section Runs

variable {env : StoreEnv}

theorem run_storeChecked (hlib : env.Succeeds) (call : StoreCall) (s : StoreState) :
    (storeChecked env call).run s = (.ok (), { s with calls := s.calls + 1 }) := by
  have hcall := hlib s.calls call
  simp [storeChecked, Prog.run_bind, hcall]

theorem run_storeSend (hlib : env.Succeeds) (call : StoreCall) (request : StoreRequest)
    (s : StoreState) : (storeSend env call request).run s =
      (.ok (), { s with sent := s.sent ++ [request], calls := s.calls + 1 }) := by
  rw [storeSend, Prog.run_bind_ok (Prog.run_modify ..), run_storeChecked hlib]

theorem run_storeAddr (hlib : env.Succeeds) (name : String) (localAddr : NlAddr)
    (prefixLength : UInt8) (s : StoreState) :
    ∃ s', (storeAddr env name localAddr prefixLength).run s = (.ok (), s') ∧
      s'.sent = s.sent ++ [.addrAdd {
        ifindex := env.ifindex name
        localAddr := { localAddr with prefixLen := prefixLength.toNat } }] := by
  have hchecked := run_storeChecked hlib .rtnlAddrSetLocal s
  exact ⟨_, (Prog.run_bind_ok hchecked).trans (run_storeSend hlib ..), rfl⟩

/-- An item is sent, or its address is none and the call stops. -/
theorem run_storeItem (hlib : env.Succeeds) (item : StoreItem) (s : StoreState) :
    ∃ s', (storeItem env item).run s =
        (if item.parses env then .ok () else .error, s') ∧
      s'.sent = s.sent ++ (storeRequest env s item).toList := by
  cases item with
  | link i =>
      refine ⟨{ s with
        ifTypeLibnl := storeTypeLibnl i.type s.ifTypeLibnl
        calls := s.calls + 5
        sent := s.sent ++ (storeRequest env s (.link i)).toList }, ?_, rfl⟩
      rw [storeItem, storeLink, Prog.run_bind_ok (run_storeChecked hlib ..),
        Prog.run_bind_ok (Prog.run_modify ..), Prog.run_bind_ok (run_storeChecked hlib ..),
        Prog.run_bind_ok (Prog.run_get _), Prog.run_bind_ok (run_storeSend hlib ..),
        Prog.run_bind_ok (run_storeChecked hlib ..), run_storeChecked hlib]
      rfl
  | ipv4 name address =>
      rw [storeItem, storeIpv4Address, StoreItem.parses, storeRequest]
      cases env.nlAddrParse AF_INET address.ip with
      | none => exact ⟨s, rfl, (List.append_nil _).symm⟩
      | some localAddr =>
          exact run_storeAddr hlib name localAddr
            (storePrefixLength env address.subnet s.prefixLength)
            { s with prefixLength := storePrefixLength env address.subnet s.prefixLength }
  | ipv6 name address =>
      rw [storeItem, storeIpv6Address, StoreItem.parses, storeRequest]
      cases env.nlAddrParse AF_INET6 address.ip with
      | none => exact ⟨s, rfl, (List.append_nil _).symm⟩
      | some localAddr => exact run_storeAddr hlib name localAddr address.prefixLength s

/-- The items that are reached are sent, one request each: their own where
they can be stored. -/
theorem run_storeItems (hlib : env.Succeeds) (items : List StoreItem) (s : StoreState) :
    ∃ requests s', (forM items (storeItem env)).run s =
        (if items.all fun item => item.parses env then .ok () else .error, s') ∧
      s'.sent = s.sent ++ requests ∧ requests.length = (reachedItems env items).length ∧
      ((∀ item ∈ reachedItems env items, item.Usable) →
        requests = (reachedItems env items).filterMap (storeRequest env {})) := by
  induction items generalizing s with
  | nil => exact ⟨[], s, rfl, (List.append_nil _).symm, rfl, fun _ => rfl⟩
  | cons item items ih =>
      obtain ⟨s₁, hrun, hsent⟩ := run_storeItem hlib item s
      have hsome := isSome_storeRequest env s item
      rw [List.forM_cons, reachedItems, List.all_cons, List.takeWhile_cons]
      cases hparses : item.parses env with
      | false =>
          rw [hparses] at hrun hsome
          rw [Option.isSome_eq_false_iff, Option.isNone_iff_eq_none] at hsome
          rw [hsome] at hsent
          exact ⟨[], s₁, Prog.run_bind_error hrun, hsent, rfl, fun _ => rfl⟩
      | true =>
          rw [hparses] at hrun hsome
          obtain ⟨request, hrequest⟩ := Option.isSome_iff_exists.mp hsome
          obtain ⟨requests, s', hrest, hrestSent, hlength, hown⟩ := ih s₁
          rw [← reachedItems, if_pos rfl]
          refine ⟨request :: requests, s', ?_, ?_, ?_, ?_⟩
          · rw [Prog.run_bind_ok hrun, hrest, Bool.true_and]
          · rw [hrestSent, hsent, hrequest]
            simp
          · rw [List.length_cons, hlength, List.length_cons]
          · intro husable
            have hitem := storeRequest_of_usable (husable item List.mem_cons_self) env s
            have hrest := hown fun item hitem => husable item (List.mem_cons_of_mem _ hitem)
            rw [List.filterMap_cons, ← hitem, hrequest, ← hrest]

end Runs

/-! ## what storing has to be -/

/-- Storing items one by one: a link has the type of its interface, an address
the prefix length of its subnet; an item that cannot be stored is left out or
ends the call with an error, as an address that is none does. -/
inductive Stores (env : StoreEnv) : List StoreItem → Int → List StoreRequest → Prop
  | done : Stores env [] 0 []
  | link {i : Interface} {type : String} {link : NewLink} {items : List StoreItem} {code : Int}
      {requests : List StoreRequest} (htype : interfacesInterfaceTypeLy2nl i.type = some type)
      (hname : link.name = i.name) (hlink : link.type = some type)
      (rest : Stores env items code requests) :
      Stores env (.link i :: items) code (.linkAdd link :: requests)
  | ipv4 {name : String} {address : Ipv4Address} {localAddr : NlAddr} {k : Nat}
      {items : List StoreItem} {code : Int} {requests : List StoreRequest}
      (hparse : env.nlAddrParse AF_INET address.ip = some localAddr)
      (hlength : address.subnet.Denotes k) (rest : Stores env items code requests) :
      Stores env (.ipv4 name address :: items) code (.addrAdd {
        ifindex := env.ifindex name
        localAddr := { localAddr with prefixLen := k } } :: requests)
  | ipv6 {name : String} {address : Ipv6Address} {localAddr : NlAddr}
      {items : List StoreItem} {code : Int} {requests : List StoreRequest}
      (hparse : env.nlAddrParse AF_INET6 address.ip = some localAddr)
      (rest : Stores env items code requests) :
      Stores env (.ipv6 name address :: items) code (.addrAdd {
        ifindex := env.ifindex name
        localAddr := { localAddr with prefixLen := address.prefixLength.toNat } } :: requests)
  | skip {name : String} {address : Ipv4Address} {items : List StoreItem} {code : Int}
      {requests : List StoreRequest} (hparse : (env.nlAddrParse AF_INET address.ip).isSome)
      (hno : ∀ k, ¬ address.subnet.Denotes k) (rest : Stores env items code requests) :
      Stores env (.ipv4 name address :: items) code requests
  | refuse {item : StoreItem} {items : List StoreItem} {code : Int} (hno : ¬ item.Usable)
      (hcode : code ≠ 0) : Stores env (item :: items) code []
  | unparsed {item : StoreItem} {items : List StoreItem} {code : Int}
      (hno : item.parses env = false) (hcode : code ≠ 0) : Stores env (item :: items) code []

section Stores

variable {env : StoreEnv} {items : List StoreItem}

theorem reachedItems_cons {item : StoreItem} (h : item.parses env = true)
    (items : List StoreItem) : reachedItems env (item :: items) = item :: reachedItems env items :=
  List.takeWhile_cons_of_pos h

theorem reachedItems_cons_of_false {item : StoreItem} (h : item.parses env = false)
    (items : List StoreItem) : reachedItems env (item :: items) = [] :=
  List.takeWhile_cons_of_neg (by simp [h])

/-- There are at most as many requests as items, and fewer when one of them
cannot be stored. -/
theorem length_le_of_stores {code : Int} {requests : List StoreRequest}
    (h : Stores env items code requests) :
    requests.length ≤ (reachedItems env items).length ∧
      (requests.length = (reachedItems env items).length →
        ∀ item ∈ reachedItems env items, item.Usable) := by
  induction h with
  | done => exact ⟨Nat.le_refl 0, fun _ _ h => absurd h List.not_mem_nil⟩
  | link htype _ _ _ ih =>
      have husable : StoreItem.Usable (.link _) := Option.isSome_iff_exists.mpr ⟨_, htype⟩
      rw [reachedItems_cons rfl]
      simpa [husable] using ih
  | @ipv4 name address _ _ _ _ _ hparse hlength _ ih =>
      have hparses : StoreItem.parses env (.ipv4 name address) = true :=
        Option.isSome_iff_exists.mpr ⟨_, hparse⟩
      have husable : StoreItem.Usable (.ipv4 name address) := ⟨_, hlength⟩
      rw [reachedItems_cons hparses]
      simpa [husable] using ih
  | @ipv6 name address _ _ _ _ hparse _ ih =>
      have hparses : StoreItem.parses env (.ipv6 name address) = true :=
        Option.isSome_iff_exists.mpr ⟨_, hparse⟩
      have husable : StoreItem.Usable (.ipv6 name address) := trivial
      rw [reachedItems_cons hparses]
      simpa [husable] using ih
  | skip hparse _ _ ih =>
      rw [reachedItems_cons (by exact hparse), List.length_cons]
      omega
  | @refuse item items code hno hcode =>
      cases hparses : item.parses env with
      | true =>
          rw [reachedItems_cons hparses, List.length_cons, List.length_nil]
          omega
      | false =>
          rw [reachedItems_cons_of_false hparses]
          exact ⟨Nat.le_refl 0, fun _ _ h => absurd h List.not_mem_nil⟩
  | unparsed hno _ =>
      rw [reachedItems_cons_of_false hno]
      exact ⟨Nat.le_refl 0, fun _ _ h => absurd h List.not_mem_nil⟩

/-- The requests for items that can all be stored are such. -/
theorem stores_of_usable (husable : ∀ item ∈ reachedItems env items, item.Usable) :
    Stores env items (if items.all fun item => item.parses env then 0 else -1)
      ((reachedItems env items).filterMap (storeRequest env {})) := by
  induction items with
  | nil => exact .done
  | cons item items ih =>
      cases hparses : item.parses env with
      | false =>
          rw [reachedItems_cons_of_false hparses, List.all_cons, hparses]
          exact .unparsed hparses (by simp)
      | true =>
          rw [reachedItems_cons hparses] at husable ⊢
          have hitem := husable item List.mem_cons_self
          have hrest := ih fun item hitem => husable item (List.mem_cons_of_mem _ hitem)
          rw [List.all_cons, hparses, Bool.true_and]
          cases item with
          | link i =>
              obtain ⟨type, htype⟩ := Option.isSome_iff_exists.mp hitem
              have hlink : (storeNewLink i (storeTypeLibnl i.type none)).type = some type := by
                rw [storeNewLink, storeTypeLibnl_eq, htype, Option.some_or]
              exact .link htype rfl hlink hrest
          | ipv4 name address =>
              obtain ⟨localAddr, hparse⟩ := Option.isSome_iff_exists.mp hparses
              obtain ⟨k, hlength⟩ := hitem
              have hrequest : storeRequest env {} (.ipv4 name address) = some (.addrAdd {
                  ifindex := env.ifindex name
                  localAddr := { localAddr with prefixLen := k } }) := by
                simp only [storeRequest, hparse, Option.map_some,
                  storePrefixLength_of_denotes hlength]
              rw [List.filterMap_cons_some hrequest]
              exact .ipv4 hparse hlength hrest
          | ipv6 name address =>
              obtain ⟨localAddr, hparse⟩ := Option.isSome_iff_exists.mp hparses
              have hrequest : storeRequest env {} (.ipv6 name address) = some (.addrAdd {
                  ifindex := env.ifindex name
                  localAddr := { localAddr with prefixLen := address.prefixLength.toNat } }) := by
                simp only [storeRequest, hparse, Option.map_some]
              rw [List.filterMap_cons_some hrequest]
              exact .ipv6 hparse hrest

end Stores

/-! ## one interface after the other -/

/-- How a call ends, and what it sends. -/
def storeOutcome (env : StoreEnv) (ifHash : InterfaceHash) : Exit Int × List StoreRequest :=
  (((interfacesStoreInterface env ifHash).run {}).1,
    ((interfacesStoreInterface env ifHash).run {}).2.sent)

/-- Storing one hash and then another sends what each of them alone sends, the
second only after the end of the first, and every request is the item's own. -/
structure StoredOneByOne (env : StoreEnv) (h₁ h₂ : InterfaceHash) : Prop where
  sequence : (storeOutcome env (h₁ ++ h₂)).2 = (storeOutcome env h₁).2 ++
    if (storeOutcome env h₁).1 = .ok 0 then (storeOutcome env h₂).2 else []
  own : ∃ code, (storeOutcome env (h₁ ++ h₂)).1 = .ok code ∧
    Stores env (storeItems (h₁ ++ h₂)) code (storeOutcome env (h₁ ++ h₂)).2

section Outcome

variable {env : StoreEnv}

theorem storeOutcome_spec (hlib : env.Succeeds) (ifHash : InterfaceHash) :
    ∃ requests, storeOutcome env ifHash =
        (.ok (if (storeItems ifHash).all fun item => item.parses env then 0 else -1), requests) ∧
      requests.length = (reachedItems env (storeItems ifHash)).length ∧
      ((∀ item ∈ reachedItems env (storeItems ifHash), item.Usable) →
        requests = (reachedItems env (storeItems ifHash)).filterMap (storeRequest env {})) := by
  obtain ⟨requests, s', hrun, hsent, hlength, hown⟩ := run_storeItems hlib (storeItems ifHash)
    { ifTypeLibnl := none, prefixLength := env.stackByte, calls := 3 }
  refine ⟨requests, ?_, hlength, hown⟩
  have hcall : (interfacesStoreInterface env ifHash).run {} =
      (.ok (if (storeItems ifHash).all fun item => item.parses env then 0 else -1), s') := by
    rw [interfacesStoreInterface, forM_storeInterface, Prog.run_exitCode,
      Prog.run_bind_ok (Prog.run_modify ..), Prog.run_bind_ok (run_storeChecked hlib ..),
      Prog.run_bind_ok (run_storeChecked hlib ..), Prog.run_bind_ok (run_storeChecked hlib ..),
        hrun]
    cases (storeItems ifHash).all fun item => item.parses env <;> rfl
  rw [storeOutcome, hcall, hsent]
  rfl

theorem reachedItems_append (items rest : List StoreItem) : reachedItems env (items ++ rest) =
    if items.all fun item => item.parses env then items ++ reachedItems env rest
    else reachedItems env items := by
  induction items with
  | nil => rfl
  | cons item items ih =>
      cases hparses : item.parses env with
      | false =>
          rw [List.cons_append, reachedItems_cons_of_false hparses, List.all_cons, hparses,
            reachedItems_cons_of_false hparses]
          rfl
      | true =>
          rw [List.cons_append, reachedItems_cons hparses, List.all_cons, hparses, Bool.true_and,
            ih,
            reachedItems_cons hparses]
          split <;> rfl

/-- With items that can all be stored, the second hash follows the first. -/
theorem storeOutcome_append (hlib : env.Succeeds) {h₁ h₂ : InterfaceHash}
    (husable : ∀ item ∈ reachedItems env (storeItems (h₁ ++ h₂)), item.Usable) :
    (storeOutcome env (h₁ ++ h₂)).2 = (storeOutcome env h₁).2 ++
      if (storeOutcome env h₁).1 = .ok 0 then (storeOutcome env h₂).2 else [] := by
  obtain ⟨requests, houtcome, -, hown⟩ := storeOutcome_spec hlib (h₁ ++ h₂)
  obtain ⟨requests₁, houtcome₁, -, hown₁⟩ := storeOutcome_spec hlib h₁
  obtain ⟨requests₂, houtcome₂, -, hown₂⟩ := storeOutcome_spec hlib h₂
  have hrequests := hown husable
  rw [houtcome, houtcome₁, houtcome₂]
  have hitems : storeItems (h₁ ++ h₂) = storeItems h₁ ++ storeItems h₂ := List.flatMap_append
  rw [hitems, reachedItems_append] at husable hrequests
  cases hall : (storeItems h₁).all fun item => item.parses env with
  | true =>
      have hself : reachedItems env (storeItems h₁) = storeItems h₁ :=
        List.takeWhile_eq_self_iff.mpr (List.all_eq_true.mp hall)
      rw [hall, if_pos rfl] at husable hrequests
      rw [hself] at hown₁
      simp only [List.mem_append] at husable
      rw [hrequests, hown₁ fun item hitem => husable item (.inl hitem),
        hown₂ fun item hitem => husable item (.inr hitem)]
      simp
  | false =>
      rw [hall, if_neg Bool.false_ne_true] at husable hrequests
      rw [hrequests, hown₁ husable]
      simp

/-- Interfaces are stored one by one exactly when every item that is reached
can be stored. -/
theorem storedOneByOne_iff (hlib : env.Succeeds) (h₁ h₂ : InterfaceHash) :
    StoredOneByOne env h₁ h₂ ↔
      ∀ item ∈ reachedItems env (storeItems (h₁ ++ h₂)), item.Usable := by
  obtain ⟨requests, houtcome, hlength, hown⟩ := storeOutcome_spec hlib (h₁ ++ h₂)
  constructor
  · intro h
    obtain ⟨code, -, hstores⟩ := h.own
    rw [houtcome] at hstores
    exact (length_le_of_stores hstores).2 hlength
  · intro husable
    refine ⟨storeOutcome_append hlib husable, _, congrArg Prod.fst houtcome, ?_⟩
    rw [houtcome]
    show Stores env _ _ requests
    rw [hown husable]
    exact stores_of_usable husable

end Outcome

/-- A world in which every call succeeds. -/
def sampleStoreEnv : StoreEnv where
  nlAddrParse _ text := (sampleAddrs.find? fun a => a.1 = text).map Prod.snd
  littleEndian := true
  ifindex _ := 2
  stackByte := 0
  lib _ _ := true

def ethernet0 : Interface where
  name := "eth0"
  type := "iana-if-type:ethernetCsmacd"
  ipv4 := { address := [{ ip := "192.0.2.1", subnet := .prefixLength 24 }] }

def loopback0 : Interface where
  name := "vcan0"
  type := "iana-if-type:softwareLoopback"

theorem storedOneByOne_iff_ethernet0 :
    StoredOneByOne sampleStoreEnv [ethernet0] [loopback0] := by
  refine (storedOneByOne_iff (fun _ _ => rfl) [ethernet0] [loopback0]).mpr ?_
  have hreached : reachedItems sampleStoreEnv (storeItems ([ethernet0] ++ [loopback0])) =
      storeItems [ethernet0, loopback0] := rfl
  have hitems : storeItems [ethernet0, loopback0] = [.link ethernet0,
      .ipv4 "eth0" { ip := "192.0.2.1", subnet := .prefixLength 24 }, .link loopback0] := rfl
  have hethernet : (StoreItem.link ethernet0).Usable := Option.isSome_iff_exists.mpr ⟨"veth", rfl⟩
  have hloopback : (StoreItem.link loopback0).Usable := Option.isSome_iff_exists.mpr ⟨"vcan", rfl⟩
  rw [hreached, hitems]
  simp only [List.forall_mem_cons]
  exact ⟨hethernet, ⟨24, rfl⟩, hloopback, fun _ h => absurd h List.not_mem_nil⟩

/-- A type that is not supported. -/
def bridge0 : Interface where
  name := "br0"
  type := "iana-if-type:bridge"

/-- After an ethernet interface the bridge is added as one. -/
theorem bridge_stored_as_veth : ¬ StoredOneByOne sampleStoreEnv [ethernet0] [bridge0] := by
  intro h
  exact absurd h.sequence (by decide)

end SysrepoInterfaces.Interfaces
