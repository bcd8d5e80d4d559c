import Mathlib.Data.List.Induction
import SysrepoInterfaces.Interfaces.Kernel
import SysrepoInterfaces.Interfaces.Types
import SysrepoInterfaces.Lib.CProg

/-!
# SysrepoInterfaces.Interfaces.SubnetUnion

The `subnet` union of an IPv4 address (`data/interfaces/interface/ipv4/address.c`)
in memory: `prefix_length` lies over the first byte of the pointer `netmask`.
The setter of the netmask looks at the bytes of the pointer, the setter of the
prefix length at nothing, and the one that frees the element at the tag.
-/

namespace SysrepoInterfaces.Interfaces

open CProg

/-! ## memory -/

/-- The bytes of a pointer: the first one in memory, and the others. -/
structure Pointer where
  first : UInt8
  rest : Nat
deriving DecidableEq, Repr

def Pointer.null : Pointer := ⟨0, 0⟩

/-- `interfaces_interface_ipv4_address_subnet_t`. -/
inductive SubnetType where
  | none
  | prefixLength
  | netmask
deriving DecidableEq, Repr

/-- `struct interfaces_interface_ipv4_address` in an element. -/
structure Ipv4AddressElement where
  ip : Pointer := .null
  /-- the union, as the pointer it is read as -/
  subnet : Pointer := .null
  subnetType : SubnetType := .none
deriving DecidableEq, Repr

/-- An element and the strings around it. -/
structure ElementMemory where
  el : Option Ipv4AddressElement
  /-- the strings that are allocated -/
  strings : List (Pointer × String) := []
  /-- calls of `strdup` made -/
  strdups : Nat := 0
  /-- each time the union was taken for a string to be freed: the tag, and
  whether that string was still allocated -/
  netmaskFrees : List (SubnetType × Bool) := []
deriving DecidableEq, Repr

/-- Outcome and address of the n-th `strdup`.  It finds room where no string
is, and never in the first page of memory. -/
structure StrdupEnv where
  succeeds : Nat → Bool
  address : Nat → List Pointer → Pointer
  fresh : ∀ n allocated, address n allocated ∉ allocated
  high : ∀ n allocated, (address n allocated).rest ≠ 0

abbrev ElementM := Prog ElementMemory

/-- Read `(*el)->address`. -/
def address : ElementM Ipv4AddressElement := do
  let memory ← Prog.get
  match memory.el with
  | some el => return el
  | none => Prog.lift .crash

/-- Write to `(*el)->address`. -/
def setAddress (f : Ipv4AddressElement → Ipv4AddressElement) : ElementM Unit :=
  Prog.modify fun memory => { memory with el := memory.el.map f }

/-- `free`; what is not allocated cannot be freed. -/
def freeString (p : Pointer) : ElementM Unit := do
  let memory ← Prog.get
  if (Keyed.lookup Prod.fst p memory.strings).isSome then
    Prog.modify fun memory => { memory with
      strings := memory.strings.eraseP fun x => x.1 = p }
  else Prog.lift .crash

/-- `free((*el)->address.subnet.netmask)`. -/
def freeNetmask (el : Ipv4AddressElement) : ElementM Unit := do
  Prog.modify fun memory => { memory with
    netmaskFrees := memory.netmaskFrees ++
      [(el.subnetType, (Keyed.lookup Prod.fst el.subnet memory.strings).isSome)] }
  freeString el.subnet

/-- `strdup`, `NULL` without memory. -/
def strdup (env : StrdupEnv) (text : String) : ElementM Pointer := do
  let memory ← Prog.get
  Prog.modify fun memory => { memory with strdups := memory.strdups + 1 }
  if env.succeeds memory.strdups then do
    let p := env.address memory.strdups (memory.strings.map Prod.fst)
    Prog.modify fun memory => { memory with strings := memory.strings ++ [(p, text)] }
    return p
  else return .null

/-! ## the element -/

/-- `interfaces_interface_ipv4_address_element_new`. -/
def ipv4AddressElementNew : ElementMemory := { el := some {} }

/-- `interfaces_interface_ipv4_address_element_set_prefix_length`. -/
def ipv4AddressElementSetPrefixLength (prefixLength : UInt8) : ElementM Int := do
  let _ ← address
  setAddress fun el => { el with subnet := { el.subnet with first := prefixLength } }
  setAddress fun el => { el with subnetType := .prefixLength }
  return 0

/-- The first half of the setter of the netmask. -/
def releaseNetmask : ElementM Unit := do
  let el ← address
  if el.subnet ≠ .null then do
    freeNetmask el
    setAddress fun el => { el with subnetType := .none }

/-- The second half. -/
def storeNetmask (env : StrdupEnv) (netmask : Option String) : ElementM Int :=
  match netmask with
  | some text => do
      let p ← strdup env text
      setAddress fun el => { el with subnet := p }
      if p ≠ .null then do
        setAddress fun el => { el with subnetType := .netmask }
        return 0
      else do
        setAddress fun el => { el with subnetType := .none }
        return 1
  | none => return 0

/-- `interfaces_interface_ipv4_address_element_set_netmask`. -/
def ipv4AddressElementSetNetmask (env : StrdupEnv) (netmask : Option String) : ElementM Int := do
  releaseNetmask
  storeNetmask env netmask

/-- The address of an element that is freed. -/
def freeIp (el : Ipv4AddressElement) : ElementM Unit :=
  if el.ip ≠ .null then freeString el.ip else return ()

/-- Its netmask, if the tag says that there is one. -/
def freeSubnet (el : Ipv4AddressElement) : ElementM Unit :=
  if el.subnetType ≠ .none then
    if el.subnetType = .netmask ∧ el.subnet ≠ .null then freeNetmask el else return ()
  else return ()

/-- `interfaces_interface_ipv4_address_element_free`. -/
def ipv4AddressElementFree : ElementM Unit := do
  let memory ← Prog.get
  match memory.el with
  | none => return ()
  | some el => do
      freeIp el
      freeSubnet el
      Prog.modify fun memory => { memory with el := none }

/-! ## calls of the setters -/

/-- A call of a setter. -/
inductive SubnetCall where
  | setPrefixLength (prefixLength : UInt8)
  | setNetmask (netmask : Option String)
deriving DecidableEq, Repr

def SubnetCall.run (env : StrdupEnv) : SubnetCall → ElementM Int
  | .setPrefixLength prefixLength => ipv4AddressElementSetPrefixLength prefixLength
  | .setNetmask netmask => ipv4AddressElementSetNetmask env netmask

/-- The subnet a call asks for. -/
def SubnetCall.asked : SubnetCall → Ipv4AddressSubnet
  | .setPrefixLength prefixLength => .prefixLength prefixLength
  | .setNetmask (some text) => .netmask text
  | .setNetmask none => .none

/-- The calls, one after the other. -/
def setSubnet (env : StrdupEnv) (calls : List SubnetCall) : ElementM Unit :=
  forM calls fun call => do
    let _ ← call.run env
    return ()

/-- The subnet an element has by its tag; a netmask that is not allocated is
none. -/
def ElementMemory.subnet (memory : ElementMemory) : Option Ipv4AddressSubnet :=
  memory.el.bind fun el =>
    match el.subnetType with
    | .none => some .none
    | .prefixLength => some (.prefixLength el.subnet.first)
    | .netmask => (Keyed.lookup Prod.fst el.subnet memory.strings).map fun x => .netmask x.2

/-! ## what is asked of them -/

/-- A setter that is given a string. -/
def SubnetCall.givesString : SubnetCall → Bool
  | .setPrefixLength _ => false
  | .setNetmask netmask => netmask.isSome

/-- The subnet the last call asked for; a new element has none. -/
def lastAsked (calls : List SubnetCall) : Ipv4AddressSubnet :=
  (calls.getLast?.map SubnetCall.asked).getD .none

/-- The union of a new element is read under the tag it was written with while
the setters are called and the element is freed: the calls return, each leaves
what it asked for, and a netmask is freed only under its tag, and only once. -/
structure SubnetReadByTag (env : StrdupEnv) (calls : List SubnetCall) : Prop where
  asked : ∀ before call, before ++ [call] <+: calls → ∃ memory,
    (setSubnet env (before ++ [call])).run ipv4AddressElementNew = (.ok (), memory) ∧
      memory.subnet = some call.asked
  ends : ((setSubnet env calls >>= fun _ => ipv4AddressElementFree).run
    ipv4AddressElementNew).1 = .ok ()
  frees : ∀ x ∈ ((setSubnet env calls >>= fun _ => ipv4AddressElementFree).run
    ipv4AddressElementNew).2.netmaskFrees, x = (.netmask, true)

/-- A call the setters are made for: a netmask is set or removed directly after
a string was set, or before any string was and not directly after a prefix
length; a string may also directly follow the prefix length 0.  There has to
be memory for it. -/
def SubnetCall.inOrder (env : StrdupEnv) (before : List SubnetCall) : SubnetCall → Bool
  | .setPrefixLength _ => true
  | .setNetmask netmask =>
      (netmask.isNone || env.succeeds (before.countP givesString)) &&
        match lastAsked before with
        | .netmask _ => true
        | .prefixLength n => n = 0 && netmask.isSome && !before.any givesString
        | .none => !before.any givesString

/-! ## the halves of the setter -/

section Runs

variable {env : StrdupEnv} {memory : ElementMemory} {el : Ipv4AddressElement}

theorem run_address (hel : memory.el = some el) : address.run memory = (.ok el, memory) := by
  rw [address, Prog.run_bind_ok (Prog.run_get memory), hel]
  rfl

theorem run_setPrefixLength (hel : memory.el = some el) (n : UInt8) :
    (ipv4AddressElementSetPrefixLength n).run memory = (.ok 0, { memory with
      el := some { el with
        subnet := { el.subnet with first := n }, subnetType := .prefixLength } }) := by
  rw [ipv4AddressElementSetPrefixLength, Prog.run_bind_ok (run_address hel)]
  simp [setAddress, Prog.run_bind, hel, -bind_pure_comp]

/-- `NULL` is not freed. -/
theorem run_releaseNetmask_null (hel : memory.el = some el) (hnull : el.subnet = .null) :
    releaseNetmask.run memory = (.ok (), memory) := by
  rw [releaseNetmask, Prog.run_bind_ok (run_address hel), if_neg (by simp [hnull])]
  rfl

/-- Anything else is taken for a string. -/
theorem netmaskFrees_releaseNetmask (hel : memory.el = some el) (hnull : el.subnet ≠ .null) :
    (releaseNetmask.run memory).2.netmaskFrees = memory.netmaskFrees ++
      [(el.subnetType, (Keyed.lookup Prod.fst el.subnet memory.strings).isSome)] := by
  rw [releaseNetmask, Prog.run_bind_ok (run_address hel), if_pos hnull]
  simp only [freeNetmask, freeString, Prog.run_bind, Prog.run_modify, Prog.run_get]
  split_ifs <;> simp [setAddress]

theorem run_releaseNetmask (hel : memory.el = some el) (hnull : el.subnet ≠ .null)
    (hallocated : (Keyed.lookup Prod.fst el.subnet memory.strings).isSome) :
    releaseNetmask.run memory = (.ok (), { memory with
      el := some { el with subnetType := .none }
      strings := memory.strings.eraseP fun x => x.1 = el.subnet
      netmaskFrees := memory.netmaskFrees ++ [(el.subnetType, true)] }) := by
  rw [releaseNetmask, Prog.run_bind_ok (run_address hel), if_pos hnull]
  simp [freeNetmask, freeString, Prog.run_bind, setAddress, hallocated, hel]

theorem run_storeNetmask (hel : memory.el = some el) (text : String)
    (hsucceeds : env.succeeds memory.strdups = true) :
    (storeNetmask env (some text)).run memory = (.ok 0, { memory with
      el := some { el with
        subnet := env.address memory.strdups (memory.strings.map Prod.fst), subnetType := .netmask }
      strings := memory.strings ++
        [(env.address memory.strdups (memory.strings.map Prod.fst), text)]
      strdups := memory.strdups + 1 }) := by
  have hne : env.address memory.strdups (memory.strings.map Prod.fst) ≠ .null := by
    intro h
    exact env.high _ _ (congrArg Pointer.rest h)
  simp [storeNetmask, strdup, Prog.run_bind, setAddress, hsucceeds, hel, hne, -bind_pure_comp]

/-- Without memory there is no netmask. -/
theorem subnet_storeNetmask_fails (hel : memory.el = some el) (text : String)
    (hfails : env.succeeds memory.strdups = false) :
    ((storeNetmask env (some text)).run memory).2.subnet = some .none := by
  simp [storeNetmask, strdup, Prog.run_bind, setAddress, hfails, hel, ElementMemory.subnet,
    -bind_pure_comp]

end Runs

/-! ## what the calls leave -/

/-- The memory after calls in order: the element reads as the last call asked,
and the bytes a prefix length does not reach are those of a string that was
set, if any was. -/
structure Holds (before : List SubnetCall) (memory : ElementMemory) : Prop where
  strdups : memory.strdups = before.countP SubnetCall.givesString
  frees : ∀ x ∈ memory.netmaskFrees, x = (.netmask, true)
  el : ∃ el, memory.el = some el ∧ el.ip = .null ∧
    (el.subnet.rest = 0 ↔ before.any SubnetCall.givesString = false) ∧
    (el.subnetType = .none → el.subnet.rest = 0 → el.subnet.first = 0)
  subnet : memory.subnet = some (lastAsked before)

theorem holds_new : Holds [] ipv4AddressElementNew where
  strdups := rfl
  frees := by simp [ipv4AddressElementNew]
  el := ⟨{}, rfl, rfl, by decide, fun _ _ => rfl⟩
  subnet := rfl

@[simp] theorem lastAsked_concat (before : List SubnetCall) (call : SubnetCall) :
    lastAsked (before ++ [call]) = call.asked := by
  simp [lastAsked]

section Holds

variable {env : StrdupEnv} {before : List SubnetCall} {memory : ElementMemory}
  {el : Ipv4AddressElement}

theorem pointer_eq_null {p : Pointer} (hfirst : p.first = 0) (hrest : p.rest = 0) : p = .null := by
  obtain ⟨first, rest⟩ := p
  rw [show first = 0 from hfirst, show rest = 0 from hrest]
  rfl

/-- A netmask is what a string asks for. -/
theorem any_of_lastAsked {text : String} (h : lastAsked before = .netmask text) :
    before.any SubnetCall.givesString = true := by
  rw [lastAsked] at h
  cases hlast : before.getLast? with
  | none =>
      rw [hlast] at h
      cases h
  | some call =>
      rw [hlast, Option.map_some, Option.getD_some] at h
      refine List.any_eq_true.mpr ⟨call, List.mem_of_getLast? hlast, ?_⟩
      cases call with
      | setPrefixLength n => cases h
      | setNetmask netmask =>
          cases netmask with
          | none => cases h
          | some text => rfl

/-- The tag tells what was asked for last. -/
theorem subnetType_of_lastAsked (hel : memory.el = some el)
    (hsubnet : memory.subnet = some (lastAsked before)) :
    match lastAsked before with
    | .none => el.subnetType = .none
    | .prefixLength n => el.subnetType = .prefixLength ∧ el.subnet.first = n
    | .netmask _ => el.subnetType = .netmask ∧
        (Keyed.lookup Prod.fst el.subnet memory.strings).isSome := by
  rw [ElementMemory.subnet, hel, Option.bind_some] at hsubnet
  cases htype : el.subnetType with
  | none =>
      rw [htype] at hsubnet
      rw [← Option.some.inj hsubnet]
  | prefixLength =>
      rw [htype] at hsubnet
      rw [← Option.some.inj hsubnet]
      exact ⟨rfl, rfl⟩
  | netmask =>
      simp only [htype] at hsubnet
      obtain ⟨x, hlookup, hx⟩ := Option.map_eq_some_iff.mp hsubnet
      rw [← hx, hlookup]
      exact ⟨rfl, rfl⟩

theorem holds_setPrefixLength (h : Holds before memory) (n : UInt8) :
    ∃ memory', (ipv4AddressElementSetPrefixLength n).run memory = (.ok 0, memory') ∧
      Holds (before ++ [.setPrefixLength n]) memory' := by
  obtain ⟨el, hel, hip, hrest, -⟩ := h.el
  refine ⟨_, run_setPrefixLength hel n, ?_, h.frees, ?_, ?_⟩
  · rw [List.countP_append, h.strdups]
    rfl
  · refine ⟨_, rfl, hip, ?_, by simp⟩
    simpa [SubnetCall.givesString] using hrest
  · rw [lastAsked_concat]
    rfl

/-- After the first half of the setter in order there is no string left, and
the rest is as before. -/
theorem releaseNetmask_of_inOrder (h : Holds before memory) (netmask : Option String)
    (horder : (SubnetCall.setNetmask netmask).inOrder env before = true) :
    ∃ memory' el', releaseNetmask.run memory = (.ok (), memory') ∧ memory'.el = some el' ∧
      el'.ip = .null ∧ memory'.strdups = memory.strdups ∧
      (∀ x ∈ memory'.netmaskFrees, x = (.netmask, true)) ∧
      (netmask = none → el'.subnetType = .none ∧
        (el'.subnet.rest = 0 ↔ before.any SubnetCall.givesString = false) ∧
        (el'.subnet.rest = 0 → el'.subnet.first = 0)) := by
  obtain ⟨el, hel, hip, hrest, hfirst⟩ := h.el
  have htype := subnetType_of_lastAsked hel h.subnet
  rw [SubnetCall.inOrder, Bool.and_eq_true] at horder
  have horder := horder.2
  cases hlast : lastAsked before with
  | none =>
      rw [hlast] at horder htype
      have hany : before.any SubnetCall.givesString = false := by simpa using horder
      have hzero : el.subnet.rest = 0 := hrest.mpr hany
      refine ⟨memory, el, run_releaseNetmask_null hel ?_, hel, hip, rfl, h.frees, fun _ => ?_⟩
      · exact pointer_eq_null (hfirst htype hzero) hzero
      · exact ⟨htype, hrest, hfirst htype⟩
  | prefixLength n =>
      rw [hlast] at horder htype
      simp only [Bool.and_eq_true, decide_eq_true_eq, Bool.not_eq_true'] at horder
      obtain ⟨⟨rfl, hsome⟩, hany⟩ := horder
      refine ⟨memory, el, run_releaseNetmask_null hel ?_, hel, hip, rfl, h.frees, fun hnone => ?_⟩
      · exact pointer_eq_null htype.2 (hrest.mpr hany)
      · rw [hnone] at hsome
        cases hsome
  | netmask text =>
      rw [hlast] at htype
      have hrest' : el.subnet.rest ≠ 0 := by
        rw [Ne, hrest, any_of_lastAsked hlast]
        simp
      have hnull : el.subnet ≠ .null := fun hnull => hrest' (congrArg Pointer.rest hnull)
      refine ⟨_, _, run_releaseNetmask hel hnull htype.2, rfl, hip, rfl, ?_, fun _ => ?_⟩
      · intro x hx
        rw [htype.1] at hx
        rcases List.mem_append.mp hx with hx | hx
        · exact h.frees x hx
        · exact List.mem_singleton.mp hx
      · exact ⟨rfl, hrest, fun hzero => absurd hzero hrest'⟩

theorem holds_setNetmask (h : Holds before memory) (netmask : Option String)
    (horder : (SubnetCall.setNetmask netmask).inOrder env before = true) :
    ∃ error memory', (ipv4AddressElementSetNetmask env netmask).run memory = (.ok error, memory') ∧
      Holds (before ++ [.setNetmask netmask]) memory' := by
  obtain ⟨memory₁, el, hrun, hel, hip, hstrdups, hfrees, hnone⟩ :=
    releaseNetmask_of_inOrder h netmask horder
  rw [ipv4AddressElementSetNetmask, Prog.run_bind_ok hrun]
  cases netmask with
  | none =>
      obtain ⟨htype, hrest, hfirst⟩ := hnone rfl
      refine ⟨0, memory₁, rfl, ?_, hfrees, ⟨el, hel, hip, ?_, fun _ => hfirst⟩, ?_⟩
      · rw [hstrdups, h.strdups, List.countP_append]
        rfl
      · simpa [SubnetCall.givesString] using hrest
      · rw [lastAsked_concat, ElementMemory.subnet, hel, Option.bind_some, htype]
        rfl
  | some text =>
      have hsucceeds : env.succeeds memory₁.strdups = true := by
        rw [SubnetCall.inOrder, Bool.and_eq_true] at horder
        simpa [hstrdups, h.strdups] using horder.1
      refine ⟨0, _, run_storeNetmask hel text hsucceeds, ?_, hfrees, ⟨_, rfl, hip, ?_, by simp⟩, ?_⟩
      · rw [List.countP_append, ← h.strdups, ← hstrdups]
        rfl
      · simpa [SubnetCall.givesString] using env.high _ _
      · have hfresh := Keyed.lookup_eq_none_iff.mpr
          (env.fresh memory₁.strdups (memory₁.strings.map Prod.fst))
        simp [ElementMemory.subnet, Keyed.lookup_append, hfresh, Keyed.lookup_cons,
          SubnetCall.asked]

/-- One call in order. -/
theorem holds_run (h : Holds before memory) {call : SubnetCall}
    (horder : call.inOrder env before = true) :
    ∃ error memory', (call.run env).run memory = (.ok error, memory') ∧
      Holds (before ++ [call]) memory' := by
  cases call with
  | setPrefixLength n => exact ⟨0, holds_setPrefixLength h n⟩
  | setNetmask netmask => exact holds_setNetmask h netmask horder

/-! ## calls out of order -/

/-- The frees that are on record stay there. -/
def KeepsFrees (memory memory' : ElementMemory) : Prop :=
  memory.netmaskFrees <+: memory'.netmaskFrees

instance : IsPreorder ElementMemory KeepsFrees where
  refl memory := List.prefix_refl memory.netmaskFrees
  trans _ _ _ h h' := List.IsPrefix.trans h h'

theorem keepsFrees_address : Prog.Within KeepsFrees address := by
  refine Prog.within_bind Prog.within_get fun memory => ?_
  cases memory.el with
  | none => exact Prog.within_lift _
  | some el => exact Prog.within_pure el

theorem keepsFrees_setAddress (f : Ipv4AddressElement → Ipv4AddressElement) :
    Prog.Within KeepsFrees (setAddress f) :=
  Prog.within_modify fun memory => List.prefix_refl memory.netmaskFrees

theorem keepsFrees_freeString (p : Pointer) : Prog.Within KeepsFrees (freeString p) := by
  refine Prog.within_bind Prog.within_get fun memory => ?_
  split
  · exact Prog.within_modify fun memory => List.prefix_refl memory.netmaskFrees
  · exact Prog.within_lift _

theorem keepsFrees_freeNetmask (el : Ipv4AddressElement) :
    Prog.Within KeepsFrees (freeNetmask el) :=
  Prog.within_bind (Prog.within_modify fun _ => List.prefix_append _ _)
    fun _ => keepsFrees_freeString _

theorem keepsFrees_strdup (env : StrdupEnv) (text : String) :
    Prog.Within KeepsFrees (strdup env text) := by
  refine Prog.within_bind Prog.within_get fun memory => ?_
  refine Prog.within_bind (Prog.within_modify fun memory => List.prefix_refl _) fun _ => ?_
  split
  · exact Prog.within_bind (Prog.within_modify fun memory => List.prefix_refl _)
      fun _ => Prog.within_pure _
  · exact Prog.within_pure _

theorem keepsFrees_storeNetmask (env : StrdupEnv) (netmask : Option String) :
    Prog.Within KeepsFrees (storeNetmask env netmask) := by
  cases netmask with
  | none => exact Prog.within_pure 0
  | some text =>
      refine Prog.within_bind (keepsFrees_strdup env text) fun p => ?_
      refine Prog.within_bind (keepsFrees_setAddress _) fun _ => ?_
      split <;> exact Prog.within_bind (keepsFrees_setAddress _) fun _ => Prog.within_pure _

theorem keepsFrees_run (env : StrdupEnv) (call : SubnetCall) :
    Prog.Within KeepsFrees (call.run env) := by
  cases call with
  | setPrefixLength n =>
      refine Prog.within_bind keepsFrees_address fun _ => ?_
      refine Prog.within_bind (keepsFrees_setAddress _) fun _ => ?_
      exact Prog.within_bind (keepsFrees_setAddress _) fun _ => Prog.within_pure _
  | setNetmask netmask =>
      refine Prog.within_bind ?_ fun _ => keepsFrees_storeNetmask env netmask
      refine Prog.within_bind keepsFrees_address fun el => ?_
      split
      · exact Prog.within_bind (keepsFrees_freeNetmask el) fun _ => keepsFrees_setAddress _
      · exact Prog.within_pure _

theorem keepsFrees_free : Prog.Within KeepsFrees ipv4AddressElementFree := by
  refine Prog.within_bind Prog.within_get fun memory => ?_
  cases memory.el with
  | none => exact Prog.within_pure ()
  | some el =>
      have hip : Prog.Within KeepsFrees (freeIp el) := by
        rw [freeIp]
        split
        · exact keepsFrees_freeString _
        · exact Prog.within_pure ()
      have hsubnet : Prog.Within KeepsFrees (freeSubnet el) := by
        rw [freeSubnet]
        split_ifs
        · exact keepsFrees_freeNetmask el
        · exact Prog.within_pure ()
        · exact Prog.within_pure ()
      refine Prog.within_bind hip fun _ => Prog.within_bind hsubnet fun _ => ?_
      exact Prog.within_modify fun memory => List.prefix_refl memory.netmaskFrees

/-- What is freed under another tag is on record. -/
theorem bad_free {netmask : Option String} (hel : memory.el = some el) (hnull : el.subnet ≠ .null)
    (htype : el.subnetType ≠ .netmask) :
    ∃ x ∈ ((releaseNetmask >>= fun _ => storeNetmask env netmask).run memory).2.netmaskFrees,
      x ≠ (.netmask, true) := by
  have hkeeps : KeepsFrees _ _ :=
    Prog.within_after (p := releaseNetmask) (fun _ => keepsFrees_storeNetmask env netmask) memory
  rw [KeepsFrees, netmaskFrees_releaseNetmask hel hnull] at hkeeps
  refine ⟨_, hkeeps.mem (List.mem_append_right _ (List.mem_singleton_self _)), ?_⟩
  simp [htype]

/-- A call out of order frees what is no netmask, or one that was freed before,
or leaves something else than it asked for. -/
theorem run_out_of_order (h : Holds before memory) {call : SubnetCall}
    (horder : call.inOrder env before = false) :
    (∃ x ∈ ((call.run env).run memory).2.netmaskFrees, x ≠ (.netmask, true)) ∨
      ((call.run env).run memory).2.subnet ≠ some call.asked := by
  cases call with
  | setPrefixLength n => cases horder
  | setNetmask netmask =>
      obtain ⟨el, hel, hip, hrest, hfirst⟩ := h.el
      have htype := subnetType_of_lastAsked hel h.subnet
      rw [SubnetCall.run, ipv4AddressElementSetNetmask]
      by_cases hnull : el.subnet = .null
      · -- nothing is freed
        have hany := hrest.mp (congrArg Pointer.rest hnull)
        rw [Prog.run_bind_ok (run_releaseNetmask_null hel hnull)]
        refine .inr ?_
        rw [SubnetCall.inOrder, hany] at horder
        cases netmask with
        | none =>
            cases hlast : lastAsked before with
            | none => simp [hlast] at horder
            | prefixLength n => simp [storeNetmask, h.subnet, hlast, SubnetCall.asked]
            | netmask text => simp [hlast] at horder
        | some text =>
            have hfails : env.succeeds memory.strdups = false := by
              rw [h.strdups]
              cases hlast : lastAsked before with
              | none => simpa [hlast] using horder
              | prefixLength n =>
                  rw [hlast] at htype
                  have hn : n = 0 := htype.2.symm.trans (congrArg Pointer.first hnull)
                  simpa [hlast, hn] using horder
              | netmask text => simpa [hlast] using horder
            rw [subnet_storeNetmask_fails hel text hfails]
            simp [SubnetCall.asked]
      · cases hlast : lastAsked before with
        | netmask text' =>
            rw [hlast] at htype
            rw [SubnetCall.inOrder, hlast, Bool.and_true] at horder
            cases netmask with
            | none => cases horder
            | some text =>
                have hfails : env.succeeds memory.strdups = false := by
                  rw [h.strdups]
                  simpa using horder
                rw [Prog.run_bind_ok (run_releaseNetmask hel hnull htype.2)]
                refine .inr (ne_of_eq_of_ne (subnet_storeNetmask_fails rfl text hfails) ?_)
                simp [SubnetCall.asked]
        | none =>
            rw [hlast] at htype
            exact .inl (bad_free hel hnull (by simp [show el.subnetType = .none from htype]))
        | prefixLength n =>
            rw [hlast] at htype
            exact .inl (bad_free hel hnull (by simp [htype.1]))

/-! ## runs -/

theorem setSubnet_append (env : StrdupEnv) (calls calls' : List SubnetCall) :
    setSubnet env (calls ++ calls') = (setSubnet env calls >>= fun _ => setSubnet env calls') :=
  List.forM_append

theorem setSubnet_concat (env : StrdupEnv) (before : List SubnetCall) (call : SubnetCall) :
    setSubnet env (before ++ [call]) = (setSubnet env before >>= fun _ => call.run env >>= fun _ =>
      pure ()) := by
  rw [setSubnet_append]
  refine congrArg (setSubnet env before >>= ·) (funext fun _ => ?_)
  rw [setSubnet, List.forM_cons, bind_assoc]
  rfl

theorem run_setSubnet_concat {call : SubnetCall} {error : Int} {memory₀ memory' : ElementMemory}
    (hbefore : (setSubnet env before).run memory₀ = (.ok (), memory))
    (hcall : (call.run env).run memory = (.ok error, memory')) :
    (setSubnet env (before ++ [call])).run memory₀ = (.ok (), memory') := by
  rw [setSubnet_concat, Prog.run_bind_ok hbefore, Prog.run_bind_ok hcall]
  rfl

/-- Whatever a call ends with. -/
theorem memory_setSubnet_concat {memory₀ : ElementMemory}
    (hbefore : (setSubnet env before).run memory₀ = (.ok (), memory)) (call : SubnetCall) :
    ((setSubnet env (before ++ [call])).run memory₀).2 = ((call.run env).run memory).2 := by
  rw [setSubnet_concat, Prog.run_bind_ok hbefore, Prog.run_bind]
  rcases (call.run env).run memory with ⟨error | _ | _, memory'⟩ <;> rfl

theorem keepsFrees_setSubnet (env : StrdupEnv) (calls : List SubnetCall) :
    Prog.Within KeepsFrees (setSubnet env calls) :=
  Prog.within_forM (fun call => Prog.within_bind (keepsFrees_run env call)
    fun _ => Prog.within_pure ()) calls

/-- Calls in order, one after the other. -/
theorem holds_setSubnet {calls : List SubnetCall}
    (h : ∀ before call, before ++ [call] <+: calls → call.inOrder env before = true) :
    ∃ memory, (setSubnet env calls).run ipv4AddressElementNew = (.ok (), memory) ∧
      Holds calls memory := by
  induction calls using List.reverseRecOn with
  | nil => exact ⟨_, rfl, holds_new⟩
  | append_singleton calls call ih =>
      obtain ⟨memory, hrun, hholds⟩ := ih fun before c hstart =>
        h before c (hstart.trans (List.prefix_append calls [call]))
      have horder := h calls call (List.prefix_refl _)
      obtain ⟨error, memory', hrun', hholds'⟩ := holds_run hholds horder
      exact ⟨memory', run_setSubnet_concat hrun hrun', hholds'⟩

/-- The element is freed. -/
theorem free_of_holds (h : Holds before memory) :
    ∃ memory', ipv4AddressElementFree.run memory = (.ok (), memory') ∧
      ∀ x ∈ memory'.netmaskFrees, x = (.netmask, true) := by
  obtain ⟨el, hel, hip, -⟩ := h.el
  have htype := subnetType_of_lastAsked hel h.subnet
  have hfreeIp : (freeIp el).run memory = (.ok (), memory) := by
    rw [freeIp, if_neg (by simp [hip])]
    rfl
  -- a string is freed under its tag, and nothing under another
  have hfreeSubnet : ∃ memory', (freeSubnet el).run memory = (.ok (), memory') ∧
      ∀ x ∈ memory'.netmaskFrees, x = (.netmask, true) := by
    by_cases hstring : el.subnetType = .netmask ∧ el.subnet ≠ .null
    · have hallocated : (Keyed.lookup Prod.fst el.subnet memory.strings).isSome := by
        cases hlast : lastAsked before with
        | netmask text =>
            rw [hlast] at htype
            exact htype.2
        | none =>
            rw [hlast] at htype
            exact absurd (hstring.1.symm.trans htype) (by decide)
        | prefixLength n =>
            rw [hlast] at htype
            exact absurd (hstring.1.symm.trans htype.1) (by decide)
      rw [freeSubnet, if_pos (by simp [hstring.1]), if_pos hstring]
      simp only [freeNetmask, freeString, Prog.run_bind, Prog.run_modify, Prog.run_get, hallocated,
        if_true]
      refine ⟨_, rfl, fun x hx => ?_⟩
      rcases List.mem_append.mp hx with hx | hx
      · exact h.frees x hx
      · rw [List.mem_singleton.mp hx, hstring.1]
    · refine ⟨memory, ?_, h.frees⟩
      rw [freeSubnet, if_neg hstring]
      split_ifs <;> rfl
  obtain ⟨memory', hrun, hfrees⟩ := hfreeSubnet
  refine ⟨{ memory' with el := none }, ?_, hfrees⟩
  rw [ipv4AddressElementFree, Prog.run_bind_ok (Prog.run_get memory), hel]
  simp only
  rw [Prog.run_bind_ok hfreeIp, Prog.run_bind_ok hrun]
  rfl

/-- A call out of order shows. -/
theorem inOrder_of_subnetReadByTag {calls : List SubnetCall} (h : SubnetReadByTag env calls)
    {call : SubnetCall} (hstart : before ++ [call] <+: calls)
    (hrun : (setSubnet env before).run ipv4AddressElementNew = (.ok (), memory))
    (hholds : Holds before memory) : call.inOrder env before = true := by
  by_contra horder
  obtain ⟨memory', hrun', hasked⟩ := h.asked before call hstart
  have hmemory : memory' = ((call.run env).run memory).2 := by
    rw [← memory_setSubnet_concat hrun call, hrun']
  rcases run_out_of_order hholds (Bool.not_eq_true _ ▸ horder) with ⟨x, hx, hne⟩ | hne
  · -- what was freed is still on record when the element is freed
    obtain ⟨after, rfl⟩ := hstart
    have hkeeps : KeepsFrees memory' ((setSubnet env (before ++ [call] ++ after) >>=
        fun _ => ipv4AddressElementFree).run ipv4AddressElementNew).2 := by
      rw [setSubnet_append, bind_assoc, Prog.run_bind_ok hrun']
      exact Prog.within_bind (keepsFrees_setSubnet env after) (fun _ => keepsFrees_free) memory'
    exact hne (h.frees x (hkeeps.mem (hmemory ▸ hx)))
  · exact hne (hmemory ▸ hasked)

/-- All calls before are in order, and leave what they asked for. -/
theorem holds_of_subnetReadByTag {calls : List SubnetCall} (h : SubnetReadByTag env calls)
    (hstart : before <+: calls) : ∃ memory,
    (setSubnet env before).run ipv4AddressElementNew = (.ok (), memory) ∧ Holds before memory := by
  induction before using List.reverseRecOn with
  | nil => exact ⟨_, rfl, holds_new⟩
  | append_singleton before call ih =>
      obtain ⟨memory, hrun, hholds⟩ := ih ((List.prefix_append before [call]).trans hstart)
      have horder := inOrder_of_subnetReadByTag h hstart hrun hholds
      obtain ⟨error, memory', hrun', hholds'⟩ := holds_run hholds horder
      exact ⟨memory', run_setSubnet_concat hrun hrun', hholds'⟩

/-- The union is read under its tag exactly when the calls are in order. -/
theorem subnetReadByTag_iff (env : StrdupEnv) (calls : List SubnetCall) :
    SubnetReadByTag env calls ↔
      ∀ before call, before ++ [call] <+: calls → call.inOrder env before = true := by
  constructor
  · intro h before call hstart
    obtain ⟨memory, hrun, hholds⟩ :=
      holds_of_subnetReadByTag h ((List.prefix_append before [call]).trans hstart)
    exact inOrder_of_subnetReadByTag h hstart hrun hholds
  · intro h
    obtain ⟨memory, hrun, hholds⟩ := holds_setSubnet h
    obtain ⟨memory', hfree, hfrees⟩ := free_of_holds hholds
    have hends : (setSubnet env calls >>= fun _ => ipv4AddressElementFree).run
        ipv4AddressElementNew = (.ok (), memory') := by
      rw [Prog.run_bind_ok hrun, hfree]
    refine ⟨fun before call hstart => ?_, by rw [hends], by rwa [hends]⟩
    obtain ⟨memory₁, hrun₁, hholds₁⟩ := holds_setSubnet fun before' call' hstart' =>
      h before' call' (hstart'.trans hstart)
    exact ⟨memory₁, hrun₁, by rw [hholds₁.subnet, lastAsked_concat]⟩

end Holds

/-! ## the netmask after a prefix length -/

/-- Memory for every string, each after the ones that are allocated. -/
def roomy : StrdupEnv where
  succeeds _ := true
  address _ allocated := ⟨0, (allocated.map Pointer.rest).foldr max 0 + 1⟩
  fresh _ allocated h := by
    have hle := LinkTable.le_foldr_max (List.mem_map_of_mem (f := Pointer.rest) h)
    exact absurd hle (Nat.not_succ_le_self _)
  high _ _ := Nat.succ_ne_zero _

/-- The prefix length is freed as if it were a string. -/
theorem netmask_after_prefixLength :
    ¬ SubnetReadByTag roomy [.setPrefixLength 24, .setNetmask (some "255.255.0.0")] := by
  intro h
  have hfree := h.frees (.prefixLength, false) (by decide)
  exact absurd hfree (by decide)

end SysrepoInterfaces.Interfaces
