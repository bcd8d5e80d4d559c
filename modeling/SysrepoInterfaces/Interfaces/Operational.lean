import SysrepoInterfaces.Interfaces.Env
import SysrepoInterfaces.Lib.Trace

/-!
# SysrepoInterfaces.Interfaces.Operational

What the operational callbacks of the interfaces plugin
(`subscription/operational.c`) share: the caches of `oper_ctx.nl_ctx`, which the
interface list callback has filled, and the nodes they add below `*parent`.
-/

namespace SysrepoInterfaces.Interfaces

open CProg Trace

/-! ## the caches -/

/-- A link as the operational callbacks read it. -/
structure OperLink where
  ifindex : Nat
  name : String
  /-- `rtnl_link_get_master`, 0 without one -/
  master : Nat := 0
deriving DecidableEq, Repr

/-- A link cache: no two links have one name or one index, and no index is 0. -/
structure LinkCache where
  links : List OperLink
  names : (links.map OperLink.name).Nodup
  ifindexes : (links.map OperLink.ifindex).Nodup
  nonzero : ∀ link ∈ links, link.ifindex ≠ 0

/-- `rtnl_link_get`. -/
def LinkCache.get (cache : LinkCache) (ifindex : Nat) : Option OperLink :=
  Keyed.lookup OperLink.ifindex ifindex cache.links

/-- `rtnl_link_get_by_name`. -/
def LinkCache.getByName (cache : LinkCache) (name : String) : Option OperLink :=
  Keyed.lookup OperLink.name name cache.links

theorem LinkCache.getByName_of_mem {cache : LinkCache} {link : OperLink}
    (h : link ∈ cache.links) : cache.getByName link.name = some link :=
  Keyed.lookup_of_mem cache.names h

theorem LinkCache.mem_of_get {cache : LinkCache} {ifindex : Nat} {link : OperLink}
    (h : cache.get ifindex = some link) : link ∈ cache.links := Keyed.mem_of_lookup h

/-- A name determines its link. -/
theorem LinkCache.eq_of_name {cache : LinkCache} {x y : OperLink} (hx : x ∈ cache.links)
    (hy : y ∈ cache.links) (h : x.name = y.name) : x = y :=
  List.inj_on_of_nodup_map cache.names hx hy h

/-- An address as the operational callbacks read it.  With a peer address the
prefix length of the local one is not the one the kernel reports. -/
structure OperAddr where
  ifindex : Nat
  localAddr : NlAddr
  /-- `rtnl_addr_get_prefixlen` -/
  prefixlen : Nat
  /-- `rtnl_addr_get_flags` -/
  flags : UInt32
deriving DecidableEq, Repr

/-! ## the environment -/

/-- The library calls whose result is checked. -/
inductive OperCall where
  | srSessionGetConnection
  | srSessionStart
  | srGetItem
  | lydPath
  | strdup
  | srXpathKeyValue
  | snprintf
  | lyTreeCreate
deriving DecidableEq, Repr

/-- The nodes the callbacks add. -/
inductive OperNode where
  | higherLayerIf (name : String)
  | lowerLayerIf (name : String)
  | address (family : IpFamily) (ip : String)
  | addressPrefixLength (family : IpFamily) (ip prefixLength : String)
  | addressOrigin (family : IpFamily) (origin : String)
  | addressStatus (status : String)
deriving DecidableEq, Repr

/-- What the callbacks leave behind. -/
structure OperState where
  /-- the nodes added, oldest first -/
  nodes : List OperNode := []
  /-- checked calls made -/
  calls : Nat := 0
deriving DecidableEq, Repr

abbrev OperM := Prog OperState

/-- The outcome of the n-th checked call. -/
abbrev OperLib := Nat → OperCall → Bool

def OperLib.Succeeds (lib : OperLib) : Prop := ∀ n call, lib n call = true

/-- Make a checked call and go to `error_out` unless it succeeds. -/
def operChecked (lib : OperLib) (call : OperCall) : OperM Unit := do
  let s ← Prog.get
  Prog.modify fun s => { s with calls := s.calls + 1 }
  if lib s.calls call then return () else Prog.fail

/-- `interfaces_ly_tree_create_*`. -/
def lyTreeCreate (lib : OperLib) (node : OperNode) : OperM Unit := do
  operChecked lib .lyTreeCreate
  Prog.modify fun s => { s with nodes := s.nodes ++ [node] }

/-- `interfaces_extract_interface_name`, `interfaces_extract_interface_address_ip`. -/
def extractKey (lib : OperLib) : OperM Int :=
  Prog.exitCode (-1) do
    operChecked lib .strdup
    operChecked lib .srXpathKeyValue
    operChecked lib .snprintf

/-- `interfaces_get_current_link` for the interface entry of a name; a link that
is not there leads to `error_out`. -/
def interfacesGetCurrentLink (lib : OperLib) (cache : LinkCache) (name : String) :
    OperM OperLink := do
  (extractKey lib).require
  match cache.getByName name with
  | some link => return link
  | none => Prog.fail

/-! ## calls that succeed -/

/-- The program ends normally with a value, and adds exactly some nodes. -/
def Adds {α : Type} (p : OperM α) (a : α) (nodes : List OperNode) : Prop :=
  ∀ s, ∃ calls, p.run s = (.ok a, { nodes := s.nodes ++ nodes, calls })

/-- The program leaves through `error_out`, and has added some nodes. -/
def FailsWith {α : Type} (p : OperM α) (nodes : List OperNode) : Prop :=
  ∀ s, ∃ calls, p.run s = (.error, { nodes := s.nodes ++ nodes, calls })

section Adds

variable {α β : Type} {p : OperM α} {f : α → OperM β} {a : α} {b : β} {lib : OperLib}
  {ns ms : List OperNode}

theorem adds_pure (a : α) : Adds (pure a) a [] := by
  intro s
  exact ⟨s.calls, by simp⟩

theorem Adds.bind (hp : Adds p a ns) (hf : Adds (f a) b ms) : Adds (p >>= f) b (ns ++ ms) := by
  intro s
  obtain ⟨calls, hrun⟩ := hp s
  obtain ⟨calls', hrun'⟩ := hf { nodes := s.nodes ++ ns, calls }
  refine ⟨calls', ?_⟩
  rw [Prog.run_bind_ok hrun, hrun', List.append_assoc]

theorem failsWith_fail : FailsWith (Prog.fail : OperM α) [] := by
  intro s
  exact ⟨s.calls, by simp⟩

theorem Adds.bind_fails (hp : Adds p a ns) (hf : FailsWith (f a) ms) :
    FailsWith (p >>= f) (ns ++ ms) := by
  intro s
  obtain ⟨calls, hrun⟩ := hp s
  obtain ⟨calls', hrun'⟩ := hf { nodes := s.nodes ++ ns, calls }
  refine ⟨calls', ?_⟩
  rw [Prog.run_bind_ok hrun, hrun', List.append_assoc]

theorem adds_operChecked (h : lib.Succeeds) (call : OperCall) :
    Adds (operChecked lib call) () [] := by
  intro s
  have hlib := h s.calls call
  refine ⟨s.calls + 1, ?_⟩
  simp [operChecked, Prog.run_bind, hlib]

theorem adds_lyTreeCreate (h : lib.Succeeds) (node : OperNode) :
    Adds (lyTreeCreate lib node) () [node] := by
  have hmodify : Adds (Prog.modify fun s : OperState => { s with nodes := s.nodes ++ [node] }) ()
      [node] := fun s => ⟨s.calls, rfl⟩
  exact (adds_operChecked h .lyTreeCreate).bind hmodify

theorem Adds.exitCode {p : OperM Unit} (h : Adds p () ns) (code : Int) :
    Adds (p.exitCode code) 0 ns := by
  intro s
  obtain ⟨calls, hrun⟩ := h s
  exact ⟨calls, by rw [Prog.run_exitCode, hrun]⟩

theorem Adds.require {p : OperM Int} (h : Adds p 0 ns) : Adds p.require () ns := by
  intro s
  obtain ⟨calls, hrun⟩ := h s
  exact ⟨calls, Prog.run_require_of_zero hrun⟩

/-- The rounds of a loop add their nodes one after the other. -/
theorem adds_forM {γ : Type} {g : γ → OperM PUnit} {nodes : γ → List OperNode} {xs : List γ}
    (h : ∀ x ∈ xs, Adds (g x) () (nodes x)) : Adds (forM xs g) () (xs.flatMap nodes) := by
  induction xs with
  | nil => exact adds_pure _
  | cons x xs ih =>
      rw [List.forM_cons, List.flatMap_cons]
      have hx := h x List.mem_cons_self
      exact hx.bind (ih fun x hx => h x (List.mem_cons_of_mem _ hx))

theorem adds_extractKey (h : lib.Succeeds) : Adds (extractKey lib) 0 [] := by
  have hkey := (adds_operChecked h .srXpathKeyValue).bind
    (f := fun _ => operChecked lib .snprintf) (adds_operChecked h .snprintf)
  exact ((adds_operChecked h .strdup).bind (f := fun _ => _) hkey).exitCode (-1)

/-- A link of the cache is found. -/
theorem adds_currentLink (h : lib.Succeeds) {cache : LinkCache} {link : OperLink}
    (hlink : link ∈ cache.links) :
    Adds (interfacesGetCurrentLink lib cache link.name) link [] := by
  refine (adds_extractKey h).require.bind (f := fun _ => _) ?_
  rw [LinkCache.getByName_of_mem hlink]
  exact adds_pure link

end Adds

/-! ## calls of any outcome -/

theorem reports_operChecked (lib : OperLib) (call : OperCall) :
    Reports OperState.nodes (operChecked lib call) [] fun _ => True := by
  have hrun : ∀ s, (operChecked lib call).run s =
      (if lib s.calls call then .ok () else .error, { s with calls := s.calls + 1 }) := by
    intro s
    simp only [operChecked, Prog.run_bind, Prog.run_get, Prog.run_modify]
    split <;> rfl
  constructor
  · intro s
    refine ⟨[], ?_, List.nil_prefix, fun _ _ => ⟨rfl, trivial⟩⟩
    rw [hrun, List.append_nil]
  · intro s
    rw [hrun]
    split <;> simp

theorem reports_lyTreeCreate (lib : OperLib) (node : OperNode) :
    Reports OperState.nodes (lyTreeCreate lib node) [node] fun _ => True := by
  refine (reports_operChecked lib _).before fun _ _ => ⟨?_, fun s => by simp⟩
  intro s
  exact ⟨[node], rfl, List.prefix_refl _, fun _ _ => ⟨rfl, trivial⟩⟩

/-- A link of the cache is what is found, if anything is. -/
theorem reports_currentLink (lib : OperLib) {cache : LinkCache} {x : OperLink}
    (hx : x ∈ cache.links) :
    Reports OperState.nodes (interfacesGetCurrentLink lib cache x.name) []
      fun link => link = x := by
  have hkey : Reports OperState.nodes (extractKey lib).require [] fun _ => True := by
    rw [extractKey, Prog.require_exitCode (by decide)]
    refine (reports_operChecked lib _).before fun _ _ => ?_
    exact (reports_operChecked lib _).before fun _ _ => reports_operChecked lib _
  refine hkey.before fun _ _ => ?_
  rw [LinkCache.getByName_of_mem hx]
  exact reports_pure rfl

end SysrepoInterfaces.Interfaces
