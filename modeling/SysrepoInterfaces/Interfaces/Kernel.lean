import SysrepoInterfaces.Api
import SysrepoInterfaces.Lib.Keyed

/-!
# SysrepoInterfaces.Interfaces.Kernel

The part of the kernel the interfaces plugin changes with the netlink requests
of `rtnl_link_*`, `rtnl_addr_*` and `rtnl_neigh_*`: links, their addresses and
their neighbours.  What the kernel makes of a request it accepts is a parameter
of the model; a kernel for small worlds is at the end.
-/

namespace SysrepoInterfaces.Interfaces

/-! ## links -/

def IF_OPER_DOWN : Nat := 2
def IF_OPER_UP : Nat := 6

def NLM_F_REPLACE : Nat := 0x100
def NLM_F_CREATE : Nat := 0x400

/-- A link, with the attributes the plugin reads or writes. -/
structure RtnlLink where
  ifindex : Nat
  name : String
  type : Option String := none
  up : Bool := false
  operstate : Nat := IF_OPER_DOWN
  mtu : Nat := 1500
deriving DecidableEq, Repr

/-- The link a change request describes; an attribute that was not set is
`none`. -/
structure LinkChange where
  name : String
  type : Option String := none
  up : Option Bool := none
  operstate : Option Nat := none
  mtu : Option Nat := none
deriving DecidableEq, Repr

/-- The plugin only ever sends a link its own name. -/
def RtnlLink.change (link : RtnlLink) (c : LinkChange) : RtnlLink :=
  { link with
    type := c.type.or link.type
    up := c.up.getD link.up
    operstate := c.operstate.getD link.operstate
    mtu := c.mtu.getD link.mtu }

/-- The links of the kernel: no two have one name or one index. -/
structure LinkTable where
  links : List RtnlLink
  names : (links.map RtnlLink.name).Nodup
  ifindexes : (links.map RtnlLink.ifindex).Nodup
deriving DecidableEq

namespace LinkTable

/-- `rtnl_link_get_by_name` on a cache of the table. -/
def getByName (t : LinkTable) (name : String) : Option RtnlLink :=
  Keyed.lookup RtnlLink.name name t.links

/-- An index no link has. -/
def freshIfindex (links : List RtnlLink) : Nat := (links.map RtnlLink.ifindex).foldr max 0 + 1

theorem le_foldr_max {ns : List Nat} {n : Nat} (h : n ∈ ns) : n ≤ ns.foldr max 0 := by
  induction ns with
  | nil => cases h
  | cons m ns ih =>
      rw [List.foldr_cons]
      rcases List.mem_cons.mp h with rfl | h
      · exact Nat.le_max_left ..
      · exact Nat.le_trans (ih h) (Nat.le_max_right ..)

theorem freshIfindex_notMem (links : List RtnlLink) :
    freshIfindex links ∉ links.map RtnlLink.ifindex := by
  intro h
  have hle := le_foldr_max h
  rw [freshIfindex] at hle
  omega

/-- A new link, down; a name that is taken is left alone. -/
def add (t : LinkTable) (name type : String) : LinkTable :=
  if h : name ∈ t.links.map RtnlLink.name then t
  else {
    links := t.links ++ [{ ifindex := freshIfindex t.links, name, type := some type }]
    names := by
      rw [List.map_append, List.map_singleton]
      exact t.names.append (List.nodup_singleton _) (List.disjoint_singleton.mpr h)
    ifindexes := by
      rw [List.map_append, List.map_singleton]
      exact t.ifindexes.append (List.nodup_singleton _)
        (List.disjoint_singleton.mpr (freshIfindex_notMem t.links)) }

/-- The link of an index takes the attributes of a request. -/
def change (t : LinkTable) (ifindex : Nat) (c : LinkChange) : LinkTable where
  links := Keyed.adjust RtnlLink.ifindex ifindex (fun link => link.change c) t.links
  names := by
    have hname : ∀ link : RtnlLink, (link.change c).name = link.name := fun _ => rfl
    rw [Keyed.map_adjust hname]
    exact t.names
  ifindexes := by
    have hifindex : ∀ link : RtnlLink, (link.change c).ifindex = link.ifindex := fun _ => rfl
    rw [Keyed.map_adjust hifindex]
    exact t.ifindexes

/-- The link of an index is gone. -/
def delete (t : LinkTable) (ifindex : Nat) : LinkTable where
  links := t.links.filter fun link => link.ifindex ≠ ifindex
  names := t.names.sublist (List.filter_sublist.map _)
  ifindexes := t.ifindexes.sublist (List.filter_sublist.map _)

theorem getByName_eq_none_iff (t : LinkTable) (name : String) :
    t.getByName name = none ↔ name ∉ t.links.map RtnlLink.name := Keyed.lookup_eq_none_iff

/-- A deleted link is found under its name no more. -/
theorem getByName_delete {t : LinkTable} {name : String} {link : RtnlLink}
    (h : t.getByName name = some link) : (t.delete link.ifindex).getByName name = none := by
  rw [getByName_eq_none_iff]
  intro hmem
  obtain ⟨other, hother, hname⟩ := List.mem_map.mp hmem
  obtain ⟨hlinks, hne⟩ := List.mem_filter.mp hother
  have hsame : t.getByName name = some other := hname ▸ Keyed.lookup_of_mem t.names hlinks
  obtain rfl : link = other := Option.some.inj (h.symm.trans hsame)
  simp at hne

end LinkTable

/-! ## addresses and neighbours -/

/-- An address of a link; the local address carries its prefix length. -/
structure RtnlAddr where
  ifindex : Nat
  localAddr : NlAddr
deriving DecidableEq, Repr

/-- A neighbour of a link. -/
structure RtnlNeigh where
  ifindex : Nat
  dst : NlAddr
  lladdr : Option NlAddr := none
deriving DecidableEq, Repr

/-- What a neighbour is found by. -/
def RtnlNeigh.key (neigh : RtnlNeigh) : Nat × NlAddr := (neigh.ifindex, neigh.dst)

/-! ## requests -/

structure Kernel where
  links : LinkTable
  addrs : List RtnlAddr := []
  neighs : List RtnlNeigh := []
deriving DecidableEq

/-- The requests that change the kernel, with the flags that tell them apart. -/
inductive Request where
  | linkAdd (name type : String)
  | linkChange (ifindex : Nat) (change : LinkChange) (flags : Nat)
  | linkDelete (ifindex : Nat)
  | addrAdd (addr : RtnlAddr)
  | addrDelete (addr : RtnlAddr)
  | neighAdd (neigh : RtnlNeigh) (flags : Nat)
  | neighDelete (neigh : RtnlNeigh)
deriving DecidableEq, Repr

/-! ## a kernel for small worlds -/

/-- A neighbour that is there already is only overwritten when the request says
so. -/
def addNeigh (neighs : List RtnlNeigh) (neigh : RtnlNeigh) (flags : Nat) : List RtnlNeigh :=
  if neigh.key ∈ neighs.map RtnlNeigh.key then
    if flags = NLM_F_REPLACE then (neighs.filter fun n => n.key ≠ neigh.key) ++ [neigh]
    else neighs
  else neighs ++ [neigh]

/-- A kernel that does what it is asked for and nothing else.  A link takes its
addresses and neighbours with it. -/
def Kernel.obey (k : Kernel) : Request → Kernel
  | .linkAdd name type => { k with links := k.links.add name type }
  | .linkChange ifindex change _ => { k with links := k.links.change ifindex change }
  | .linkDelete ifindex => {
      links := k.links.delete ifindex
      addrs := k.addrs.filter fun addr => addr.ifindex ≠ ifindex
      neighs := k.neighs.filter fun neigh => neigh.ifindex ≠ ifindex }
  | .addrAdd addr => { k with addrs := k.addrs ++ [addr] }
  | .addrDelete addr => { k with addrs := k.addrs.filter fun a => a ≠ addr }
  | .neighAdd neigh flags => { k with neighs := addNeigh k.neighs neigh flags }
  | .neighDelete neigh => { k with neighs := k.neighs.filter fun n => n.key ≠ neigh.key }

end SysrepoInterfaces.Interfaces
