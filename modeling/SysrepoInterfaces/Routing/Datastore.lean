import Mathlib.Data.List.Forall2
import SysrepoInterfaces.Routing.Change

/-!
# SysrepoInterfaces.Routing.Datastore

What the datastore says about static routes, and the changes sysrepo delivers
for it.  A change stream is a list of entry changes; the entries that are
created or deleted whole come with their key leaf first.
-/

namespace SysrepoInterfaces.Routing

open CProg

/-! ## entry changes -/

/-- The leaves of a static route below its key. -/
inductive RouteLeaf where
  | description
  | outgoingInterface
  | nextHopAddress
deriving DecidableEq, Repr

def RouteLeaf.nodeName : RouteLeaf → String
  | .description => "description"
  | .outgoingInterface => "outgoing-interface"
  | .nextHopAddress => "next-hop-address"

/-- The change of one leaf. -/
structure LeafChange where
  leaf : RouteLeaf
  operation : SrChangeOper
  value : String
deriving DecidableEq, Repr

def LeafChange.toChange (l : LeafChange) : Change where
  operation := l.operation
  nodeName := some l.leaf.nodeName
  nodeValue := some l.value

/-- The operation of a whole entry that goes to a batch. -/
def Batch.operation : Batch → SrChangeOper
  | .new => .created
  | .delete => .deleted

/-- What happens to a list entry: it appears or vanishes whole, or it stays. -/
inductive EntryKind where
  | whole (batch : Batch)
  | kept
deriving DecidableEq, Repr

/-- The changes inside one list entry; the leaves of an entry that appears or
vanishes do so with it. -/
structure EntryChange where
  destinationPrefix : String
  kind : EntryKind
  leaves : List LeafChange
  whole_leaves : ∀ batch, kind = .whole batch → ∀ l ∈ leaves, l.operation = batch.operation

/-- An entry that appears or vanishes with its leaves. -/
def EntryChange.ofWhole (batch : Batch) (destinationPrefix : String) (leaves : List LeafChange)
    (h : ∀ l ∈ leaves, l.operation = batch.operation) : EntryChange where
  destinationPrefix := destinationPrefix
  kind := .whole batch
  leaves := leaves
  whole_leaves := by
    rintro _ ⟨⟩
    exact h

theorem operation_of_created (leaf : RouteLeaf) (value : String) :
    ∀ l ∈ [LeafChange.mk leaf .created value], l.operation = Batch.new.operation := by
  simp [Batch.operation]

/-- An entry that stays, with the changes of its leaves. -/
def EntryChange.ofKept (destinationPrefix : String) (leaves : List LeafChange) : EntryChange where
  destinationPrefix := destinationPrefix
  kind := .kept
  leaves := leaves
  whole_leaves := nofun

def keyChange (batch : Batch) (destinationPrefix : String) : Change where
  operation := batch.operation
  nodeName := some "destination-prefix"
  nodeValue := some destinationPrefix

/-- The changes of an entry in document order. -/
def EntryChange.toChanges (e : EntryChange) : List Change :=
  match e.kind with
  | .whole batch => keyChange batch e.destinationPrefix :: e.leaves.map LeafChange.toChange
  | .kept => e.leaves.map LeafChange.toChange

def toStream (es : List EntryChange) : List Change := es.flatMap EntryChange.toChanges

/-- The entry cut off after its first `n` leaves. -/
def EntryChange.upTo (e : EntryChange) (n : Nat) : EntryChange where
  destinationPrefix := e.destinationPrefix
  kind := e.kind
  leaves := e.leaves.take n
  whole_leaves := fun batch h l hl => e.whole_leaves batch h l (List.mem_of_mem_take hl)

/-! ## configurations -/

/-- A static route as the datastore holds it. -/
structure RouteConfig where
  description : Option String := none
  outgoingInterface : Option String := none
  nextHopAddress : Option NlAddr := none
deriving DecidableEq, Repr

/-- The static routes by destination prefix. -/
abbrev StaticRoutes := NlAddr → Option RouteConfig

section Diff

/-! `text` is how the datastore writes an address. -/

variable (text : NlAddr → String)

/-- The value of a leaf. -/
def RouteConfig.leafValue (c : RouteConfig) : RouteLeaf → Option String
  | .description => c.description
  | .outgoingInterface => c.outgoingInterface
  | .nextHopAddress => c.nextHopAddress.map text

/-- The change of one leaf, by its old and its new value. -/
def leafDiff (leaf : RouteLeaf) : Option String → Option String → Option LeafChange
  | none, none => none
  | none, some v => some ⟨leaf, .created, v⟩
  | some v, none => some ⟨leaf, .deleted, v⟩
  | some v, some w => if v = w then none else some ⟨leaf, .modified, w⟩

/-- The changes of the leaves of an entry. -/
def leafDiffs (old new : Option RouteConfig) : List LeafChange :=
  [RouteLeaf.description, .outgoingInterface, .nextHopAddress].filterMap fun leaf =>
    leafDiff leaf (old.bind fun c => c.leafValue text leaf)
      (new.bind fun c => c.leafValue text leaf)

/-- The kind of change of an entry that is there before or after. -/
def entryKind : Option RouteConfig → Option RouteConfig → EntryKind
  | none, _ => .whole .new
  | some _, none => .whole .delete
  | some _, some _ => .kept

/-- `e` is the change of the entry of `p`, its leaves in any order. -/
structure IsEntryDiff (old new : StaticRoutes) (p : NlAddr) (e : EntryChange) : Prop where
  present : old p ≠ none ∨ new p ≠ none
  dest : e.destinationPrefix = text p
  kind : e.kind = entryKind (old p) (new p)
  leaves : e.leaves.Perm (leafDiffs text (old p) (new p))

/-- `es` is a change stream from `old` to `new`: one entry change, in any
order, for each entry that differs.  An entry that stays the same may come too,
with no leaves. -/
def IsDiff (old new : StaticRoutes) (es : List EntryChange) : Prop :=
  ∃ ps : List NlAddr, ps.Nodup ∧ (∀ p, old p ≠ new p → p ∈ ps) ∧
    List.Forall₂ (IsEntryDiff text old new) ps es

end Diff

/-! ## what a configuration asks of the kernel -/

/-- The next hop of a static route; `ifindexOf` resolves interface names. -/
def RouteConfig.nexthops (ifindexOf : String → Nat) (c : RouteConfig) : List RtnlNexthop :=
  if c.nextHopAddress = none ∧ c.outgoingInterface = none then []
  else [{ ifindex := c.outgoingInterface.map ifindexOf, gateway := c.nextHopAddress }]

def RtnlRoute.isStatic (route : RtnlRoute) : Bool :=
  route.table = RT_TABLE_MAIN && route.protocol = RTPROT_STATIC

/-- The routes of the table that static routes are configured by. -/
def staticRoutes (table : List RtnlRoute) : List RtnlRoute := table.filter RtnlRoute.isStatic

/-- What is relied on of the kernel.  A route it is asked to add it keeps, to the
same destination and with the same next hops, as `stored`; asked to delete a
static route of any metric it deletes the first one to that destination. -/
structure CarriesOut (env : RoutingEnv) (stored : RtnlRoute → RtnlRoute) : Prop where
  add : ∀ table route, route.isStatic → staticRoutes (env.carryOut table (.routeAdd route)) =
    staticRoutes table ++ [stored route]
  dst : ∀ route, (stored route).dst = route.dst
  nexthops : ∀ route, (stored route).nexthops = route.nexthops
  delete : ∀ table pattern, pattern.isStatic → pattern.priority = 0 →
    staticRoutes (env.carryOut table (.routeDelete pattern)) =
      (staticRoutes table).eraseP fun route => route.dst = pattern.dst

/-- The main-table static routes of the kernel are those of the configuration:
one per prefix, with its gateway and its interface. -/
structure Represents (ifindexOf : String → Nat) (table : List RtnlRoute) (config : StaticRoutes) :
    Prop where
  unique : ((staticRoutes table).map RtnlRoute.dst).Nodup
  nexthops : ∀ p, (Keyed.lookup RtnlRoute.dst p (staticRoutes table)).map RtnlRoute.nexthops =
    (config p).map (RouteConfig.nexthops ifindexOf)

end SysrepoInterfaces.Routing
