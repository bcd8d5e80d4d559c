import SysrepoInterfaces.Interfaces.Kernel
import SysrepoInterfaces.Lib.CProg
import SysrepoInterfaces.Lib.LastChange

/-!
# SysrepoInterfaces.Interfaces.StateTracker

The table of operational states (`data/interfaces/interface_state.c`) and the
two functions of `plugin.c` that fill it: one when the plugin starts, one
whenever the link cache has changed.
-/

namespace SysrepoInterfaces.Interfaces

open CProg

/-! ## the hash of states -/

/-- `struct interfaces_interface_state`. -/
structure InterfaceState where
  name : String
  state : UInt8
  lastChange : Int
deriving DecidableEq, Repr

/-- The hash of `interface_state.c`, in order of insertion. -/
structure StateHash where
  elements : List InterfaceState
  names : (elements.map InterfaceState.name).Nodup
deriving DecidableEq

namespace StateHash

/-- `interfaces_interface_state_hash_new`. -/
def new : StateHash := ⟨[], List.nodup_nil⟩

/-- `interfaces_interface_state_hash_get`. -/
def get (hash : StateHash) (name : String) : Option InterfaceState :=
  Keyed.lookup InterfaceState.name name hash.elements

/-- `interfaces_interface_state_hash_add`; a name that is taken is an error. -/
def add (hash : StateHash) (newElement : InterfaceState) : Option StateHash :=
  if h : newElement.name ∈ hash.elements.map InterfaceState.name then none
  else some {
    elements := hash.elements ++ [newElement]
    names := by
      rw [List.map_append, List.map_singleton]
      exact hash.names.append (List.nodup_singleton _) (List.disjoint_singleton.mpr h) }

/-- `set_state` and `set_last_change` on the element of a name. -/
def set (hash : StateHash) (name : String) (state : UInt8) (lastChange : Int) : StateHash where
  elements := Keyed.adjust InterfaceState.name name (fun e => { e with state, lastChange })
    hash.elements
  names := by
    have hname : ∀ e : InterfaceState, { e with state, lastChange }.name = e.name := fun _ => rfl
    rw [Keyed.map_adjust hname]
    exact hash.names

theorem get_eq_none_iff (hash : StateHash) (name : String) :
    hash.get name = none ↔ name ∉ hash.elements.map InterfaceState.name :=
  Keyed.lookup_eq_none_iff

/-- An element of a new name is added at the end. -/
theorem add_eq_some {hash : StateHash} {e : InterfaceState} (h : hash.get e.name = none) :
    ∃ hash', hash.add e = some hash' ∧ hash'.elements = hash.elements ++ [e] := by
  rw [get_eq_none_iff] at h
  exact ⟨_, dif_neg h, rfl⟩

end StateHash

/-! ## the tracking functions -/

/-- `rtnl_link_get_operstate`, an unsigned byte. -/
def RtnlLink.getOperstate (link : RtnlLink) : UInt8 := UInt8.ofNat link.operstate

/-- The calls that can fail. -/
inductive TrackerCall where
  | nlSocketAlloc
  | nlConnect
  | rtnlLinkAllocCache
  | pthreadMutexInit
  | hashElementNew
  | hashElementSetName
  | nlCacheMngrAlloc
  | nlCacheMngrAdd
  | pthreadAttrInit
  | pthreadAttrSetdetachstate
  | pthreadCreate
deriving DecidableEq, Repr

/-- The outcome of the n-th call. -/
abbrev TrackerEnv := Nat → TrackerCall → Bool

/-- `struct interfaces_state_changes_ctx_s`, as far as the table goes. -/
structure StateChangesCtx where
  stateHash : StateHash := .new
  /-- calls made -/
  calls : Nat := 0
deriving DecidableEq

namespace StateChangesCtx

abbrev M := Prog StateChangesCtx

/-- Make a call; the caller gets to see its outcome. -/
def attempt (env : TrackerEnv) (call : TrackerCall) : M Bool := do
  let ctx ← Prog.get
  Prog.modify fun ctx => { ctx with calls := ctx.calls + 1 }
  return env ctx.calls call

/-- Make a call and go to `error_out` unless it succeeds. -/
def checked (env : TrackerEnv) (call : TrackerCall) : M Unit := do
  if ← attempt env call then return () else Prog.fail

/-- `interfaces_interface_state_hash_add` on the table. -/
def hashAdd (newElement : InterfaceState) : M Int := do
  let ctx ← Prog.get
  match ctx.stateHash.add newElement with
  | some stateHash => do
      Prog.modify fun ctx => { ctx with stateHash }
      return 0
  | none => return -1

/-- The loop body of `interfaces_init_state_changes_tracking`. -/
def initLink (env : TrackerEnv) (currentTime : Int) (link : RtnlLink) : M Unit := do
  checked env .hashElementNew
  checked env .hashElementSetName
  (hashAdd { name := link.name, state := link.getOperstate, lastChange := currentTime }).require

/-- `interfaces_init_state_changes_tracking`, at one reading of the clock. -/
def interfacesInitStateChangesTracking (env : TrackerEnv) (linkCache : List RtnlLink)
    (currentTime : Int) : M Int :=
  Prog.exitCode (-1) do
    Prog.modify fun ctx => { ctx with stateHash := .new }
    checked env .nlSocketAlloc
    checked env .nlConnect
    checked env .rtnlLinkAllocCache
    checked env .pthreadMutexInit
    forM linkCache (initLink env currentTime)
    checked env .nlCacheMngrAlloc
    checked env .nlCacheMngrAdd
    checked env .pthreadAttrInit
    checked env .pthreadAttrSetdetachstate
    checked env .pthreadCreate

/-- A link that is not in the table yet; errors are logged only. -/
def addNewLink (env : TrackerEnv) (current : Int) (link : RtnlLink) : M Unit := do
  if ← attempt env .hashElementNew then
    if ← attempt env .hashElementSetName then do
      let _ ← hashAdd { name := link.name, state := link.getOperstate, lastChange := current }
      return ()
    else return ()
  else return ()

/-- The loop body of `interfaces_link_cache_change_cb`. -/
def changeLink (env : TrackerEnv) (current : Int) (link : RtnlLink) : M Unit := do
  let ctx ← Prog.get
  match ctx.stateHash.get link.name with
  | some stateElement =>
      if link.getOperstate ≠ stateElement.state then
        Prog.modify fun ctx => { ctx with
          stateHash := ctx.stateHash.set link.name link.getOperstate current }
      else return ()
  | none => addNewLink env current link

/-- `interfaces_link_cache_change_cb`, at one reading of the clock. -/
def interfacesLinkCacheChangeCb (env : TrackerEnv) (cache : List RtnlLink) (current : Int) :
    M Unit := forM cache (changeLink env current)

end StateChangesCtx

/-! ## what one link does to the table -/

namespace StateHash

/-- A link is seen with its state. -/
def observe (time : Int) (hash : StateHash) (link : RtnlLink) : StateHash :=
  match hash.get link.name with
  | some e =>
      if link.getOperstate ≠ e.state then hash.set link.name link.getOperstate time else hash
  | none =>
      (hash.add { name := link.name, state := link.getOperstate, lastChange := time }).getD hash

/-- State and last change of a name. -/
def entry (hash : StateHash) (name : String) : Option (UInt8 × Int) :=
  (hash.get name).map fun e => (e.state, e.lastChange)

theorem entry_set_self {hash : StateHash} {name : String} {e : InterfaceState}
    (h : hash.get name = some e) (state : UInt8) (time : Int) :
    (hash.set name state time).entry name = some (state, time) := by
  have hname : ∀ e : InterfaceState, { e with state, lastChange := time }.name = e.name :=
    fun _ => rfl
  have hget : (hash.set name state time).get name =
      some { e with state, lastChange := time } := by
    rw [get, set, Keyed.lookup_adjust_self hname, ← get, h]
    rfl
  rw [entry, hget]
  rfl

theorem entry_set_ne {hash : StateHash} {name other : String} (hne : other ≠ name) (state : UInt8)
    (time : Int) : (hash.set name state time).entry other = hash.entry other := by
  have hname : ∀ e : InterfaceState, { e with state, lastChange := time }.name = e.name :=
    fun _ => rfl
  rw [entry, get, set, Keyed.lookup_adjust_ne hname hne]
  rfl

theorem entry_add_self {hash hash' : StateHash} {e : InterfaceState} (h : hash.get e.name = none)
    (helements : hash'.elements = hash.elements ++ [e]) :
    hash'.entry e.name = some (e.state, e.lastChange) := by
  have hget : hash'.get e.name = some e := by
    rw [get, helements, Keyed.lookup_append, ← get, h, Keyed.lookup_cons, if_pos rfl]
    rfl
  rw [entry, hget]
  rfl

theorem entry_add_ne {hash hash' : StateHash} {e : InterfaceState} {other : String}
    (hne : other ≠ e.name) (helements : hash'.elements = hash.elements ++ [e]) :
    hash'.entry other = hash.entry other := by
  have hget : hash'.get other = hash.get other := by
    rw [get, helements, Keyed.lookup_append, ← get, Keyed.lookup_cons, if_neg hne.symm]
    cases hash.get other <;> rfl
  rw [entry, hget, entry]

/-- The entry of the link follows its state. -/
theorem entry_observe_self (time : Int) (hash : StateHash) (link : RtnlLink) :
    (hash.observe time link).entry link.name =
      LastChange.track (hash.entry link.name) (time, some link.getOperstate) := by
  unfold observe
  cases hget : hash.get link.name with
  | none =>
      obtain ⟨hash', hadd, helements⟩ := add_eq_some
        (e := ⟨link.name, link.getOperstate, time⟩) hget
      have hentry : hash.entry link.name = none := by
        rw [entry, hget]
        rfl
      rw [hadd, hentry]
      exact entry_add_self (e := ⟨link.name, link.getOperstate, time⟩) hget helements
  | some e =>
      have hentry : hash.entry link.name = some (e.state, e.lastChange) := by
        rw [entry, hget]
        rfl
      by_cases hstate : link.getOperstate = e.state
      · simp [hstate, hentry, LastChange.track]
      · have hset := entry_set_self hget link.getOperstate time
        simp [hstate, hentry, LastChange.track, hset]

/-- The other entries stay. -/
theorem entry_observe_ne (time : Int) (hash : StateHash) {link : RtnlLink} {other : String}
    (hne : other ≠ link.name) : (hash.observe time link).entry other = hash.entry other := by
  unfold observe
  cases hget : hash.get link.name with
  | none =>
      obtain ⟨hash', hadd, helements⟩ := add_eq_some
        (e := ⟨link.name, link.getOperstate, time⟩) hget
      rw [hadd]
      exact entry_add_ne (e := ⟨link.name, link.getOperstate, time⟩) hne helements
  | some e =>
      dsimp only
      split
      · exact entry_set_ne hne _ _
      · rfl

/-- A link is added to a table without it. -/
theorem observe_of_add {hash hash' : StateHash} {time : Int} {link : RtnlLink}
    (h : hash.add { name := link.name, state := link.getOperstate, lastChange := time } =
      some hash') : hash.observe time link = hash' := by
  have hget : hash.get link.name = none := by
    rw [get_eq_none_iff]
    intro hmem
    rw [add, dif_pos hmem] at h
    cases h
  unfold observe
  rw [hget]
  exact congrArg (Option.getD · hash) h

end StateHash

/-! ## what the functions do to the table -/

/-- No allocation fails. -/
def TrackerEnv.Allocates (env : TrackerEnv) : Prop :=
  ∀ n, env n .hashElementNew = true ∧ env n .hashElementSetName = true

/-- No call fails. -/
def TrackerEnv.Succeeds (env : TrackerEnv) : Prop := ∀ n call, env n call = true

namespace StateChangesCtx

variable {env : TrackerEnv}

/-- The table is the given one. -/
def Has (hash : StateHash) (ctx : StateChangesCtx) : Prop := ctx.stateHash = hash

theorem run_attempt (env : TrackerEnv) (call : TrackerCall) (ctx : StateChangesCtx) :
    (attempt env call).run ctx = (.ok (env ctx.calls call), { ctx with calls := ctx.calls + 1 }) :=
  rfl

theorem ensures_attempt (call : TrackerCall) (hash : StateHash) :
    Prog.Ensures (Has hash) (attempt env call) fun _ => Has hash := by
  intro ctx a ctx' hctx hrun
  rw [run_attempt] at hrun
  cases hrun
  exact hctx

theorem ensures_checked (call : TrackerCall) (hash : StateHash) :
    Prog.Ensures (Has hash) (checked env call) fun _ => Has hash := by
  refine (ensures_attempt call hash).bind fun succeeded => ?_
  intro ctx a ctx' hctx hrun
  cases succeeded with
  | false => cases hrun
  | true =>
      cases hrun
      exact hctx

theorem run_hashAdd (newElement : InterfaceState) (ctx : StateChangesCtx) :
    (hashAdd newElement).run ctx = match ctx.stateHash.add newElement with
      | some stateHash => (.ok 0, { ctx with stateHash })
      | none => (.ok (-1), ctx) := by
  rw [hashAdd, Prog.run_bind_ok (Prog.run_get ctx)]
  cases ctx.stateHash.add newElement <;> rfl

theorem ensures_initLink (time : Int) (link : RtnlLink) (hash : StateHash) :
    Prog.Ensures (Has hash) (initLink env time link) fun _ => Has (hash.observe time link) := by
  refine (ensures_checked _ hash).bind fun _ => (ensures_checked _ hash).bind fun _ => ?_
  intro ctx a ctx' hctx hrun
  rw [Prog.run_require, run_hashAdd, show ctx.stateHash = hash from hctx] at hrun
  cases hadd : hash.add { name := link.name, state := link.getOperstate, lastChange := time } with
  | none =>
      rw [hadd] at hrun
      cases hrun
  | some hash' =>
      rw [hadd] at hrun
      cases hrun
      exact (StateHash.observe_of_add hadd).symm

/-- The table after the start of the plugin. -/
theorem ensures_init (links : List RtnlLink) (time : Int) {ctx ctx' : StateChangesCtx}
    (h : (interfacesInitStateChangesTracking env links time).run ctx = (.ok 0, ctx')) :
    ctx'.stateHash = links.foldl (StateHash.observe time) .new := by
  rw [interfacesInitStateChangesTracking, Prog.exitCode_eq_zero (by decide)] at h
  have hnew : Prog.Ensures (fun _ => True)
      (Prog.modify fun ctx : StateChangesCtx => { ctx with stateHash := .new })
      fun _ => Has .new := by
    intro ctx a ctx' _ hrun
    cases hrun
    rfl
  have hloop : Prog.Ensures (Has .new) (forM links (initLink env time)) _ :=
    Prog.ensures_forM_foldl (fun link hash => ensures_initLink time link hash) links .new
  have hcall : ∀ call hash, Prog.Ensures (Has hash) (checked env call) fun _ => Has hash :=
    ensures_checked
  have hbody := hnew.bind fun _ => (hcall .nlSocketAlloc _).bind fun _ =>
    (hcall .nlConnect _).bind fun _ =>
    (hcall .rtnlLinkAllocCache _).bind fun _ => (hcall .pthreadMutexInit _).bind fun _ =>
    hloop.bind fun _ => (hcall .nlCacheMngrAlloc _).bind fun _ =>
    (hcall .nlCacheMngrAdd _).bind fun _ =>
    (hcall .pthreadAttrInit _).bind fun _ => (hcall .pthreadAttrSetdetachstate _).bind fun _ =>
    hcall .pthreadCreate _
  exact hbody ctx () ctx' trivial h

theorem ends_checked (hsucc : env.Succeeds) {I : StateChangesCtx → Prop}
    (hI : ∀ (ctx : StateChangesCtx) n, I ctx → I { ctx with calls := n }) (call : TrackerCall) :
    Prog.Ends I (checked env call) fun _ => I := by
  intro ctx hctx
  refine ⟨(), { ctx with calls := ctx.calls + 1 }, ?_, hI ctx _ hctx⟩
  rw [checked, Prog.run_bind_ok (run_attempt ..), hsucc, if_pos rfl]
  rfl

/-- Links of distinct names, none of which the table has. -/
theorem ends_initLinks (hsucc : env.Succeeds) (time : Int) {links : List RtnlLink}
    (hnodup : (links.map RtnlLink.name).Nodup) :
    Prog.Ends (fun ctx => ∀ link ∈ links, ctx.stateHash.get link.name = none)
      (forM links (initLink env time)) fun _ _ => True := by
  induction links with
  | nil => exact Prog.ends_pure fun _ _ => trivial
  | cons link links ih =>
      obtain ⟨hnotMem, hnodup⟩ := List.nodup_cons.mp hnodup
      rw [List.forM_cons]
      refine Prog.Ends.bind ?_ fun _ => ih hnodup
      unfold initLink
      refine (ends_checked hsucc (fun _ _ h => h) _).bind fun _ =>
        (ends_checked hsucc (fun _ _ h => h) _).bind fun _ => ?_
      intro ctx hnone
      obtain ⟨hash', hadd, helements⟩ := StateHash.add_eq_some
        (e := ⟨link.name, link.getOperstate, time⟩) (hnone link List.mem_cons_self)
      have hrun : (hashAdd ⟨link.name, link.getOperstate, time⟩).run ctx =
          (.ok 0, { ctx with stateHash := hash' }) := by
        rw [run_hashAdd, hadd]
      refine ⟨(), _, Prog.run_require_of_zero hrun, fun other hother => ?_⟩
      have hne : other.name ≠ link.name := fun heq => hnotMem (heq ▸ List.mem_map_of_mem hother)
      have hentry := StateHash.entry_add_ne (e := ⟨link.name, link.getOperstate, time⟩) hne
        helements
      have hother' := hnone other (List.mem_cons_of_mem _ hother)
      rw [StateHash.entry, StateHash.entry, hother'] at hentry
      exact Option.map_eq_none_iff.mp hentry

/-- While the calls succeed the plugin starts. -/
theorem run_init_eq_zero (hsucc : env.Succeeds) (time : Int) {links : List RtnlLink}
    (hnodup : (links.map RtnlLink.name).Nodup) (ctx : StateChangesCtx) :
    ∃ ctx', (interfacesInitStateChangesTracking env links time).run ctx = (.ok 0, ctx') := by
  have hcall : ∀ call, Prog.Ends (fun _ => True) (checked env call) fun _ _ => True :=
    fun call => ends_checked hsucc (fun _ _ _ => trivial) call
  have hempty : ∀ call, Prog.Ends (Has .new) (checked env call) fun _ => Has .new :=
    fun call => ends_checked hsucc (fun _ _ h => h) call
  have hnew : Prog.Ends (fun _ => True)
      (Prog.modify fun ctx : StateChangesCtx => { ctx with stateHash := .new })
      fun _ => Has .new := fun ctx _ => ⟨(), _, rfl, rfl⟩
  have hloop : Prog.Ends (Has .new) (forM links (initLink env time)) fun _ _ => True := by
    refine (ends_initLinks hsucc time hnodup).weaken (fun ctx hctx => ?_) fun _ _ => id
    intro link _
    rw [show ctx.stateHash = .new from hctx]
    rfl
  have hbody := hnew.bind fun _ => (hempty .nlSocketAlloc).bind fun _ =>
    (hempty .nlConnect).bind fun _ => (hempty .rtnlLinkAllocCache).bind fun _ =>
    (hempty .pthreadMutexInit).bind fun _ => hloop.bind fun _ =>
    (hcall .nlCacheMngrAlloc).bind fun _ => (hcall .nlCacheMngrAdd).bind fun _ =>
    (hcall .pthreadAttrInit).bind fun _ => (hcall .pthreadAttrSetdetachstate).bind fun _ =>
    hcall .pthreadCreate
  obtain ⟨_, ctx', hrun, -⟩ := hbody ctx trivial
  exact ⟨ctx', (Prog.exitCode_eq_zero (by decide)).mpr hrun⟩

/-- A new link is added. -/
theorem ensures_addNewLink (henv : env.Allocates) (time : Int) (link : RtnlLink)
    {hash : StateHash} (hget : hash.get link.name = none) :
    Prog.Ensures (Has hash) (addNewLink env time link) fun _ => Has (hash.observe time link) := by
  have hsucceeds : ∀ call, (∀ n, env n call = true) →
      Prog.Ensures (Has hash) (attempt env call) fun succeeded ctx =>
        succeeded = true ∧ Has hash ctx := by
    intro call hcall ctx succeeded ctx' hctx hrun
    rw [run_attempt, hcall] at hrun
    cases hrun
    exact ⟨rfl, hctx⟩
  refine (hsucceeds _ fun n => (henv n).1).bind fun succeeded => ?_
  cases succeeded with
  | false =>
      intro ctx a ctx' h
      cases h.1
  | true =>
      rw [if_pos rfl]
      refine Prog.Ensures.bind
        (fun ctx a ctx' h => hsucceeds _ (fun n => (henv n).2) ctx a ctx' h.2) fun succeeded => ?_
      intro ctx a ctx' ⟨hsucceeded, hctx⟩ hrun
      obtain ⟨hash', hadd, -⟩ := StateHash.add_eq_some
        (e := ⟨link.name, link.getOperstate, time⟩) hget
      rw [if_pos hsucceeded, Prog.run_bind, run_hashAdd, show ctx.stateHash = hash from hctx, hadd]
        at hrun
      cases hrun
      exact (StateHash.observe_of_add hadd).symm

theorem ensures_changeLink (henv : env.Allocates) (time : Int) (link : RtnlLink)
    (hash : StateHash) :
    Prog.Ensures (Has hash) (changeLink env time link) fun _ => Has (hash.observe time link) := by
  intro ctx a ctx' hctx hrun
  obtain rfl : ctx.stateHash = hash := hctx
  rw [changeLink, Prog.run_bind_ok (Prog.run_get ctx)] at hrun
  unfold Has StateHash.observe
  cases hget : ctx.stateHash.get link.name with
  | some e =>
      rw [hget] at hrun
      dsimp only at hrun ⊢
      split at hrun
      · next hstate =>
          cases hrun
          rw [if_pos hstate]
      · next hstate =>
          cases hrun
          rw [if_neg hstate]
  | none =>
      rw [hget] at hrun
      have hadded := ensures_addNewLink henv time link hget ctx a ctx' rfl hrun
      unfold Has StateHash.observe at hadded
      rw [hget] at hadded
      exact hadded

/-- No branch of the loop body leaves the callback, whatever the calls return. -/
theorem run_changeLink_ok (env : TrackerEnv) (time : Int) (link : RtnlLink)
    (ctx : StateChangesCtx) : ((changeLink env time link).run ctx).1 = .ok () := by
  have hadd : ∀ e ctx, ∃ code ctx', (hashAdd e).run ctx = (.ok code, ctx') := by
    intro e ctx
    rw [run_hashAdd]
    split
    · exact ⟨_, _, rfl⟩
    · exact ⟨_, _, rfl⟩
  rw [changeLink, Prog.run_bind_ok (Prog.run_get ctx)]
  cases ctx.stateHash.get link.name with
  | some e =>
      dsimp only
      split
      · rfl
      · rfl
  | none =>
      dsimp only
      rw [addNewLink, Prog.run_bind_ok (run_attempt ..)]
      split
      · rw [Prog.run_bind_ok (run_attempt ..)]
        split
        · obtain ⟨code, ctx', hrun⟩ :=
            hadd { name := link.name, state := link.getOperstate, lastChange := time } _
          rw [Prog.run_bind_ok hrun]
          rfl
        · rfl
      · rfl

/-- The callback runs through all the links. -/
theorem run_callback_ok (env : TrackerEnv) (links : List RtnlLink) (time : Int)
    (ctx : StateChangesCtx) :
    ((interfacesLinkCacheChangeCb env links time).run ctx).1 = .ok () := by
  unfold interfacesLinkCacheChangeCb
  induction links generalizing ctx with
  | nil => rfl
  | cons link links ih =>
      have hlink : (changeLink env time link).run ctx = (.ok (), _) :=
        Prod.ext (run_changeLink_ok env time link ctx) rfl
      rw [List.forM_cons, Prog.run_bind_ok hlink]
      exact ih _

/-- The table after a change of the link cache. -/
theorem stateHash_callback (henv : env.Allocates) (links : List RtnlLink) (time : Int)
    (ctx : StateChangesCtx) :
    ((interfacesLinkCacheChangeCb env links time).run ctx).2.stateHash =
      links.foldl (StateHash.observe time) ctx.stateHash :=
  Prog.ensures_forM_foldl (fun link hash => ensures_changeLink henv time link hash) links
    ctx.stateHash ctx () _ rfl (Prod.ext (run_callback_ok env links time ctx) rfl)

end StateChangesCtx

/-! ## snapshots -/

/-- The link cache at one call, and the clock. -/
structure Snapshot where
  time : Int
  links : List RtnlLink
  names : (links.map RtnlLink.name).Nodup

/-- The state of a name, if there is such a link. -/
def Snapshot.stateOf (snapshot : Snapshot) (name : String) : Option UInt8 :=
  (Keyed.lookup RtnlLink.name name snapshot.links).map RtnlLink.getOperstate

/-- What the history shows of a name. -/
def sightings (history : List Snapshot) (name : String) : List (Int × Option UInt8) :=
  history.map fun snapshot => (snapshot.time, snapshot.stateOf name)

theorem sightings_concat (history : List Snapshot) (snapshot : Snapshot) (name : String) :
    sightings (history ++ [snapshot]) name =
      sightings history name ++ [(snapshot.time, snapshot.stateOf name)] := by
  rw [sightings, List.map_append]
  rfl

/-- Links with distinct names: the entry of a name sees at most one of them. -/
theorem StateHash.entry_foldl_observe (time : Int) {links : List RtnlLink}
    (hnodup : (links.map RtnlLink.name).Nodup) (hash : StateHash) (name : String) :
    (links.foldl (StateHash.observe time) hash).entry name =
      LastChange.track (hash.entry name)
        (time, (Keyed.lookup RtnlLink.name name links).map RtnlLink.getOperstate) := by
  induction links generalizing hash with
  | nil => rfl
  | cons link links ih =>
      obtain ⟨hnotMem, hnodup⟩ := List.nodup_cons.mp hnodup
      rw [List.foldl_cons, ih hnodup, Keyed.lookup_cons]
      by_cases hname : link.name = name
      · subst hname
        have hnone : Keyed.lookup RtnlLink.name link.name links = none :=
          Keyed.lookup_eq_none_iff.mpr hnotMem
        rw [if_pos rfl, hnone, entry_observe_self]
        rfl
      · rw [if_neg hname, entry_observe_ne time hash (Ne.symm hname)]

/-- Runs of the tracking: the start on a first snapshot, then one call of the
callback for each further one. -/
inductive TrackerRun (env : TrackerEnv) : List Snapshot → StateChangesCtx → Prop
  | init {ctx ctx' : StateChangesCtx} {snapshot : Snapshot}
      (h : (StateChangesCtx.interfacesInitStateChangesTracking env snapshot.links
        snapshot.time).run ctx = (.ok 0, ctx')) : TrackerRun env [snapshot] ctx'
  | callback {history : List Snapshot} {ctx : StateChangesCtx} (snapshot : Snapshot)
      (hrun : TrackerRun env history ctx) : TrackerRun env (history ++ [snapshot])
        ((StateChangesCtx.interfacesLinkCacheChangeCb env snapshot.links snapshot.time).run ctx).2

/-- Every entry of the table follows what the history shows of its name. -/
theorem TrackerRun.entry_eq {env : TrackerEnv} (henv : env.Allocates) {history : List Snapshot}
    {ctx : StateChangesCtx} (hrun : TrackerRun env history ctx) (name : String) :
    ctx.stateHash.entry name = (sightings history name).foldl LastChange.track none := by
  induction hrun with
  | @init ctx ctx' snapshot h =>
      have hhash := StateChangesCtx.ensures_init snapshot.links snapshot.time h
      rw [hhash, StateHash.entry_foldl_observe snapshot.time snapshot.names]
      rfl
  | @callback history ctx snapshot hrun ih =>
      rw [StateChangesCtx.stateHash_callback henv, StateHash.entry_foldl_observe snapshot.time
        snapshot.names, ih, sightings_concat, List.foldl_append]
      rfl

/-- A run takes every snapshot. -/
theorem trackerRun_exists {env : TrackerEnv} (hsucc : env.Succeeds) (first : Snapshot)
    (later : List Snapshot) : ∃ ctx, TrackerRun env (first :: later) ctx := by
  induction later using List.reverseRecOn with
  | nil =>
      obtain ⟨ctx, hrun⟩ :=
        StateChangesCtx.run_init_eq_zero hsucc first.time first.names {}
      exact ⟨ctx, .init hrun⟩
  | append_singleton later snapshot ih =>
      obtain ⟨ctx, hrun⟩ := ih
      exact ⟨_, .callback snapshot hrun⟩

section Runs

variable {env : TrackerEnv} {history : List Snapshot} {ctx : StateChangesCtx}

theorem entry_eq_some {hash : StateHash} {name : String} {e : InterfaceState}
    (h : hash.get name = some e) : hash.entry name = some (e.state, e.lastChange) := by
  rw [StateHash.entry, h]
  rfl

/-- An entry has the time of the last change of its name. -/
theorem TrackerRun.lastChange_eq (henv : env.Allocates) (hrun : TrackerRun env history ctx)
    {name : String} {e : InterfaceState} (h : ctx.stateHash.get name = some e) :
    ∃ i snapshot, history[i]? = some snapshot ∧ e.lastChange = snapshot.time ∧
      LastChange.LastChangedAt (sightings history name) i := by
  have hentry := (hrun.entry_eq henv name).symm.trans (entry_eq_some h)
  obtain ⟨i, hi, htime⟩ := LastChange.foldl_track_eq_some hentry
  rw [sightings, List.getElem?_map] at htime
  cases hsnapshot : history[i]? with
  | none =>
      rw [hsnapshot] at htime
      cases htime
  | some snapshot =>
      rw [hsnapshot] at htime
      exact ⟨i, snapshot, hsnapshot, (Option.some.inj htime).symm, hi⟩

/-- After every step the names of the table are distinct, and every link of the
current snapshot has an entry with its state and the time of the last snapshot
in which the link is new or shows another state than in the one before with it. -/
theorem TrackerRun.tracks_present (henv : env.Allocates) (hrun : TrackerRun env history ctx) :
    (ctx.stateHash.elements.map InterfaceState.name).Nodup ∧
      ∀ current, history.getLast? = some current → ∀ link ∈ current.links,
        ∃ e, ctx.stateHash.get link.name = some e ∧ e.state = link.getOperstate ∧
          ∃ i snapshot, history[i]? = some snapshot ∧ e.lastChange = snapshot.time ∧
            LastChange.LastChangedAt (sightings history link.name) i := by
  refine ⟨ctx.stateHash.names, fun current hlast link hmem => ?_⟩
  obtain ⟨earlier, rfl⟩ := List.getLast?_eq_some_iff.mp hlast
  have hstate : current.stateOf link.name = some link.getOperstate := by
    rw [Snapshot.stateOf, Keyed.lookup_of_mem current.names hmem]
    rfl
  have hseen : (ctx.stateHash.entry link.name).map Prod.fst = some link.getOperstate := by
    rw [hrun.entry_eq henv, LastChange.map_fst_foldl_track, sightings_concat,
      LastChange.lastSeen_concat, hstate]
    rfl
  cases hget : ctx.stateHash.get link.name with
  | none =>
      rw [StateHash.entry, hget] at hseen
      cases hseen
  | some e =>
      rw [entry_eq_some hget] at hseen
      exact ⟨e, rfl, Option.some.inj hseen, hrun.lastChange_eq henv hget⟩

/-- The tracking is exact on the links that are present, whatever becomes of the
calls that a run does not need; and while all calls succeed there is a run for
every sequence of snapshots. -/
theorem tracker_exact (henv : env.Allocates) :
    (∀ history ctx, TrackerRun env history ctx →
      (ctx.stateHash.elements.map InterfaceState.name).Nodup ∧
        ∀ current, history.getLast? = some current → ∀ link ∈ current.links,
          ∃ e, ctx.stateHash.get link.name = some e ∧ e.state = link.getOperstate ∧
            ∃ i snapshot, history[i]? = some snapshot ∧ e.lastChange = snapshot.time ∧
              LastChange.LastChangedAt (sightings history link.name) i) ∧
    (env.Succeeds → ∀ first later, ∃ ctx, TrackerRun env (first :: later) ctx) :=
  ⟨fun _ _ hrun => hrun.tracks_present henv, fun hsucc first later =>
    trackerRun_exists hsucc first later⟩

/-! ## links that are removed -/

/-- A name is in the table once it has been in a snapshot. -/
theorem TrackerRun.mem_names_iff (henv : env.Allocates) (hrun : TrackerRun env history ctx)
    (name : String) : name ∈ ctx.stateHash.elements.map InterfaceState.name ↔
      ∃ snapshot ∈ history, name ∈ snapshot.links.map RtnlLink.name := by
  have hseen : (ctx.stateHash.entry name).map Prod.fst =
      LastChange.lastSeen (sightings history name) := by
    rw [hrun.entry_eq henv, LastChange.map_fst_foldl_track]
  have hnone : ctx.stateHash.entry name = none ↔ ∀ snapshot ∈ history,
      snapshot.stateOf name = none := by
    rw [← Option.map_eq_none_iff, hseen, LastChange.lastSeen, List.getLast?_eq_none_iff,
      List.filterMap_eq_nil_iff]
    simp [sightings]
  have hget : ctx.stateHash.entry name = none ↔
      name ∉ ctx.stateHash.elements.map InterfaceState.name := by
    rw [StateHash.entry, Option.map_eq_none_iff, StateHash.get_eq_none_iff]
  have hlinks : ∀ snapshot : Snapshot, snapshot.stateOf name = none ↔
      name ∉ snapshot.links.map RtnlLink.name := by
    intro snapshot
    rw [Snapshot.stateOf, Option.map_eq_none_iff, Keyed.lookup_eq_none_iff]
  rw [← not_iff_not, ← hget, hnone]
  simp only [hlinks, not_exists, not_and]

/-- The last change is not earlier than a snapshot if the link has changed in it
or since. -/
theorem TrackerRun.time_le_lastChange (henv : env.Allocates) (hrun : TrackerRun env history ctx)
    (htimes : history.Pairwise fun s t => s.time ≤ t.time) {name : String} {e : InterfaceState}
    (h : ctx.stateHash.get name = some e) {k i : Nat} {since : Snapshot}
    (hsince : history[k]? = some since) (hle : k ≤ i)
    (hchanged : LastChange.ChangedAt (sightings history name) i) : since.time ≤ e.lastChange := by
  obtain ⟨j, snapshot, hsnapshot, htime, hlast⟩ := hrun.lastChange_eq henv h
  have hij : i ≤ j := by
    by_contra hlt
    exact hlast.2 i (by omega) hchanged
  obtain ⟨hk, rfl⟩ := List.getElem?_eq_some_iff.mp hsince
  obtain ⟨hj, rfl⟩ := List.getElem?_eq_some_iff.mp hsnapshot
  rw [htime]
  rcases Nat.lt_or_eq_of_le (Nat.le_trans hle hij) with hlt | rfl
  · exact List.pairwise_iff_getElem.mp htimes k j hk hj hlt
  · exact Int.le_refl _

/-- What a removed link leaves behind: the table has the names of all the
snapshots so far, and the last change of a link that is back is not earlier
than the snapshot it is back in, if its state has changed in that snapshot or
since; else it is what it was before. -/
theorem TrackerRun.keeps_removed (henv : env.Allocates) (hrun : TrackerRun env history ctx)
    (htimes : history.Pairwise fun s t => s.time ≤ t.time) :
    (∀ name, name ∈ ctx.stateHash.elements.map InterfaceState.name ↔
      ∃ snapshot ∈ history, name ∈ snapshot.links.map RtnlLink.name) ∧
    ∀ before reappearance later, history = before ++ reappearance :: later →
      ∀ name e, ctx.stateHash.get name = some e →
        ((∃ i, before.length ≤ i ∧ LastChange.ChangedAt (sightings history name) i) →
          reappearance.time ≤ e.lastChange) ∧
        ((¬ ∃ i, before.length ≤ i ∧ LastChange.ChangedAt (sightings history name) i) →
          ∀ ctx₀ e₀, TrackerRun env before ctx₀ → ctx₀.stateHash.get name = some e₀ →
            e.lastChange = e₀.lastChange) := by
  refine ⟨hrun.mem_names_iff henv, fun before reappearance later hsplit name e h => ⟨?_, ?_⟩⟩
  · rintro ⟨i, hle, hchanged⟩
    have hsince : history[before.length]? = some reappearance := by
      rw [hsplit, List.getElem?_append_right (Nat.le_refl _), Nat.sub_self]
      rfl
    exact hrun.time_le_lastChange henv htimes h hsince hle hchanged
  · intro hnone ctx₀ e₀ hbefore h₀
    have hentry₀ := (hbefore.entry_eq henv name).symm.trans (entry_eq_some h₀)
    have hentry := (hrun.entry_eq henv name).symm.trans (entry_eq_some h)
    have happend : sightings history name =
        sightings before name ++ sightings (reappearance :: later) name := by
      rw [sightings, hsplit, List.map_append]
      rfl
    rw [happend] at hentry hnone
    refine LastChange.snd_foldl_track_append hentry₀ hentry fun i hle hchanged => ?_
    rw [sightings, List.length_map] at hle
    exact hnone ⟨i, hle, hchanged⟩

end Runs

/-! ## links that come and go -/

def allocating : TrackerEnv := fun _ _ => true

def eth0Up : RtnlLink where
  ifindex := 2
  name := "eth0"
  operstate := IF_OPER_UP

def upAt (time : Int) : Snapshot where
  time
  links := [eth0Up]
  names := by decide

def goneAt (time : Int) : Snapshot where
  time
  links := []
  names := by decide

/-- `eth0` is down, and there is another link. -/
def downAt (time : Int) : Snapshot where
  time
  links := [{ eth0Up with operstate := IF_OPER_DOWN },
    { ifindex := 3, name := "eth1", operstate := IF_OPER_UP }]
  names := by decide

/-- The context after the start, and after one call of the callback. -/
def startCtx (snapshot : Snapshot) : StateChangesCtx :=
  ((StateChangesCtx.interfacesInitStateChangesTracking allocating snapshot.links
    snapshot.time).run {}).2

def StateChangesCtx.see (ctx : StateChangesCtx) (snapshot : Snapshot) : StateChangesCtx :=
  ((interfacesLinkCacheChangeCb allocating snapshot.links snapshot.time).run ctx).2

/-- The context after `eth0` was up at 100, after it was gone at 200, and after
it was up again at 300. -/
def upCtx : StateChangesCtx := startCtx (upAt 100)

def goneCtx : StateChangesCtx := upCtx.see (goneAt 200)

def backCtx : StateChangesCtx := goneCtx.see (upAt 300)

theorem run_upCtx : TrackerRun allocating [upAt 100] upCtx :=
  .init (show (StateChangesCtx.interfacesInitStateChangesTracking allocating (upAt 100).links
    (upAt 100).time).run {} = (.ok 0, upCtx) by decide +kernel)

theorem run_goneCtx : TrackerRun allocating [upAt 100, goneAt 200] goneCtx :=
  .callback (goneAt 200) run_upCtx

theorem run_backCtx : TrackerRun allocating [upAt 100, goneAt 200, upAt 300] backCtx :=
  .callback (upAt 300) run_goneCtx

/-- `eth0` goes down at 200, when `eth1` is new, and is up again at 300, when
`eth1` is gone; at 400 both are as they were at 200. -/
def changedHistory : List Snapshot := [upAt 100, downAt 200, upAt 300, downAt 400]

def changedCtx : StateChangesCtx := ((upCtx.see (downAt 200)).see (upAt 300)).see (downAt 400)

theorem run_changedCtx : TrackerRun allocating changedHistory changedCtx :=
  .callback (downAt 400) (.callback (upAt 300) (.callback (downAt 200) run_upCtx))

/-- `eth0` has changed at 400, `eth1` at 200. -/
theorem tracker_exact_changedCtx :
    ((changedCtx.stateHash.elements.map InterfaceState.name).Nodup ∧
      ∀ current, changedHistory.getLast? = some current →
        ∀ link ∈ current.links,
          ∃ e, changedCtx.stateHash.get link.name = some e ∧ e.state = link.getOperstate ∧
            ∃ i snapshot, changedHistory[i]? = some snapshot ∧ e.lastChange = snapshot.time ∧
              LastChange.LastChangedAt (sightings changedHistory link.name) i) ∧
    changedCtx.stateHash.entry "eth0" = some (UInt8.ofNat IF_OPER_DOWN, 400) ∧
    changedCtx.stateHash.entry "eth1" = some (UInt8.ofNat IF_OPER_UP, 200) :=
  ⟨(tracker_exact (fun _ => ⟨rfl, rfl⟩)).1 _ _ run_changedCtx, by decide +kernel,
    by decide +kernel⟩

/-- The context in which `eth0` comes back down instead. -/
def backDownCtx : StateChangesCtx := goneCtx.see (downAt 300)

theorem run_backDownCtx : TrackerRun allocating [upAt 100, goneAt 200, downAt 300] backDownCtx :=
  .callback (downAt 300) run_goneCtx

/-- `eth0` is removed; it comes back in another state, and in the one it had. -/
theorem keeps_removed_back :
    (∀ e, backDownCtx.stateHash.get "eth0" = some e → 300 ≤ e.lastChange) ∧
      ∀ e e₀, backCtx.stateHash.get "eth0" = some e → goneCtx.stateHash.get "eth0" = some e₀ →
        e.lastChange = e₀.lastChange := by
  obtain ⟨-, hdown⟩ := TrackerRun.keeps_removed (fun _ => ⟨rfl, rfl⟩) run_backDownCtx (by decide)
  obtain ⟨-, hup⟩ := TrackerRun.keeps_removed (fun _ => ⟨rfl, rfl⟩) run_backCtx (by decide)
  constructor
  · intro e he
    refine (hdown [upAt 100, goneAt 200] (downAt 300) [] rfl "eth0" e he).1
      ⟨2, Nat.le_refl 2, 300, UInt8.ofNat IF_OPER_DOWN, by decide +kernel, by decide +kernel⟩
  · intro e e₀ he he₀
    refine (hup [upAt 100, goneAt 200] (upAt 300) [] rfl "eth0" e he).2 ?_ goneCtx e₀ run_goneCtx
      he₀
    rintro ⟨i, hi, t, a, hget, hne⟩
    have hlt := (List.getElem?_eq_some_iff.mp hget).1
    have hlength : (sightings [upAt 100, goneAt 200, upAt 300] "eth0").length = 3 := rfl
    obtain rfl : i = 2 := by
      simp only [List.length_cons, List.length_nil] at hi
      omega
    have hlast : (sightings [upAt 100, goneAt 200, upAt 300] "eth0")[2]? =
        some (300, LastChange.lastSeen
          ((sightings [upAt 100, goneAt 200, upAt 300] "eth0").take 2)) := by decide +kernel
    rw [hlast] at hget
    exact hne (congrArg Prod.snd (Option.some.inj hget))

/-- The table keeps `eth0` while there is no such link, and gives the link that
takes its place the last change of the old one. -/
theorem goneCtx_keeps_entry :
    TrackerRun allocating [upAt 100, goneAt 200] goneCtx ∧
      goneCtx.stateHash.elements.map InterfaceState.name = ["eth0"] ∧ (goneAt 200).links = [] ∧
      TrackerRun allocating [upAt 100, goneAt 200, upAt 300] backCtx ∧
      (backCtx.stateHash.get "eth0").map InterfaceState.lastChange = some 100 ∧
      (100 : Int) < (upAt 300).time :=
  ⟨run_goneCtx, by decide +kernel, rfl, run_backCtx, by decide +kernel, by decide⟩

end SysrepoInterfaces.Interfaces
