import Mathlib.Logic.Relation
import SysrepoInterfaces.Interfaces.StateTracker
import SysrepoInterfaces.Lib.Mutex

/-!
# SysrepoInterfaces.Interfaces.StateMutex

The two parties that share the table of states and its mutex: the thread of the
link manager, which runs `interfaces_link_cache_change_cb`, and the requests
for `last-change`, each of which may fail at any of its calls.
-/

namespace SysrepoInterfaces.Interfaces

/-! ## the parties -/

inductive Thread where
  | manager
  | request (n : Nat)
deriving DecidableEq, Repr

/-- Where the link manager is: between two calls of the callback, or in one,
with the links it has not got to yet. -/
inductive ManagerPc where
  | idle
  | updating (links : List RtnlLink) (time : Int)

/-- One request for `last-change`: the name of its link, and the outcomes of
its calls. -/
structure LastChangeRequest where
  name : String
  lydPath : Bool := true
  getCurrentLink : Bool := true
  strftime : Bool := true
  createNode : Bool := true

/-- What a request does next; at `out` it unlocks, whether it has locked the
mutex or not. -/
inductive RequestPc where
  | lydPath
  | getCurrentLink
  | lock
  | hashGet
  | strftime (lastChange : Int)
  | createNode (lastChange : Int)
  | out (locked : Bool) (error : Int)
  | returned (error : Int)
deriving DecidableEq

/-- The calls of
`interfaces_subscription_operational_interfaces_interface_last_change`. -/
def RequestPc.next (request : LastChangeRequest) (hash : StateHash) : RequestPc → RequestPc
  | .lydPath => if request.lydPath then .getCurrentLink else .out false SR_ERR_CALLBACK_FAILED
  | .getCurrentLink => if request.getCurrentLink then .lock else .out false SR_ERR_CALLBACK_FAILED
  | .hashGet =>
      match hash.get request.name with
      | some stateElement => .strftime stateElement.lastChange
      | none => .out true SR_ERR_CALLBACK_FAILED
  | .strftime lastChange =>
      if request.strftime then .createNode lastChange else .out true SR_ERR_CALLBACK_FAILED
  | .createNode _ =>
      if request.createNode then .out true SR_ERR_OK else .out true SR_ERR_CALLBACK_FAILED
  -- not a call
  | .lock => .lock
  | .out locked error => .out locked error
  | .returned error => .returned error

/-- The next step is a call that leaves the mutex alone. -/
def RequestPc.isCall : RequestPc → Bool
  | .lock | .out _ _ | .returned _ => false
  | _ => true

/-- Between the lock and the unlock. -/
def RequestPc.isInside : RequestPc → Bool
  | .hashGet | .strftime _ | .createNode _ | .out true _ => true
  | _ => false

/-! ## the system -/

structure System where
  hash : StateHash
  /-- who has locked `state_hash_mutex` -/
  holder : Option Thread := none
  manager : ManagerPc := .idle
  requests : Nat → RequestPc := fun _ => .lydPath

/-- One request moves on. -/
def System.setRequest (s : System) (n : Nat) (pc : RequestPc) : System :=
  { s with requests := Function.update s.requests n pc }

inductive Action where
  | lock (thread : Thread)
  | unlock (thread : Thread)
  | call
deriving DecidableEq

/-- One step of one thread. -/
inductive System.Step (env : Nat → LastChangeRequest) : Action → System → System → Prop
  | managerLock {s : System} (links : List RtnlLink) (time : Int) (hpc : s.manager = .idle)
      (hfree : s.holder = none) : Step env (.lock .manager) s
        { s with holder := some .manager, manager := .updating links time }
  -- a link whose element cannot be allocated is left out
  | managerLink {s : System} {link : RtnlLink} {links : List RtnlLink} {time : Int}
      {hash : StateHash} (hpc : s.manager = .updating (link :: links) time)
      (hhash : hash = s.hash.observe time link ∨ hash = s.hash) : Step env .call s
        { s with hash, manager := .updating links time }
  | managerUnlock {s : System} {time : Int} (hpc : s.manager = .updating [] time) :
      Step env (.unlock .manager) s { s with holder := none, manager := .idle }
  | requestCall {s : System} (n : Nat) (hpc : (s.requests n).isCall) : Step env .call s
      (s.setRequest n ((s.requests n).next (env n) s.hash))
  | requestLock {s : System} {n : Nat} (hpc : s.requests n = .lock) (hfree : s.holder = none) :
      Step env (.lock (.request n)) s
        { s.setRequest n .hashGet with holder := some (.request n) }
  | requestUnlock {s : System} {n : Nat} {locked : Bool} {error : Int}
      (hpc : s.requests n = .out locked error) : Step env (.unlock (.request n)) s
        { s.setRequest n (.returned error) with holder := none }

/-- Every interleaving, from a table with no one at work on it. -/
def System.Reachable (env : Nat → LastChangeRequest) (hash : StateHash) (s : System) : Prop :=
  Relation.ReflTransGen (fun s s' => ∃ action, Step env action s s') { hash } s

/-- A thread is between its lock and its unlock. -/
def System.Inside (s : System) : Thread → Prop
  | .manager => ∃ links time, s.manager = .updating links time
  | .request n => (s.requests n).isInside

/-- No two threads are inside, and none can unlock the mutex of another. -/
def System.Safe (env : Nat → LastChangeRequest) (s : System) : Prop :=
  (∀ p q, s.Inside p → s.Inside q → p = q) ∧
    ∀ p s', Step env (.unlock p) s s' → ∀ q, s.holder = some q → q = p

/-- The mutex, and who is between a lock and an unlock. -/
def System.mutex (s : System) : Mutex Thread where
  holder := s.holder
  inside := { p | s.Inside p }

section Steps

variable {env : Nat → LastChangeRequest} {s s' : System} {p : Thread}

/-! ## what a step does to the mutex -/

theorem inside_manager (s : System) :
    s.Inside .manager ↔ ∃ links time, s.manager = .updating links time := Iff.rfl

theorem inside_request (s : System) (n : Nat) :
    s.Inside (.request n) ↔ (s.requests n).isInside := Iff.rfl

/-- A call neither enters nor leaves. -/
theorem isInside_next {pc : RequestPc} (hpc : pc.isCall) (request : LastChangeRequest)
    (hash : StateHash) : (pc.next request hash).isInside = pc.isInside := by
  cases pc with
  | lydPath => cases h : request.lydPath <;> simp [RequestPc.next, RequestPc.isInside, h]
  | getCurrentLink =>
      cases h : request.getCurrentLink <;> simp [RequestPc.next, RequestPc.isInside, h]
  | hashGet => cases h : hash.get request.name <;> simp [RequestPc.next, RequestPc.isInside, h]
  | strftime lastChange =>
      cases h : request.strftime <;> simp [RequestPc.next, RequestPc.isInside, h]
  | createNode lastChange =>
      cases h : request.createNode <;> simp [RequestPc.next, RequestPc.isInside, h]
  | lock => cases hpc
  | out locked error => cases hpc
  | returned error => cases hpc

/-- The threads inside after one of the requests has moved. -/
theorem inside_setRequest (s : System) (n : Nat) (pc : RequestPc) (q : Thread) :
    (s.setRequest n pc).Inside q ↔
      if q = .request n then pc.isInside = true else s.Inside q := by
  cases q with
  | manager => simp [inside_manager, System.setRequest]
  | request k =>
      rw [inside_request, System.setRequest]
      by_cases hk : k = n
      · subst hk
        simp
      · simp [hk, inside_request]

theorem mutex_lock (h : System.Step env (.lock p) s s') :
    s.holder = none ∧ s'.mutex = s.mutex.lock p := by
  cases h with
  | managerLock links time hpc hfree =>
      refine ⟨hfree, Mutex.ext rfl ?_⟩
      ext q
      cases q <;> simp [System.mutex, Mutex.lock, inside_manager, inside_request]
  | @requestLock _ n hpc hfree =>
      refine ⟨hfree, Mutex.ext rfl ?_⟩
      ext q
      have hinside := inside_setRequest s n .hashGet q
      by_cases hq : q = .request n
      · rw [if_pos hq] at hinside
        exact ⟨fun _ => .inl hq, fun _ => hinside.mpr rfl⟩
      · rw [if_neg hq] at hinside
        exact ⟨fun h => .inr (hinside.mp h), fun h => hinside.mpr (h.resolve_left hq)⟩

theorem mutex_unlock (h : System.Step env (.unlock p) s s') :
    s'.mutex = s.mutex.unlock p := by
  cases h with
  | managerUnlock hpc =>
      refine Mutex.ext rfl ?_
      ext q
      cases q <;> simp [System.mutex, Mutex.unlock, inside_manager, inside_request]
  | @requestUnlock _ n locked error hpc =>
      refine Mutex.ext rfl ?_
      ext q
      have hinside := inside_setRequest s n (.returned error) q
      by_cases hq : q = .request n
      · rw [if_pos hq] at hinside
        exact ⟨fun h => absurd (hinside.mp h) Bool.false_ne_true, fun h => absurd hq h.2⟩
      · rw [if_neg hq] at hinside
        exact ⟨fun h => ⟨hinside.mp h, hq⟩, fun h => hinside.mpr h.1⟩

theorem mutex_call (h : System.Step env .call s s') : s'.mutex = s.mutex := by
  cases h with
  | managerLink hpc hhash =>
      refine Mutex.ext rfl ?_
      ext q
      cases q <;> simp [System.mutex, inside_manager, inside_request, hpc]
  | requestCall n hpc =>
      refine Mutex.ext rfl ?_
      ext q
      have hinside := inside_setRequest s n ((s.requests n).next (env n) s.hash) q
      by_cases hq : q = .request n
      · rw [if_pos hq, isInside_next hpc] at hinside
        subst hq
        exact hinside
      · rw [if_neg hq] at hinside
        exact hinside

/-! ## who unlocks -/

/-- No request is about to unlock what it has not locked. -/
def System.Balanced (s : System) : Prop :=
  ∀ n locked error, s.requests n = .out locked error → locked = true

/-- No request fails before its lock. -/
def LastChangeRequest.LocksFirst (request : LastChangeRequest) : Prop :=
  request.lydPath = true ∧ request.getCurrentLink = true

theorem balanced_setRequest (h : s.Balanced) {n : Nat} {pc : RequestPc}
    (hpc : ∀ locked error, pc = .out locked error → locked = true) :
    (s.setRequest n pc).Balanced := by
  intro k locked error hk
  by_cases hkn : k = n
  · subst hkn
    simp only [System.setRequest, Function.update_self] at hk
    exact hpc locked error hk
  · simp only [System.setRequest, Function.update_of_ne hkn] at hk
    exact h k locked error hk

/-- The calls after the lock lead to a balanced exit. -/
theorem next_balanced {request : LastChangeRequest} (hfirst : request.LocksFirst)
    {pc : RequestPc} (hpc : pc.isCall) (hash : StateHash) (locked : Bool) (error : Int)
    (h : pc.next request hash = .out locked error) : locked = true := by
  obtain ⟨hlydPath, hgetCurrentLink⟩ := hfirst
  cases pc with
  | lydPath => simp [RequestPc.next, hlydPath] at h
  | getCurrentLink => simp [RequestPc.next, hgetCurrentLink] at h
  | hashGet => cases hget : hash.get request.name <;> simp_all [RequestPc.next]
  | strftime lastChange => cases hs : request.strftime <;> simp_all [RequestPc.next]
  | createNode lastChange => cases hc : request.createNode <;> simp_all [RequestPc.next]
  | lock => cases hpc
  | out locked error => cases hpc
  | returned error => cases hpc

theorem Balanced.step (hfirst : ∀ n, (env n).LocksFirst) (h : s.Balanced) {action : Action}
    (hstep : System.Step env action s s') : s'.Balanced := by
  cases hstep with
  | managerLock links time hpc hfree => exact h
  | managerLink hpc hhash => exact h
  | managerUnlock hpc => exact h
  | requestCall n hpc => exact balanced_setRequest h (next_balanced (hfirst n) hpc s.hash)
  | requestLock hpc hfree => exact balanced_setRequest h fun _ _ heq => by cases heq
  | requestUnlock hpc => exact balanced_setRequest h fun _ _ heq => by cases heq

/-- A thread that unlocks in a balanced state is inside. -/
theorem inside_of_unlock (h : s.Balanced) (hstep : System.Step env (.unlock p) s s') :
    s.Inside p := by
  cases hstep with
  | managerUnlock hpc => exact ⟨_, _, hpc⟩
  | requestUnlock hpc =>
      obtain rfl := h _ _ _ hpc
      rw [inside_request, hpc]
      rfl

/-! ## every interleaving -/

theorem exact_step (hbalanced : s.Balanced) (h : s.mutex.Exact) {action : Action}
    (hstep : System.Step env action s s') : s'.mutex.Exact := by
  cases action with
  | lock thread =>
      obtain ⟨hfree, hmutex⟩ := mutex_lock hstep
      rw [hmutex]
      exact h.lock hfree
  | unlock thread =>
      rw [mutex_unlock hstep]
      exact h.unlock (inside_of_unlock hbalanced hstep)
  | call =>
      rw [mutex_call hstep]
      exact h

theorem invariant_of_reachable (hfirst : ∀ n, (env n).LocksFirst) {hash : StateHash}
    (h : System.Reachable env hash s) : s.Balanced ∧ s.mutex.Exact := by
  induction h with
  | refl =>
      have hfree : System.mutex { hash } = Mutex.free := by
        refine Mutex.ext rfl (Set.eq_empty_of_forall_notMem fun p => ?_)
        cases p <;> simp [System.mutex, inside_manager, inside_request, RequestPc.isInside]
      refine ⟨?_, hfree ▸ Mutex.exact_free⟩
      intro n locked error h
      cases h
  | tail _ hstep ih =>
      obtain ⟨action, hstep⟩ := hstep
      exact ⟨Balanced.step hfirst ih.1 hstep, exact_step ih.1 ih.2 hstep⟩

theorem safe_of_invariant (hbalanced : s.Balanced) (h : s.mutex.Exact) : s.Safe env := by
  refine ⟨fun p q hp hq => h.eq_of_mem hp hq, fun p s' hstep q hq => ?_⟩
  have hp : p ∈ s.mutex.inside := inside_of_unlock hbalanced hstep
  have hholder := (h p).mp hp
  rw [show s.mutex.holder = s.holder from rfl, hq] at hholder
  exact Option.some.inj hholder

theorem reachable_step {hash : StateHash} {action : Action} (h : System.Reachable env hash s)
    (hstep : System.Step env action s s') : System.Reachable env hash s' := h.tail ⟨action, hstep⟩

/-- A call of a request, as a step to a given state. -/
theorem reachable_call {hash : StateHash} (h : System.Reachable env hash s) (n : Nat)
    (pc : RequestPc) (hpc : s.requests n = pc) (hcall : pc.isCall) :
    System.Reachable env hash (s.setRequest n (pc.next (env n) s.hash)) := by
  subst hpc
  exact reachable_step h (.requestCall n hcall)

/-- While the link manager is inside, a request that fails before its lock gets
to its unlock. -/
theorem reachable_unlock_of_failure (hash : StateHash) {n : Nat} (hfails : ¬ (env n).LocksFirst) :
    ∃ s, System.Reachable env hash s ∧ s.holder = some .manager ∧
      s.requests n = .out false SR_ERR_CALLBACK_FAILED := by
  have hstart : System.Reachable env hash { hash } := .refl
  have hlocked := reachable_step hstart (.managerLock [] 0 rfl rfl)
  have hfirst := reachable_call hlocked n .lydPath rfl rfl
  cases hlyd : (env n).lydPath with
  | false =>
      refine ⟨_, hfirst, rfl, ?_⟩
      simp [System.setRequest, RequestPc.next, hlyd]
  | true =>
      have hlink : (env n).getCurrentLink = false := by
        by_contra hne
        exact hfails ⟨hlyd, by simpa using hne⟩
      have hsecond := reachable_call hfirst n .getCurrentLink
        (by simp [System.setRequest, RequestPc.next, hlyd]) rfl
      refine ⟨_, hsecond, rfl, ?_⟩
      simp [System.setRequest, RequestPc.next, hlink]

/-- Every interleaving keeps the threads apart if and only if no request fails
before it has taken the mutex. -/
theorem reachable_safe_iff (env : Nat → LastChangeRequest) (hash : StateHash) :
    (∀ s, System.Reachable env hash s → s.Safe env) ↔ ∀ n, (env n).LocksFirst := by
  constructor
  · intro hsafe n
    by_contra hfails
    obtain ⟨s, hreachable, hholder, hpc⟩ := reachable_unlock_of_failure hash hfails
    have hsame := (hsafe s hreachable).2 _ _ (.requestUnlock hpc) _ hholder
    cases hsame
  · intro hfirst s hreachable
    obtain ⟨hbalanced, hexact⟩ := invariant_of_reachable hfirst hreachable
    exact safe_of_invariant hbalanced hexact

end Steps

/-! ## a request for a link that is gone -/

/-- The first request finds no link, the others all there is. -/
def oneMissingLink : Nat → LastChangeRequest
  | 0 => { name := "eth9", getCurrentLink := false }
  | _ => { name := "eth0" }

/-- The failing request unlocks the mutex of the link manager, and the next one
enters the table next to it. -/
theorem oneMissingLink_two_inside :
    ∃ s, System.Reachable oneMissingLink .new s ∧ s.Inside .manager ∧ s.Inside (.request 1) := by
  have hstart : System.Reachable oneMissingLink .new { hash := .new } := .refl
  have hmanager := reachable_step hstart (.managerLock [eth0Up] 300 rfl rfl)
  have hpath := reachable_call hmanager 0 .lydPath rfl rfl
  have hlink := reachable_call hpath 0 .getCurrentLink rfl rfl
  have hunlock := reachable_step hlink (.requestUnlock (n := 0) rfl)
  have hpath' := reachable_call hunlock 1 .lydPath rfl rfl
  have hlink' := reachable_call hpath' 1 .getCurrentLink rfl rfl
  have hlock := reachable_step hlink' (.requestLock (n := 1) rfl rfl)
  exact ⟨_, hlock, ⟨_, _, rfl⟩, rfl⟩

end SysrepoInterfaces.Interfaces
