import SysrepoInterfaces.Routing.Types

/-!
# SysrepoInterfaces.Routing.Env

The world around the routing plugin: sysrepo, libyang, libnl and the kernel's
routing table.

* a *checked* call is one whose result the source tests before it goes on to
  `error_out`; the outcome of the n-th of them is `lib n`;
* an *unchecked* call is one whose failure the source lets pass; its outcome
  comes from the field of `RoutingEnv` that stands for it;
* a *request* is a change asked of the kernel; the answer to the n-th of them
  is `answer n`, and the table changes when it is 0.
-/

namespace SysrepoInterfaces.Routing

open CProg

/-! ## calls and requests -/

/-- A data node, named by the path it was created under. -/
abbrev LydNode := String

/-- The library calls of the plugin, with the arguments that matter. -/
inductive Call where
  | srAcquireContext
  | lyCtxGetModule (name : String)
  | srGetChangesIter (xpath : String)
  | srCopyConfig
  | srEditBatch
  | srApplyChanges
  | nlSocketAlloc
  | nlConnect
  | rtnlRouteAllocCache
  | rtnlLinkAllocCache
  | rtnlRouteReadTableNames
  | rtnlRouteReadProtocolNames
  | rtnlRouteAlloc
  | rtnlRouteNhAlloc
  | rtnlLinkGet (ifindex : Nat)
  | lydNewPath (parent : LydNode) (path : String) (value : Option String)
  | lydNewTerm (parent : LydNode) (module name value : String)
  | lydNewInner (parent : LydNode) (module name : String)
  | lydNewAny (parent : LydNode) (module name : String)
deriving DecidableEq, Repr

/-- The requests that change the kernel's routing table. -/
inductive Request where
  | routeAdd (route : RtnlRoute)
  | routeDelete (route : RtnlRoute)
deriving DecidableEq, Repr

/-! ## the environment -/

/-- Everything outside the plugin's own code. -/
structure RoutingEnv where
  /-- `rtnl_route_table2str` into a 32 byte buffer -/
  table2str : Nat → RibName
  /-- `rtnl_route_str2table` -/
  str2table : String → Int
  /-- `rtnl_route_proto2str` into a 32 byte buffer -/
  proto2str : Nat → String
  /-- `nl_addr_parse` with the family `AF_UNSPEC` -/
  nlAddrParse : String → Option NlAddr
  /-- `nl_addr2str` -/
  nlAddr2str : NlAddr → String
  /-- `rtnl_route_guess_scope` -/
  guessScope : RtnlRoute → Nat
  /-- the kernel's routes, as `rtnl_route_alloc_cache` lists them -/
  routes : List RtnlRoute
  /-- the kernel's links, as `rtnl_link_alloc_cache` lists them -/
  links : LinkCache
  /-- outcome of the n-th checked call -/
  lib : Nat → Bool
  /-- outcome of a call in the n-th run of `foreach_nexthop` -/
  fresh : Nat → Call → Bool
  /-- outcome of `sr_acquire_context` where its result is not looked at -/
  acquired : Bool
  /-- whether `ly_ctx_get_module` finds the module -/
  module : String → Bool
  /-- what a failing sysrepo call returns -/
  srError : { code : Int // code ≠ 0 }
  /-- answer to the n-th request -/
  answer : Nat → Int
  /-- the kernel's routes after a request it accepted -/
  carryOut : List RtnlRoute → Request → List RtnlRoute

/-- What a run leaves behind. -/
structure RoutingState where
  /-- the calls made, oldest first -/
  log : List Call := []
  /-- checked calls made -/
  calls : Nat := 0
  /-- runs of `foreach_nexthop` -/
  freshRuns : Nat := 0
  /-- whether any call made so far failed -/
  failed : Bool := false
  /-- the requests sent, oldest first, each with its answer -/
  sent : List (Request × Int) := []
  /-- the kernel's routing table -/
  table : List RtnlRoute := []
deriving DecidableEq

/-- A function of the plugin. -/
abbrev RoutingM := Prog RoutingState

/-! ## primitive steps -/

/-- Make a call whose outcome is `ok`; the caller gets to see it. -/
def call (c : Call) (ok : Bool) : RoutingM Bool := do
  Prog.modify fun s => { s with log := s.log ++ [c], failed := s.failed || !ok }
  return ok

/-- Make a checked call; the caller gets to see its outcome. -/
def attempt (env : RoutingEnv) (c : Call) : RoutingM Bool := do
  let s ← Prog.get
  Prog.modify fun s => { s with calls := s.calls + 1 }
  call c (env.lib s.calls)

/-- Make a checked call and go to `error_out` unless it succeeds. -/
def checked (env : RoutingEnv) (c : Call) : RoutingM Unit := do
  if ← attempt env c then return () else Prog.fail

/-- Send a request to the kernel; the answer is 0 when it was carried out. -/
def send (env : RoutingEnv) (r : Request) : RoutingM Int := do
  let s ← Prog.get
  let answer := env.answer s.sent.length
  Prog.modify fun s => { s with
    sent := s.sent ++ [(r, answer)]
    table := if answer = 0 then env.carryOut s.table r else s.table }
  return answer

/-- `rtnl_link_get` and `rtnl_link_get_name` on what it returned: a link that
is not in the cache is `NULL`, and its name is read all the same. -/
def rtnlLinkGetName (cache : LinkCache) (ifindex : Nat) : RoutingM String :=
  match cache ifindex with
  | some name => do
      let _ ← call (.rtnlLinkGet ifindex) true
      return name
  | none => do
      let _ ← call (.rtnlLinkGet ifindex) false
      Prog.lift .crash

/-- `lyd_new_path` below `parent`; the new node is the last one of the path. -/
def lydNewPath (env : RoutingEnv) (parent : LydNode) (path : String) (value : Option String) :
    RoutingM LydNode := do
  checked env (.lydNewPath parent path value)
  return parent ++ "/" ++ path

def lydNewTerm (env : RoutingEnv) (parent : LydNode) (module name value : String) :
    RoutingM Unit :=
  checked env (.lydNewTerm parent module name value)

def lydNewInner (env : RoutingEnv) (parent : LydNode) (module name : String) :
    RoutingM LydNode := do
  checked env (.lydNewInner parent module name)
  return parent ++ "/" ++ name

def lydNewAny (env : RoutingEnv) (parent : LydNode) (module name : String) :
    RoutingM LydNode := do
  checked env (.lydNewAny parent module name)
  return parent ++ "/" ++ name

theorem run_call (c : Call) (ok : Bool) (s : RoutingState) :
    (call c ok).run s = (.ok ok, { s with log := s.log ++ [c], failed := s.failed || !ok }) := rfl

theorem run_attempt (env : RoutingEnv) (c : Call) (s : RoutingState) :
    (attempt env c).run s = (.ok (env.lib s.calls), { s with
      calls := s.calls + 1, log := s.log ++ [c], failed := s.failed || !env.lib s.calls }) := rfl

theorem run_checked (env : RoutingEnv) (c : Call) (s : RoutingState) :
    (checked env c).run s = (if env.lib s.calls then .ok () else .error,
      { s with
        calls := s.calls + 1, log := s.log ++ [c], failed := s.failed || !env.lib s.calls }) := by
  rw [checked, Prog.run_bind_ok (run_attempt ..)]
  cases env.lib s.calls <;> rfl

theorem run_send (env : RoutingEnv) (r : Request) (s : RoutingState) :
    (send env r).run s = (.ok (env.answer s.sent.length), { s with
      sent := s.sent ++ [(r, env.answer s.sent.length)]
      table := if env.answer s.sent.length = 0 then env.carryOut s.table r else s.table }) := rfl

/-! ## a small world -/

def addr4 (bits prefixLen : Nat) : NlAddr := { family := AF_INET, bits, prefixLen }

/-- Addresses of the documentation ranges, as libnl reads them. -/
def sampleAddrs : List (String × NlAddr) := [
  ("10.0.0.0/8", addr4 0x0a000000 8),
  ("172.16.0.0/12", addr4 0xac100000 12),
  ("192.0.2.1", addr4 0xc0000201 32),
  ("192.0.2.9", addr4 0xc0000209 32)]

/-- A kernel that appends a route as `stored`, and deletes the first one that is
named. -/
def keepAs (stored : RtnlRoute → RtnlRoute) (table : List RtnlRoute) : Request → List RtnlRoute
  | .routeAdd route => table ++ [stored route]
  | .routeDelete pattern => table.eraseP fun route =>
      route.table = pattern.table && route.protocol = pattern.protocol && route.dst = pattern.dst

/-- A world in which every call succeeds, with one link. -/
def sampleEnv : RoutingEnv where
  table2str table :=
    if table = RT_TABLE_MAIN then ⟨"main", by decide⟩
    else if table = RT_TABLE_LOCAL then ⟨"local", by decide⟩
    else ⟨"default", by decide⟩
  str2table name := if name = "main" then RT_TABLE_MAIN else RT_TABLE_LOCAL
  proto2str proto := if proto = RTPROT_STATIC then "static" else "kernel"
  nlAddrParse text := (sampleAddrs.find? fun a => a.1 = text).map Prod.snd
  nlAddr2str addr := ((sampleAddrs.find? fun a => a.2 = addr).map Prod.fst).getD "none"
  guessScope _ := 0
  routes := []
  links ifindex := if ifindex = 2 then some "eth0" else none
  lib _ := true
  fresh _ _ := true
  acquired := true
  module _ := true
  srError := ⟨7, by decide⟩
  answer _ := 0
  carryOut := keepAs id

end SysrepoInterfaces.Routing
