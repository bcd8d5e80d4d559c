import SysrepoInterfaces.Lib.Scan
import SysrepoInterfaces.Routing.Collect

/-!
# SysrepoInterfaces.Routing.Active

The active routes `routing_collect_routes` chooses: the last loop scans each
bucket, which has its routes newest first, for the first one with the lowest
preference.
-/

namespace SysrepoInterfaces.Routing

open CProg Keyed Scan

/-! ## the scan of a bucket -/

section Buckets

variable {env : RoutingEnv} {linkCache : LinkCache} {n : Nat} {routesCache : List RtnlRoute}
  {rib : Rib} {e : RouteListHashElement}

variable (hmap : toMultimap rib.routesHead = Multimap.ofList
  (((collectedRoutes env linkCache n routesCache).filter fun x =>
    ribKey env x.1 = rib.key).map fun x => (x.1.dst, x.2)))

include hmap

end Buckets

end SysrepoInterfaces.Routing
