import Mathlib.Data.Nat.Notation

/-!
# SysrepoInterfaces.Api

The names of sysrepo and libnl that both plugins use.
-/

namespace SysrepoInterfaces

/-! ## sysrepo -/

/-- `sr_change_oper_t`. -/
inductive SrChangeOper where
  | created
  | modified
  | deleted
  | moved
deriving DecidableEq, Repr

/-- `sr_event_t`, as far as the callbacks tell them apart. -/
inductive SrEvent where
  | change
  | done
  | abort
  | other
deriving DecidableEq, Repr

def SR_ERR_OK : Int := 0
def SR_ERR_CALLBACK_FAILED : Int := 14

/-! ## libnl -/

def AF_UNSPEC : Nat := 0
def AF_INET : Nat := 2
def AF_INET6 : Nat := 10
def AF_LLC : Nat := 26

/-- What `nl_addr_cmp` compares: it is zero exactly on equal values. -/
structure NlAddr where
  family : Nat
  bits : Nat
  prefixLen : Nat
deriving DecidableEq, Repr

end SysrepoInterfaces
