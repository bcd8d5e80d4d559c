import Std.Data.String.ToNat
import SysrepoInterfaces.Interfaces.Layers

/-!
# SysrepoInterfaces.Interfaces.Statistics

The statistics callbacks of `subscription/operational.c`.  Each reads counters
of its link and prints one leaf.  The unicast packets are what is left of the
packets of the link layer without the broadcast and multicast packets of IPv6,
in 64 bit arithmetic.
-/

namespace SysrepoInterfaces.Interfaces

open CProg Trace

/-! ## the callbacks -/

/-- The counters of `rtnl_link_get_stat`, `RTNL_LINK_*`. -/
inductive LinkStat where
  | rxBytes
  | rxPackets
  | rxDropped
  | rxErrors
  | ip6InBcastPkts
  | ip6InMcastPkts
  | ip6InUnknownProtos
  | txBytes
  | txPackets
  | txDropped
  | txErrors
  | ip6OutBcastPkts
  | ip6OutMcastPkts
deriving DecidableEq, Repr

/-- The leaves of the `statistics` container. -/
inductive StatLeaf where
  | inOctets
  | inUnicastPkts
  | inBroadcastPkts
  | inMulticastPkts
  | inDiscards
  | inErrors
  | inUnknownProtos
  | outOctets
  | outUnicastPkts
  | outBroadcastPkts
  | outMulticastPkts
  | outDiscards
  | outErrors
deriving DecidableEq, Repr

/-- The links, with their counters at the time. -/
structure StatEnv where
  lib : OperLib
  cache : LinkCache
  stat : OperLink → LinkStat → UInt64

/-- What the callbacks leave behind. -/
structure StatState where
  oper : OperState := {}
  /-- the leaves created, oldest first -/
  leaves : List (StatLeaf × String) := []
deriving DecidableEq, Repr

abbrev StatM := Prog StatState

/-- A part that creates no leaf. -/
def liftOper {α : Type} (p : OperM α) : StatM α :=
  ⟨fun s => ((p.run s.oper).1, { s with oper := (p.run s.oper).2 })⟩

/-- What the callbacks share: `text` prints what they read of the counters. -/
def statistics (env : StatEnv) (name : String) (leaf : StatLeaf)
    (text : (LinkStat → UInt64) → String) : StatM Int :=
  Prog.exitCode SR_ERR_CALLBACK_FAILED do
    liftOper (operChecked env.lib .lydPath)
    let link ← liftOper (interfacesGetCurrentLink env.lib env.cache name)
    liftOper (operChecked env.lib .snprintf)
    liftOper (operChecked env.lib .lyTreeCreate)
    Prog.modify fun s => { s with leaves := s.leaves ++ [(leaf, text (env.stat link))] }

/-- `%lu`. -/
def printUInt64 (n : UInt64) : String := toString n.toNat

/-- `%u`. -/
def printUInt32 (n : UInt32) : String := toString n.toNat

def statisticsInOctets (env : StatEnv) (name : String) : StatM Int :=
  statistics env name .inOctets fun stat => printUInt64 (stat .rxBytes)

def statisticsInUnicastPkts (env : StatEnv) (name : String) : StatM Int :=
  statistics env name .inUnicastPkts fun stat =>
    let inPkts := stat .rxPackets
    let inBroadcastPkts := stat .ip6InBcastPkts
    let inMulticastPkts := stat .ip6InMcastPkts
    printUInt64 (inPkts - inBroadcastPkts - inMulticastPkts)

def statisticsInBroadcastPkts (env : StatEnv) (name : String) : StatM Int :=
  statistics env name .inBroadcastPkts fun stat => printUInt64 (stat .ip6InBcastPkts)

def statisticsInMulticastPkts (env : StatEnv) (name : String) : StatM Int :=
  statistics env name .inMulticastPkts fun stat => printUInt64 (stat .ip6InMcastPkts)

def statisticsInDiscards (env : StatEnv) (name : String) : StatM Int :=
  statistics env name .inDiscards fun stat => printUInt32 (stat .rxDropped).toUInt32

def statisticsInErrors (env : StatEnv) (name : String) : StatM Int :=
  statistics env name .inErrors fun stat => printUInt32 (stat .rxErrors).toUInt32

def statisticsInUnknownProtos (env : StatEnv) (name : String) : StatM Int :=
  statistics env name .inUnknownProtos fun stat => printUInt32 (stat .ip6InUnknownProtos).toUInt32

def statisticsOutOctets (env : StatEnv) (name : String) : StatM Int :=
  statistics env name .outOctets fun stat => printUInt64 (stat .txBytes)

def statisticsOutUnicastPkts (env : StatEnv) (name : String) : StatM Int :=
  statistics env name .outUnicastPkts fun stat =>
    let outPkts := stat .txPackets
    let outBroadcastPkts := stat .ip6OutBcastPkts
    let outMulticastPkts := stat .ip6OutMcastPkts
    printUInt64 (outPkts - outBroadcastPkts - outMulticastPkts)

def statisticsOutBroadcastPkts (env : StatEnv) (name : String) : StatM Int :=
  statistics env name .outBroadcastPkts fun stat => printUInt64 (stat .ip6OutBcastPkts)

def statisticsOutMulticastPkts (env : StatEnv) (name : String) : StatM Int :=
  statistics env name .outMulticastPkts fun stat => printUInt64 (stat .ip6OutMcastPkts)

/-- Prints all 64 bits into a leaf of 32. -/
def statisticsOutDiscards (env : StatEnv) (name : String) : StatM Int :=
  statistics env name .outDiscards fun stat => printUInt64 (stat .txDropped)

/-- Reads the dropped packets, not the errors. -/
def statisticsOutErrors (env : StatEnv) (name : String) : StatM Int :=
  statistics env name .outErrors fun stat => printUInt64 (stat .txDropped)

/-- The callback of a leaf. -/
def StatLeaf.callback : StatLeaf → StatEnv → String → StatM Int
  | .inOctets => statisticsInOctets
  | .inUnicastPkts => statisticsInUnicastPkts
  | .inBroadcastPkts => statisticsInBroadcastPkts
  | .inMulticastPkts => statisticsInMulticastPkts
  | .inDiscards => statisticsInDiscards
  | .inErrors => statisticsInErrors
  | .inUnknownProtos => statisticsInUnknownProtos
  | .outOctets => statisticsOutOctets
  | .outUnicastPkts => statisticsOutUnicastPkts
  | .outBroadcastPkts => statisticsOutBroadcastPkts
  | .outMulticastPkts => statisticsOutMulticastPkts
  | .outDiscards => statisticsOutDiscards
  | .outErrors => statisticsOutErrors

/-! ## what is asked of them -/

/-- The values of a leaf are less than this: `counter32` or `counter64`. -/
def StatLeaf.bound : StatLeaf → Nat
  | .inDiscards => UInt32.size
  | .inErrors => UInt32.size
  | .inUnknownProtos => UInt32.size
  | .outDiscards => UInt32.size
  | .outErrors => UInt32.size
  | _ => UInt64.size

/-- The counter a leaf is named after; the unicast packets have none. -/
def StatLeaf.counter : StatLeaf → Option LinkStat
  | .inOctets => some .rxBytes
  | .inUnicastPkts => none
  | .inBroadcastPkts => some .ip6InBcastPkts
  | .inMulticastPkts => some .ip6InMcastPkts
  | .inDiscards => some .rxDropped
  | .inErrors => some .rxErrors
  | .inUnknownProtos => some .ip6InUnknownProtos
  | .outOctets => some .txBytes
  | .outUnicastPkts => none
  | .outBroadcastPkts => some .ip6OutBcastPkts
  | .outMulticastPkts => some .ip6OutMcastPkts
  | .outDiscards => some .txDropped
  | .outErrors => some .txErrors

/-- The packets of one direction: all of them, with those of a group, and the
leaves for them. -/
structure Direction where
  total : LinkStat
  broadcast : LinkStat
  multicast : LinkStat
  unicastLeaf : StatLeaf
  broadcastLeaf : StatLeaf
  multicastLeaf : StatLeaf

def received : Direction where
  total := .rxPackets
  broadcast := .ip6InBcastPkts
  multicast := .ip6InMcastPkts
  unicastLeaf := .inUnicastPkts
  broadcastLeaf := .inBroadcastPkts
  multicastLeaf := .inMulticastPkts

def transmitted : Direction where
  total := .txPackets
  broadcast := .ip6OutBcastPkts
  multicast := .ip6OutMcastPkts
  unicastLeaf := .outUnicastPkts
  broadcastLeaf := .outBroadcastPkts
  multicastLeaf := .outMulticastPkts

/-- The callback of a leaf, called for a link, writes this number, once: unless
a call fails, and then nothing. -/
def Prints (cache : LinkCache) (stat : OperLink → LinkStat → UInt64) (link : OperLink)
    (leaf : StatLeaf) (n : Nat) : Prop :=
  ∀ lib s, ∃ error s' new,
    (leaf.callback { lib, cache, stat } link.name).run s = (.ok error, s') ∧
      s'.leaves = s.leaves ++ new ∧ new <+: [(leaf, toString n)] ∧
      (error = SR_ERR_OK → new = [(leaf, toString n)]) ∧
      (lib.Succeeds → error = SR_ERR_OK)

/-- The leaves of a link are in the range of their types and come from the
counters they are named after; the unicast packets are not more than all
packets, and together with the others they are all, where the others leave
any. -/
structure CountersConsistent (cache : LinkCache) (stat : OperLink → LinkStat → UInt64)
    (link : OperLink) : Prop where
  typed : ∀ leaf, ∃ n, Prints cache stat link leaf n ∧ n < leaf.bound ∧
    ∀ c, leaf.counter = some c → n = (stat link c).toNat % leaf.bound
  unicast : ∀ d ∈ [received, transmitted], ∀ u b m, Prints cache stat link d.unicastLeaf u →
    Prints cache stat link d.broadcastLeaf b → Prints cache stat link d.multicastLeaf m →
      u ≤ (stat link d.total).toNat ∧
        (b + m ≤ (stat link d.total).toNat → u + b + m = (stat link d.total).toNat)

/-- When the counters are such that the callbacks get them right. -/
structure CountersFit (stat : LinkStat → UInt64) : Prop where
  unicast : ∀ d ∈ [received, transmitted],
    ((stat d.broadcast).toNat + (stat d.multicast).toNat) % UInt64.size ≤ (stat d.total).toNat
  discards : (stat .txDropped).toNat < UInt32.size
  errors : (stat .txDropped).toNat = (stat .txErrors).toNat % UInt32.size

/-! ## what they print -/

/-- The number the callback of a leaf prints. -/
def StatLeaf.value (stat : LinkStat → UInt64) : StatLeaf → Nat
  | .inOctets => (stat .rxBytes).toNat
  | .inUnicastPkts =>
      (stat .rxPackets - stat .ip6InBcastPkts - stat .ip6InMcastPkts).toNat
  | .inBroadcastPkts => (stat .ip6InBcastPkts).toNat
  | .inMulticastPkts => (stat .ip6InMcastPkts).toNat
  | .inDiscards => (stat .rxDropped).toUInt32.toNat
  | .inErrors => (stat .rxErrors).toUInt32.toNat
  | .inUnknownProtos => (stat .ip6InUnknownProtos).toUInt32.toNat
  | .outOctets => (stat .txBytes).toNat
  | .outUnicastPkts =>
      (stat .txPackets - stat .ip6OutBcastPkts - stat .ip6OutMcastPkts).toNat
  | .outBroadcastPkts => (stat .ip6OutBcastPkts).toNat
  | .outMulticastPkts => (stat .ip6OutMcastPkts).toNat
  | .outDiscards => (stat .txDropped).toNat
  | .outErrors => (stat .txDropped).toNat

theorem StatLeaf.callback_eq (leaf : StatLeaf) (env : StatEnv) (name : String) :
    leaf.callback env name = statistics env name leaf fun stat => toString (leaf.value stat) := by
  cases leaf <;> rfl

section Prints

variable {cache : LinkCache} {stat : OperLink → LinkStat → UInt64} {link : OperLink}
  {leaf : StatLeaf}

theorem reports_liftOper {α : Type} {p : OperM α} {nodes : List OperNode} {Q : α → Prop}
    (hp : Reports OperState.nodes p nodes Q) : Reports StatState.leaves (liftOper p) [] Q :=
  hp.embed (g := StatState.oper) (fun _ => rfl) fun _ => rfl

theorem run_liftOper {α : Type} {p : OperM α} {a : α} {nodes : List OperNode} (hp : Adds p a nodes)
    (s : StatState) : ∃ oper, (liftOper p).run s = (.ok a, { s with oper }) := by
  obtain ⟨calls, hrun⟩ := hp s.oper
  refine ⟨{ nodes := s.oper.nodes ++ nodes, calls }, ?_⟩
  simp only [liftOper, hrun]

/-- What a callback reads of the counters is what it prints. -/
theorem prints_value (hlink : link ∈ cache.links) (leaf : StatLeaf) :
    Prints cache stat link leaf (leaf.value (stat link)) := by
  intro lib s
  rw [StatLeaf.callback_eq]
  have hmodify : Reports StatState.leaves (Prog.modify fun s : StatState =>
      { s with leaves := s.leaves ++ [(leaf, toString (leaf.value (stat link)))] })
      [(leaf, toString (leaf.value (stat link)))] fun _ => True :=
    ⟨fun s => ⟨_, rfl, List.prefix_refl _, fun _ _ => ⟨rfl, trivial⟩⟩, fun s => by simp⟩
  have hreports : Reports StatState.leaves (do
      liftOper (operChecked lib .lydPath)
      let link ← liftOper (interfacesGetCurrentLink lib cache link.name)
      liftOper (operChecked lib .snprintf)
      liftOper (operChecked lib .lyTreeCreate)
      Prog.modify fun s =>
        { s with leaves := s.leaves ++ [(leaf, toString (leaf.value (stat link)))] })
      [(leaf, toString (leaf.value (stat link)))] fun _ => True := by
    refine (reports_liftOper (reports_operChecked lib _)).before fun _ _ => ?_
    refine (reports_liftOper (reports_currentLink lib hlink)).before fun link' hlink' => ?_
    rw [hlink']
    refine (reports_liftOper (reports_operChecked lib _)).before fun _ _ => ?_
    exact (reports_liftOper (reports_operChecked lib _)).before fun _ _ => hmodify
  have hcode : SR_ERR_CALLBACK_FAILED ≠ 0 := by decide
  obtain ⟨error, s', new, hrun, hleaves, hpre, hall⟩ := hreports.exitCode hcode s
  refine ⟨error, s', new, hrun, hleaves, hpre, hall, ?_⟩
  intro hlib
  obtain ⟨_, hpath⟩ := run_liftOper (adds_operChecked hlib .lydPath) s
  obtain ⟨_, hcurrent⟩ := run_liftOper (adds_currentLink hlib hlink) { s with oper := _ }
  obtain ⟨_, hsnprintf⟩ := run_liftOper (adds_operChecked hlib .snprintf) { s with oper := _ }
  obtain ⟨_, hcreate⟩ := run_liftOper (adds_operChecked hlib .lyTreeCreate) { s with oper := _ }
  rw [Prog.run_exitCode, Prog.run_bind_ok hpath, Prog.run_bind_ok hcurrent,
    Prog.run_bind_ok hsnprintf, Prog.run_bind_ok hcreate] at hrun
  cases hrun
  rfl

/-- A callback prints one number only. -/
theorem Prints.unique {m n : Nat} (hm : Prints cache stat link leaf m)
    (hn : Prints cache stat link leaf n) : m = n := by
  obtain ⟨error, s, new, hrun, hleaves, -, hall, hsucceeds⟩ := hm (fun _ _ => true) {}
  obtain ⟨error', s', new', hrun', hleaves', -, hall', hsucceeds'⟩ := hn (fun _ _ => true) {}
  cases hrun.symm.trans hrun'
  have hnew := hall (hsucceeds fun _ _ => rfl)
  have hnew' := hall' (hsucceeds' fun _ _ => rfl)
  rw [hleaves, hnew, hnew'] at hleaves'
  have htext : toString m = toString n := by simpa using hleaves'
  exact Nat.repr_injective htext

end Prints

/-! ## arithmetic -/

theorem toNat_sub_sub (total broadcast multicast : UInt64) :
    (total - broadcast - multicast).toNat =
      (total.toNat + 2 * UInt64.size - (broadcast.toNat + multicast.toNat)) % UInt64.size := by
  have htotal := total.toNat_lt_size
  have hbroadcast := broadcast.toNat_lt_size
  have hmulticast := multicast.toNat_lt_size
  simp only [UInt64.toNat_sub, UInt64.size] at *
  omega

/-- The difference is not above the total unless it wraps around. -/
theorem toNat_sub_sub_le_iff (total broadcast multicast : UInt64) :
    (total - broadcast - multicast).toNat ≤ total.toNat ↔
      (broadcast.toNat + multicast.toNat) % UInt64.size ≤ total.toNat := by
  have htotal := total.toNat_lt_size
  have hbroadcast := broadcast.toNat_lt_size
  have hmulticast := multicast.toNat_lt_size
  rw [toNat_sub_sub]
  simp only [UInt64.size] at *
  omega

theorem toNat_sub_sub_add {total broadcast multicast : UInt64}
    (h : broadcast.toNat + multicast.toNat ≤ total.toNat) :
    (total - broadcast - multicast).toNat + broadcast.toNat + multicast.toNat = total.toNat := by
  have htotal := total.toNat_lt_size
  rw [toNat_sub_sub]
  simp only [UInt64.size] at *
  omega

/-! ## consistency -/

section Consistent

variable {cache : LinkCache} {stat : OperLink → LinkStat → UInt64} {link : OperLink}

theorem unicastLeaf_value {d : Direction} (hd : d ∈ [received, transmitted])
    (stat : LinkStat → UInt64) : d.unicastLeaf.value stat =
      (stat d.total - stat d.broadcast - stat d.multicast).toNat ∧
    d.broadcastLeaf.value stat = (stat d.broadcast).toNat ∧
    d.multicastLeaf.value stat = (stat d.multicast).toNat := by
  simp only [List.mem_cons, List.not_mem_nil, or_false] at hd
  rcases hd with rfl | rfl <;> exact ⟨rfl, rfl, rfl⟩

/-- All leaves but the last two are right for any counters. -/
theorem StatLeaf.value_typed (leaf : StatLeaf) {stat : LinkStat → UInt64}
    (hdiscards : (stat .txDropped).toNat < UInt32.size)
    (herrors : (stat .txDropped).toNat = (stat .txErrors).toNat % UInt32.size) :
    leaf.value stat < leaf.bound ∧
      ∀ c, leaf.counter = some c → leaf.value stat = (stat c).toNat % leaf.bound := by
  have hwide : ∀ n : UInt64, n.toNat < UInt64.size ∧ n.toNat = n.toNat % UInt64.size :=
    fun n => ⟨n.toNat_lt_size, (Nat.mod_eq_of_lt n.toNat_lt_size).symm⟩
  have hnarrow : ∀ n : UInt64, n.toUInt32.toNat < UInt32.size ∧
      n.toUInt32.toNat = n.toNat % UInt32.size :=
    fun n => ⟨n.toUInt32.toNat_lt_size, UInt64.toNat_toUInt32 n⟩
  have hmod := (Nat.mod_eq_of_lt hdiscards).symm
  cases leaf with
  | inUnicastPkts => exact ⟨(hwide _).1, fun c hc => by cases hc⟩
  | outUnicastPkts => exact ⟨(hwide _).1, fun c hc => by cases hc⟩
  | inDiscards => exact ⟨(hnarrow _).1, fun c hc => by cases hc; exact (hnarrow _).2⟩
  | inErrors => exact ⟨(hnarrow _).1, fun c hc => by cases hc; exact (hnarrow _).2⟩
  | inUnknownProtos => exact ⟨(hnarrow _).1, fun c hc => by cases hc; exact (hnarrow _).2⟩
  | outDiscards => exact ⟨hdiscards, fun c hc => by cases hc; exact hmod⟩
  | outErrors => exact ⟨hdiscards, fun c hc => by cases hc; exact herrors⟩
  | _ => exact ⟨(hwide _).1, fun c hc => by cases hc; exact (hwide _).2⟩

/-- The leaves are consistent exactly when neither subtraction wraps around and
the dropped packets sent fit the two leaves that print them. -/
theorem countersConsistent_iff (hlink : link ∈ cache.links) :
    CountersConsistent cache stat link ↔ CountersFit (stat link) := by
  have hprints : ∀ leaf : StatLeaf, Prints cache stat link leaf (leaf.value (stat link)) :=
    prints_value hlink
  constructor
  · intro h
    have hbounds : ∀ leaf : StatLeaf, leaf.value (stat link) < leaf.bound ∧
        ∀ c, leaf.counter = some c → leaf.value (stat link) = (stat link c).toNat % leaf.bound := by
      intro leaf
      obtain ⟨n, hn, hlt, hcounter⟩ := h.typed leaf
      rw [(hprints leaf).unique hn]
      exact ⟨hlt, hcounter⟩
    refine ⟨?_, (hbounds .outDiscards).1, (hbounds .outErrors).2 _ rfl⟩
    intro d hd
    have hle := (h.unicast d hd _ _ _ (hprints _) (hprints _) (hprints _)).1
    rw [(unicastLeaf_value hd _).1] at hle
    exact (toNat_sub_sub_le_iff _ _ _).mp hle
  · intro h
    constructor
    · intro leaf
      exact ⟨_, hprints leaf, leaf.value_typed h.discards h.errors⟩
    · intro d hd u b m hu hb hm
      obtain ⟨hunicast, hbroadcast, hmulticast⟩ := unicastLeaf_value hd (stat link)
      rw [hu.unique (hprints _), hb.unique (hprints _), hm.unique (hprints _), hunicast,
        hbroadcast, hmulticast]
      exact ⟨(toNat_sub_sub_le_iff _ _ _).mpr (h.unicast d hd), toNat_sub_sub_add⟩

end Consistent

/-- More multicast packets of IPv6 than packets of the link layer. -/
def floodedStat (_ : OperLink) : LinkStat → UInt64
  | .rxPackets => 7
  | .ip6InMcastPkts => 9
  | _ => 0

theorem countersConsistent_iff_br0 :
    ¬ CountersConsistent bridgeForest.toLinkCache floodedStat br0 ∧
      CountersConsistent bridgeForest.toLinkCache (fun _ _ => 0) br0 := by
  have hbr0 : br0 ∈ bridgeForest.links := by decide
  constructor
  · intro h
    have hfit := (countersConsistent_iff hbr0).mp h
    exact absurd (hfit.unicast received List.mem_cons_self) (by decide)
  · refine (countersConsistent_iff hbr0).mpr ⟨?_, by decide, by decide⟩
    intro d hd
    exact Nat.zero_le _

/-- The unicast packets wrap around. -/
theorem floodedStat_inconsistent :
    ¬ CountersConsistent bridgeForest.toLinkCache floodedStat br0 := by
  intro h
  have hbr0 : br0 ∈ bridgeForest.links := by decide
  have hprints : ∀ leaf : StatLeaf, Prints bridgeForest.toLinkCache floodedStat br0 leaf
      (leaf.value (floodedStat br0)) := prints_value hbr0
  have hle := (h.unicast received List.mem_cons_self _ _ _ (hprints _) (hprints _) (hprints _)).1
  exact absurd hle (by decide)

end SysrepoInterfaces.Interfaces
