import SysrepoInterfaces.Interfaces.Layers
import SysrepoInterfaces.Interfaces.StateTracker
import SysrepoInterfaces.Lib.Calendar

/-!
# SysrepoInterfaces.Interfaces.ReportedTime

The two times of an interface (`subscription/operational.c`): `last-change`,
which the state tracker has stored, and `discontinuity-time`, when the system
was booted.  Both are printed as local time, and end in `Z`.
-/

namespace SysrepoInterfaces.Interfaces

open Calendar CProg Trace

/-! ## the C library -/

/-- The time zone of the system: the offset of its local time from UTC, which
need not be the same at all instants. -/
structure Zone where
  offset : Int → Int

/-- `localtime`: `NULL` when the year does not fit. -/
def localtime (zone : Zone) (time : Int) : Option DateTime :=
  let tm := dateTimeOf (time + zone.offset time)
  if -2 ^ 31 ≤ tm.year - 1900 ∧ tm.year - 1900 < 2 ^ 31 then some tm else none

/-- What `%FT%TZ` stands for. -/
def formatted (tm : DateTime) : String := String.ofList (tm.text ++ ['Z'])

/-- `strftime` with the format `%FT%TZ`; `none` is the return value 0. -/
def strftime (size : Nat) (tm : DateTime) : Option String :=
  if (formatted tm).length < size then some (formatted tm) else none

/-! ## the callbacks -/

/-- What the callbacks leave behind. -/
structure TimeState where
  oper : OperState := {}
  /-- the values of the leaves created, oldest first -/
  texts : List String := []
deriving DecidableEq, Repr

abbrev TimeM := Prog TimeState

/-- A part that creates no leaf. -/
def liftTime {α : Type} (p : OperM α) : TimeM α :=
  ⟨fun s => ((p.run s.oper).1, { s with oper := (p.run s.oper).2 })⟩

/-- The calls that can fail: those that are checked, and `sysinfo`. -/
structure TimeLib where
  oper : OperLib
  sysinfo : Bool

/-- The world of the callbacks. -/
structure TimeEnv where
  cache : LinkCache
  hash : StateHash
  zone : Zone
  /-- `time(NULL)` -/
  now : Int
  /-- of `sysinfo` -/
  uptime : Int

/-- `interfaces_ly_tree_create_*` of one of the two leaves. -/
def lyTreeCreateTime (lib : TimeLib) (text : String) : TimeM Unit := do
  liftTime (operChecked lib.oper .lyTreeCreate)
  Prog.modify fun s => { s with texts := s.texts ++ [text] }

/-- What the callbacks share: `text` fills their buffer. -/
def reportTime (lib : TimeLib) (env : TimeEnv) (name : String) (text : OperLink → TimeM String) :
    TimeM Int :=
  Prog.exitCode SR_ERR_CALLBACK_FAILED do
    liftTime (operChecked lib.oper .lydPath)
    let link ← liftTime (interfacesGetCurrentLink lib.oper env.cache name)
    let buffer ← text link
    lyTreeCreateTime lib buffer

/-- The buffer of the `last-change` callback; `strftime` reads what `localtime`
returned. -/
def lastChangeBuffer (env : TimeEnv) (link : OperLink) : TimeM String :=
  match env.hash.get link.name with
  | none => Prog.fail
  | some stateElement =>
      match localtime env.zone stateElement.lastChange with
      | none => Prog.lift .crash
      | some lastChangeTm =>
          match strftime 100 lastChangeTm with
          | none => Prog.fail
          | some buffer => return buffer

/-- `interfaces_subscription_operational_interfaces_interface_last_change`,
without its mutex. -/
def lastChange (lib : TimeLib) (env : TimeEnv) (name : String) : TimeM Int :=
  reportTime lib env name (lastChangeBuffer env)

/-- `interfaces_get_system_boot_time`: its return value and its buffer.  It does
not look at what `strftime` returns. -/
def interfacesGetSystemBootTime (lib : TimeLib) (env : TimeEnv) : Int × String :=
  match localtime env.zone env.now with
  | none => (-1, "")
  | some _ =>
      if lib.sysinfo then
        match localtime env.zone (env.now - env.uptime) with
        | none => (-1, "")
        | some ts => (0, (strftime 100 ts).getD "")
      else (-1, "")

/-- The buffer of the `discontinuity-time` callback. -/
def discontinuityTimeBuffer (lib : TimeLib) (env : TimeEnv) : TimeM String :=
  let (error, buffer) := interfacesGetSystemBootTime lib env
  if error ≠ 0 then Prog.fail else return buffer

/-- `interfaces_subscription_operational_interfaces_interface_statistics_discontinuity_time`. -/
def discontinuityTime (lib : TimeLib) (env : TimeEnv) (name : String) : TimeM Int :=
  reportTime lib env name fun _ => discontinuityTimeBuffer lib env

/-! ## what is asked of them -/

/-- The text of an instant in UTC. -/
def utcText (time : Int) : String := formatted (dateTimeOf time)

/-- Whatever calls fail, the callback returns, and every text it writes denotes
the instant, and is the one a system in UTC would write; it writes one when no
call fails. -/
def WritesInstant (callback : TimeLib → TimeM Int) (time : Int) : Prop :=
  ∀ lib s, ∃ error s' new, (callback lib).run s = (.ok error, s') ∧ s'.texts = s.texts ++ new ∧
    (∀ text ∈ new, readRfc3339 text = some time ∧ text = utcText time) ∧
    (lib.oper.Succeeds → lib.sysinfo = true → new ≠ [])

/-- The zone has no offset at the instant, and its year has four digits. -/
def WrittenRight (zone : Zone) (time : Int) : Prop :=
  zone.offset time = 0 ∧ 1000 ≤ (dateTimeOf time).year ∧ (dateTimeOf time).year ≤ 9999

/-! ## texts of instants -/

theorem length_formatted {tm : DateTime} (hyear : 1000 ≤ tm.year ∧ tm.year ≤ 9999) :
    (formatted tm).length = 20 := by
  obtain ⟨year, hyearNat⟩ := Int.eq_ofNat_of_zero_le (Int.le_trans (by decide) hyear.1)
  have hdigits := length_toDigits_eq_four.mpr (show 1000 ≤ year ∧ year ≤ 9999 by omega)
  rw [formatted, String.length_ofList, List.length_append, DateTime.text, hyearNat]
  simp only [List.length_append, List.length_cons, List.length_nil, twoDigits,
    toList_toString_natCast, hdigits]

section Texts

variable {zone : Zone} {time : Int} {tm : DateTime}

theorem WrittenRight.localtime_eq (h : WrittenRight zone time) :
    localtime zone time = some (dateTimeOf time) := by
  obtain ⟨hoffset, hfirst, hlast⟩ := h
  have hfits : -2 ^ 31 ≤ (dateTimeOf time).year - 1900 ∧
      (dateTimeOf time).year - 1900 < 2 ^ 31 := by
    omega
  simp only [localtime, hoffset, Int.add_zero]
  exact if_pos hfits

theorem WrittenRight.strftime_eq (h : WrittenRight zone time) :
    strftime 100 (dateTimeOf time) = some (utcText time) := by
  have hlength := length_formatted h.2
  exact if_pos (by omega)

theorem eq_of_localtime (h : localtime zone time = some tm) :
    tm = dateTimeOf (time + zone.offset time) := by
  unfold localtime at h
  simp only at h
  split at h
  · exact (Option.some.inj h).symm
  · cases h

/-- The text read as a time in UTC is the local time. -/
theorem readRfc3339_strftime {time' : Int}
    (hread : readRfc3339 ((strftime 100 (dateTimeOf time)).getD "") = some time') :
    time' = time ∧ 1000 ≤ (dateTimeOf time).year ∧ (dateTimeOf time).year ≤ 9999 := by
  by_cases hyear : 1000 ≤ (dateTimeOf time).year ∧ (dateTimeOf time).year ≤ 9999
  · have hlength := length_formatted hyear
    have htext : strftime 100 (dateTimeOf time) = some (formatted (dateTimeOf time)) :=
      if_pos (by omega)
    have htime := readRfc3339_text (valid_dateTimeOf time) hyear
    rw [seconds_dateTimeOf] at htime
    rw [htext, Option.getD_some, formatted, htime] at hread
    exact ⟨(Option.some.inj hread).symm, hyear⟩
  · unfold strftime at hread
    split at hread
    · rw [Option.getD_some, formatted, readRfc3339_eq_none hyear] at hread
      cases hread
    · have hempty : readRfc3339 "" = none := by decide
      rw [Option.getD_none, hempty] at hread
      cases hread

/-- What is written of a local time is right exactly in UTC. -/
theorem written_iff (htm : localtime zone time = some tm) :
    (readRfc3339 ((strftime 100 tm).getD "") = some time ∧
      (strftime 100 tm).getD "" = utcText time) ↔ WrittenRight zone time := by
  constructor
  · rintro ⟨hread, -⟩
    rw [eq_of_localtime htm] at hread
    obtain ⟨htime, hyear⟩ := readRfc3339_strftime hread
    have hoffset : zone.offset time = 0 := by omega
    rw [hoffset, Int.add_zero] at hyear
    exact ⟨hoffset, hyear⟩
  · intro h
    cases htm.symm.trans h.localtime_eq
    have htime := readRfc3339_text (valid_dateTimeOf time) h.2
    rw [seconds_dateTimeOf] at htime
    rw [h.strftime_eq, Option.getD_some]
    exact ⟨htime, rfl⟩

end Texts

/-! ## the leaf -/

theorem reports_liftTime {α : Type} {p : OperM α} {nodes : List OperNode} {Q : α → Prop}
    (hp : Reports OperState.nodes p nodes Q) : Reports TimeState.texts (liftTime p) [] Q :=
  hp.embed (g := TimeState.oper) (fun _ => rfl) fun _ => rfl

theorem run_liftTime {α : Type} {p : OperM α} {a : α} {nodes : List OperNode} (hp : Adds p a nodes)
    (s : TimeState) : ∃ oper, (liftTime p).run s = (.ok a, { s with oper }) := by
  obtain ⟨calls, hrun⟩ := hp s.oper
  refine ⟨{ nodes := s.oper.nodes ++ nodes, calls }, ?_⟩
  simp only [liftTime, hrun]

section Leaf

variable {env : TimeEnv} {link : OperLink} {text : String} {time : Int}
  {buffer : TimeLib → OperLink → TimeM String}

theorem reports_lyTreeCreateTime (lib : TimeLib) (text : String) :
    Reports TimeState.texts (lyTreeCreateTime lib text) [text] fun _ => True := by
  refine (reports_liftTime (reports_operChecked lib.oper _)).before fun _ _ => ?_
  refine ⟨fun s => ⟨[text], rfl, List.prefix_refl _, fun _ _ => ⟨rfl, trivial⟩⟩, fun s => ?_⟩
  simp

/-- The leaf has the text of the buffer. -/
theorem reports_reportTime {lib : TimeLib} (hlink : link ∈ env.cache.links)
    (hbuffer : Reports TimeState.texts (buffer lib link) [] fun t => t = text) (s : TimeState) :
    ∃ error s' new, (reportTime lib env link.name (buffer lib)).run s = (.ok error, s') ∧
      s'.texts = s.texts ++ new ∧ new <+: [text] := by
  have hreports : Reports TimeState.texts (do
      liftTime (operChecked lib.oper .lydPath)
      let link ← liftTime (interfacesGetCurrentLink lib.oper env.cache link.name)
      let text ← buffer lib link
      lyTreeCreateTime lib text) [text] fun _ => True := by
    refine (reports_liftTime (reports_operChecked lib.oper _)).before fun _ _ => ?_
    refine (reports_liftTime (reports_currentLink lib.oper hlink)).before fun link' hlink' => ?_
    rw [hlink']
    refine hbuffer.before fun t ht => ?_
    rw [ht]
    exact reports_lyTreeCreateTime lib text
  have hcode : SR_ERR_CALLBACK_FAILED ≠ 0 := by decide
  obtain ⟨error, s', new, hrun, htexts, hpart, -⟩ := hreports.exitCode hcode s
  exact ⟨error, s', new, hrun, htexts, hpart⟩

/-- When no call fails the buffer is filled and the leaf created. -/
theorem run_reportTime (lib : TimeLib) (hlib : lib.oper.Succeeds) (hlink : link ∈ env.cache.links)
    (text : OperLink → TimeM String) (s : TimeState) :
    ∃ oper, (reportTime lib env link.name text).run s =
      (Prog.exitCode SR_ERR_CALLBACK_FAILED (text link >>= lyTreeCreateTime lib)).run
        { s with oper } := by
  obtain ⟨_, hpath⟩ := run_liftTime (adds_operChecked hlib .lydPath) s
  obtain ⟨oper, hcurrent⟩ := run_liftTime (adds_currentLink hlib hlink) { s with oper := _ }
  refine ⟨oper, ?_⟩
  rw [reportTime, Prog.run_exitCode, Prog.run_bind_ok hpath, Prog.run_bind_ok hcurrent,
    Prog.run_exitCode]

/-- A callback that has a text to write is right exactly when the text is. -/
theorem writesInstant_iff_of_text (hlink : link ∈ env.cache.links)
    (hbuffer : ∀ lib, Reports TimeState.texts (buffer lib link) [] fun t => t = text)
    (hpure : ∀ lib, lib.sysinfo = true → buffer lib link = pure text) :
    WritesInstant (fun lib => reportTime lib env link.name (buffer lib)) time ↔
      readRfc3339 text = some time ∧ text = utcText time := by
  have hwrites : ∀ lib : TimeLib, lib.oper.Succeeds → lib.sysinfo = true → ∀ s, ∃ s',
      (reportTime lib env link.name (buffer lib)).run s = (.ok SR_ERR_OK, s') ∧
        s'.texts = s.texts ++ [text] := by
    intro lib hlib hsysinfo s
    obtain ⟨oper, hrun⟩ := run_reportTime lib hlib hlink (buffer lib) s
    obtain ⟨oper', hcreate⟩ := run_liftTime (adds_operChecked hlib .lyTreeCreate) { s with oper }
    rw [hpure lib hsysinfo, pure_bind, lyTreeCreateTime, Prog.run_exitCode,
      Prog.run_bind_ok hcreate] at hrun
    exact ⟨_, hrun, rfl⟩
  constructor
  · intro h
    obtain ⟨error, s', new, hrun, htexts, hright, -⟩ := h ⟨fun _ _ => true, true⟩ {}
    obtain ⟨t, hrunText, htext⟩ := hwrites ⟨fun _ _ => true, true⟩ (fun _ _ => rfl) rfl {}
    cases hrun.symm.trans hrunText
    have hnew : new = [text] := List.append_cancel_left (htexts.symm.trans htext)
    exact hright text (by simp [hnew])
  · intro h lib s
    obtain ⟨error, s', new, hrun, htexts, hpart⟩ := reports_reportTime hlink (hbuffer lib) s
    refine ⟨error, s', new, hrun, htexts, ?_, ?_⟩
    · intro t ht
      rw [List.mem_singleton.mp (hpart.subset ht)]
      exact h
    · intro hlib hsysinfo hnil
      obtain ⟨t, hrunText, htext⟩ := hwrites lib hlib hsysinfo s
      cases hrun.symm.trans hrunText
      have hnew : new = [text] := List.append_cancel_left (htexts.symm.trans htext)
      rw [hnil] at hnew
      cases hnew

/-- A callback that comes to no text writes none. -/
theorem not_writesInstant (hlink : link ∈ env.cache.links)
    (hbuffer : Emits TimeState.texts (buffer ⟨fun _ _ => true, true⟩ link) [] fun _ => False) :
    ¬ WritesInstant (fun lib => reportTime lib env link.name (buffer lib)) time := by
  intro h
  have hlib : OperLib.Succeeds fun _ _ => true := fun _ _ => rfl
  obtain ⟨error, s', new, hrun, htexts, -, hnew⟩ := h ⟨fun _ _ => true, true⟩ {}
  obtain ⟨oper, hrest⟩ := run_reportTime ⟨fun _ _ => true, true⟩ hlib hlink (buffer _) {}
  have hsilent : Emits TimeState.texts (buffer ⟨fun _ _ => true, true⟩ link >>=
      lyTreeCreateTime ⟨fun _ _ => true, true⟩) [] fun _ => True :=
    hbuffer.then fun _ hfalse => hfalse.elim
  obtain ⟨new', htexts', hpart⟩ := hsilent.exitCode SR_ERR_CALLBACK_FAILED { oper }
  rw [← hrest, hrun, List.prefix_nil.mp hpart, htexts] at htexts'
  exact hnew hlib rfl htexts'

end Leaf

/-! ## the callbacks -/

section Reported

variable {env : TimeEnv} {link : OperLink}

theorem writesInstant_lastChange_iff (hlink : link ∈ env.cache.links) {state : InterfaceState}
    (hstate : env.hash.get link.name = some state) :
    WritesInstant (fun lib => lastChange lib env link.name) state.lastChange ↔
      WrittenRight env.zone state.lastChange := by
  cases hlocal : localtime env.zone state.lastChange with
  | none =>
      have hbuffer : lastChangeBuffer env link = Prog.lift .crash := by
        simp only [lastChangeBuffer, hstate, hlocal]
      refine iff_of_false (not_writesInstant hlink ?_) fun h => ?_
      · rw [hbuffer]
        exact emits_crash
      · cases hlocal.symm.trans h.localtime_eq
  | some tm =>
      rw [← written_iff hlocal]
      cases htext : strftime 100 tm with
      | none =>
          have hbuffer : lastChangeBuffer env link = Prog.fail := by
            simp only [lastChangeBuffer, hstate, hlocal, htext]
          refine iff_of_false (not_writesInstant hlink ?_) ?_
          · rw [hbuffer]
            exact emits_fail
          · rw [← htext, written_iff hlocal]
            intro h
            cases hlocal.symm.trans h.localtime_eq
            cases htext.symm.trans h.strftime_eq
      | some text =>
          have hbuffer : lastChangeBuffer env link = pure text := by
            simp only [lastChangeBuffer, hstate, hlocal, htext]
          refine writesInstant_iff_of_text hlink (fun lib => ?_) fun _ _ => hbuffer
          rw [hbuffer]
          exact reports_pure rfl

/-- Both conversions of `interfaces_get_system_boot_time` succeed. -/
theorem interfacesGetSystemBootTime_eq (lib : TimeLib) {ts tm : DateTime}
    (hnow : localtime env.zone env.now = some ts)
    (hlocal : localtime env.zone (env.now - env.uptime) = some tm) :
    interfacesGetSystemBootTime lib env =
      if lib.sysinfo then (0, (strftime 100 tm).getD "") else (-1, "") := by
  delta interfacesGetSystemBootTime
  rw [hnow, hlocal]

/-- One of them does not. -/
theorem interfacesGetSystemBootTime_eq_error (lib : TimeLib)
    (h : localtime env.zone env.now = none ∨ localtime env.zone (env.now - env.uptime) = none) :
    interfacesGetSystemBootTime lib env = (-1, "") := by
  delta interfacesGetSystemBootTime
  rcases h with hnow | hlocal
  · rw [hnow]
  · rw [hlocal]
    split
    · rfl
    · exact ite_self _

theorem emits_discontinuityTimeBuffer {lib : TimeLib} {Q : String → Prop}
    (h : interfacesGetSystemBootTime lib env = (-1, "")) :
    Emits TimeState.texts (discontinuityTimeBuffer lib env) [] Q := by
  rw [discontinuityTimeBuffer, h]
  exact emits_fail

theorem writesInstant_discontinuityTime_iff (hlink : link ∈ env.cache.links) :
    WritesInstant (fun lib => discontinuityTime lib env link.name) (env.now - env.uptime) ↔
      (localtime env.zone env.now).isSome ∧ WrittenRight env.zone (env.now - env.uptime) := by
  cases hnow : localtime env.zone env.now with
  | none =>
      have herror := interfacesGetSystemBootTime_eq_error ⟨fun _ _ => true, true⟩ (.inl hnow)
      refine iff_of_false ?_ fun h => Bool.false_ne_true h.1
      exact not_writesInstant hlink (emits_discontinuityTimeBuffer herror)
  | some ts =>
      cases hlocal : localtime env.zone (env.now - env.uptime) with
      | none =>
          have herror := interfacesGetSystemBootTime_eq_error ⟨fun _ _ => true, true⟩ (.inr hlocal)
          refine iff_of_false ?_ fun h => ?_
          · exact not_writesInstant hlink (emits_discontinuityTimeBuffer herror)
          · cases hlocal.symm.trans h.2.localtime_eq
      | some tm =>
          rw [Option.isSome_some, eq_self, true_and, ← written_iff hlocal]
          refine writesInstant_iff_of_text hlink (fun lib => ?_) fun lib hsysinfo => ?_
          · rw [discontinuityTimeBuffer, interfacesGetSystemBootTime_eq lib hnow hlocal]
            cases lib.sysinfo with
            | false => exact ⟨emits_fail, fun s => by simp⟩
            | true => exact reports_pure rfl
          · rw [discontinuityTimeBuffer, interfacesGetSystemBootTime_eq lib hnow hlocal,
              if_pos hsysinfo]
            rfl

/-- Both times are right exactly where local time is UTC, in the years that a
date and time of YANG can have. -/
theorem reportedTimes_iff (hlink : link ∈ env.cache.links) :
    (∀ state, env.hash.get link.name = some state →
      (WritesInstant (fun lib => lastChange lib env link.name) state.lastChange ↔
        WrittenRight env.zone state.lastChange)) ∧
    (WritesInstant (fun lib => discontinuityTime lib env link.name) (env.now - env.uptime) ↔
      (localtime env.zone env.now).isSome ∧ WrittenRight env.zone (env.now - env.uptime)) :=
  ⟨fun _ hstate => writesInstant_lastChange_iff hlink hstate,
    writesInstant_discontinuityTime_iff hlink⟩

end Reported

/-! ## an hour ahead of UTC -/

def br0State : InterfaceState := { name := "br0", state := 6, lastChange := 1700000000 }

/-- The bridge has changed when the system was booted. -/
def bootedEnv (zone : Zone) : TimeEnv where
  cache := bridgeForest.toLinkCache
  hash := { elements := [br0State], names := by decide }
  zone := zone
  now := 1700000060
  uptime := 60

theorem reportedTimes_iff_bootedEnv :
    WritesInstant (fun lib => lastChange lib (bootedEnv ⟨fun _ => 0⟩) br0.name) 1700000000 ∧
      ¬ WritesInstant (fun lib => lastChange lib (bootedEnv ⟨fun _ => 3600⟩) br0.name)
        1700000000 := by
  have hlink : ∀ zone, br0 ∈ (bootedEnv zone).cache.links := fun _ => List.mem_cons_self
  have hstate : ∀ zone, (bootedEnv zone).hash.get br0.name = some br0State := fun _ => rfl
  constructor
  · refine ((reportedTimes_iff (hlink _)).1 br0State (hstate _)).mpr ⟨rfl, ?_⟩
    decide
  · intro h
    have hright := ((reportedTimes_iff (hlink _)).1 br0State (hstate _)).mp h
    exact absurd hright.1 (by decide)

/-- Both texts are `2023-11-14T23:13:20Z`, an hour late. -/
theorem bootedEnv_anHourLate :
    ¬ WritesInstant (fun lib => lastChange lib (bootedEnv ⟨fun _ => 3600⟩) br0.name) 1700000000 ∧
      ¬ WritesInstant (fun lib => discontinuityTime lib (bootedEnv ⟨fun _ => 3600⟩) br0.name)
        1700000000 := by
  have hlate : readRfc3339 "2023-11-14T23:13:20Z" ≠ some 1700000000 := by decide
  have hwritten : ∀ callback : TimeLib → TimeM Int,
      ((callback ⟨fun _ _ => true, true⟩).run {}).2.texts = ["2023-11-14T23:13:20Z"] →
        ¬ WritesInstant callback 1700000000 := by
    intro callback htexts h
    obtain ⟨error, s', new, hrun, hnew, hright, -⟩ := h ⟨fun _ _ => true, true⟩ {}
    rw [hrun] at htexts
    have hmem : "2023-11-14T23:13:20Z" ∈ new := by
      rw [← List.nil_append new, ← hnew, htexts]
      exact List.mem_cons_self
    exact hlate (hright _ hmem).1
  exact ⟨hwritten _ (by decide), hwritten _ (by decide)⟩

end SysrepoInterfaces.Interfaces
