import SysrepoInterfaces.Routing.RibKeys
import SysrepoInterfaces.Routing.StartupStatus

/-!
# SysrepoInterfaces.Routing.RibLabels

Which RIBs `routing_collect_ribs` makes a default one and which ones it gives
a description.  Both are told from the name by `strncmp` up to the length of
one side, so a name that only shares its beginning with a reserved one counts
as well.
-/

namespace SysrepoInterfaces.Routing

open CProg Keyed

/-! ## what the labels mean -/

/-- The tables that have a meaning to the kernel. -/
def reservedTables : List String := ["main", "default", "local"]

/-- `rtnl_route_str2table` knows the reserved tables by exactly their names. -/
structure ReservedNames (env : RoutingEnv) : Prop where
  main : ∀ name, env.str2table name = RT_TABLE_MAIN ↔ name = "main"
  default : ∀ name, env.str2table name = RT_TABLE_DEFAULT ↔ name = "default"
  locals : ∀ name, env.str2table name = RT_TABLE_LOCAL ↔ name = "local"

/-- The name of an address family, for those that have descriptions. -/
def describedFamily (af : Nat) : Option String :=
  if af = AF_INET then some "ipv4" else if af = AF_INET6 then some "ipv6" else none

/-- The description of a table, by its whole name. -/
def namedDescription (family name : String) : Option String :=
  (defaultDescriptions.find? fun pair => pair.1 = family ++ "-" ++ name).map Prod.snd

/-- The text for a table and an address family. -/
def tableDescription (name : String) (af : Nat) : Option String := do
  let family ← describedFamily af
  namedDescription family name

/-- The labels of a RIB are right: the one called `main` is the default, and
the reserved ones are described, each with its own text. -/
structure RibLabelled (rib : Rib) : Prop where
  default : rib.defaultRib = true ↔ rib.name.text = "main"
  described : rib.description ≠ "" ↔ rib.name.text ∈ reservedTables
  text : rib.name.text ∈ reservedTables →
    tableDescription rib.name.text rib.addressFamily = some rib.description

/-- A RIB whose name is not taken for another one; the reserved ones are of
IPv4 or IPv6. -/
structure NameApart (name : String) (af : Nat) : Prop where
  main : strPrefix "main" name → name = "main"
  described : name ∉ reservedTables → ∀ pair ∈ defaultDescriptions, ¬ strPrefix name pair.1
  family : name ∈ reservedTables → KnownFamily af

/-! ## the default flag -/

theorem isSome_ribListGet_add (ribsHead : List Rib) (name : RibName) (af : Nat) :
    (ribListGet (ribListAdd ribsHead name af) name af).isSome := isSome_lookup_ensure rfl

/-- The RIBs whose names begin with `main` are made default. -/
theorem defaultRib_collectRib {env : RoutingEnv} {ribsHead : List Rib} {route : RtnlRoute}
    (hnd : ((collectRib env ribsHead route).map Rib.key).Nodup)
    (h : ∀ rib ∈ ribsHead, rib.defaultRib = strPrefix "main" rib.name.text) :
    ∀ rib ∈ collectRib env ribsHead route, rib.defaultRib = strPrefix "main" rib.name.text := by
  intro rib hrib
  have hadd : ∀ x ∈ ribListAdd ribsHead (env.table2str route.table) route.family,
      x.key ≠ ribKey env route → x.defaultRib = strPrefix "main" x.name.text := by
    intro x hx hne
    rcases mem_ensure hx with hx | rfl
    · exact h x hx
    · exact absurd rfl hne
  rw [collectRib] at hrib hnd
  cases hmain : strPrefix "main" (env.table2str route.table).text with
  | false =>
      rw [hmain] at hrib
      rcases mem_ensure hrib with hrib | rfl
      · exact h rib hrib
      · exact hmain.symm
  | true =>
      rw [hmain, if_pos rfl, ribListSetDefault] at hrib hnd
      obtain ⟨found, hget⟩ := Option.isSome_iff_exists.mp (isSome_ribListGet_add ribsHead
        (env.table2str route.table) route.family)
      simp only [hget] at hrib hnd
      have hkey : ∀ x : Rib, ({ x with defaultRib := true } : Rib).key = x.key := fun _ => rfl
      rw [ribListUpdate, map_adjust hkey] at hnd
      rcases mem_adjust_of_nodup hkey hnd hrib with ⟨hmem, hne⟩ | ⟨x, hx, rfl⟩
      · exact hadd rib hmem hne
      · have hname : x.name = env.table2str route.table := congrArg Prod.fst (key_of_lookup hx)
        rw [hname, hmain]

/-- The default flag after all routes. -/
theorem defaultRib_routingCollectRibs (env : RoutingEnv) (routesCache : List RtnlRoute) :
    ∀ rib ∈ (routingCollectRibs env routesCache []).2,
      rib.defaultRib = strPrefix "main" rib.name.text := by
  have hfold : ∀ rib ∈ routesCache.foldl (collectRib env) [],
      rib.defaultRib = strPrefix "main" rib.name.text := by
    induction routesCache using List.reverseRecOn with
    | nil => simp
    | append_singleton routesCache route ih =>
        have hnd : (((routesCache ++ [route]).foldl (collectRib env) []).map Rib.key).Nodup := by
          rw [map_key_foldl_collectRib]
          exact nodup_eraseDups _
        rw [List.foldl_append, List.foldl_cons, List.foldl_nil] at hnd ⊢
        exact defaultRib_collectRib hnd ih
  intro rib hrib
  obtain ⟨rib, hmem, rfl⟩ := List.mem_map.mp hrib
  have hname : (ribBuildDescription env rib).name = rib.name :=
    congrArg Prod.fst (key_ribBuildDescription env rib)
  rw [hname, ← hfold rib hmem, ribBuildDescription]
  split <;> rfl

/-! ## the descriptions -/

/-- The text of the first description a name is the beginning of. -/
def prefixDescription (nameBuffer : String) : Option String :=
  (defaultDescriptions.find? fun pair => strPrefix nameBuffer pair.1).map Prod.snd

theorem ribDescription_eq (env : RoutingEnv) (key : RibName × Nat) :
    ribDescription env key = (prefixDescription
      (if routingIsRibKnown (env.str2table key.1.text) then
        ribFamilyName key.2 ++ "-" ++ key.1.text else key.1.text)).getD "" := by
  simp only [ribDescription, ribBuildDescription, prefixDescription]
  cases defaultDescriptions.find? _ <;> rfl

theorem text_ne_empty : ∀ pair ∈ defaultDescriptions, pair.2 ≠ "" := by
  simp [defaultDescriptions]

theorem prefixDescription_ne_empty_iff (nameBuffer : String) :
    (prefixDescription nameBuffer).getD "" ≠ "" ↔
      ∃ pair ∈ defaultDescriptions, strPrefix nameBuffer pair.1 := by
  rw [prefixDescription, ← List.find?_isSome]
  cases hfind : defaultDescriptions.find? _ with
  | none => simp
  | some pair => simpa using text_ne_empty pair (List.mem_of_find?_eq_some hfind)

/-- With the family in front, only the whole name of a reserved table is the
beginning of a description's name. -/
theorem prefixDescription_eq_namedDescription : ∀ family ∈ ["ipv4", "ipv6"],
    ∀ name ∈ reservedTables,
      prefixDescription (family ++ "-" ++ name) = namedDescription family name := by
  have hexact : ∀ family ∈ ["ipv4", "ipv6"], ∀ name ∈ reservedTables,
      ∀ pair ∈ defaultDescriptions, strPrefix (family ++ "-" ++ name) pair.1 =
        decide (pair.1 = family ++ "-" ++ name) := by decide
  intro family hfamily name hname
  rw [prefixDescription, namedDescription, ← List.head?_filter, ← List.head?_filter,
    List.filter_congr (hexact family hfamily name hname)]

theorem ne_empty_of_namedDescription {family name text : String}
    (h : namedDescription family name = some text) : text ≠ "" := by
  obtain ⟨pair, hfind, rfl⟩ := Option.map_eq_some_iff.mp h
  exact text_ne_empty pair (List.mem_of_find?_eq_some hfind)

theorem isSome_namedDescription : ∀ family ∈ ["ipv4", "ipv6"], ∀ name ∈ reservedTables,
    (namedDescription family name).isSome := by
  have hmem : ∀ family ∈ ["ipv4", "ipv6"], ∀ name ∈ reservedTables,
      ∃ pair ∈ defaultDescriptions, decide (pair.1 = family ++ "-" ++ name) = true := by decide
  intro family hfamily name hname
  rw [namedDescription, Option.isSome_map, List.find?_isSome]
  exact hmem family hfamily name hname

theorem routingIsRibKnown_iff {env : RoutingEnv} (hnames : ReservedNames env) (name : String) :
    routingIsRibKnown (env.str2table name) = true ↔ name ∈ reservedTables := by
  have hmain := hnames.main name
  have hdefault := hnames.default name
  have hlocals := hnames.locals name
  simp only [routingIsRibKnown, Bool.or_eq_true, decide_eq_true_eq, hmain, hdefault, hlocals,
    reservedTables, List.mem_cons, List.not_mem_nil, or_false]
  tauto

theorem mem_ribFamilyName (af : Nat) : ribFamilyName af ∈ ["ipv4", "ipv6"] := by
  rw [ribFamilyName]
  split <;> decide

/-- A reserved table gets the text of its whole name. -/
theorem ribDescription_of_mem {env : RoutingEnv} (hnames : ReservedNames env)
    (key : RibName × Nat) (h : key.1.text ∈ reservedTables) :
    namedDescription (ribFamilyName key.2) key.1.text = some (ribDescription env key) := by
  have hfamily := mem_ribFamilyName key.2
  obtain ⟨text, htext⟩ := Option.isSome_iff_exists.mp (isSome_namedDescription _ hfamily _ h)
  rw [ribDescription_eq, if_pos ((routingIsRibKnown_iff hnames _).mpr h),
    prefixDescription_eq_namedDescription _ hfamily _ h, htext]
  rfl

/-- Any other table gets the first text whose name begins with its own. -/
theorem ribDescription_of_not_mem {env : RoutingEnv} (hnames : ReservedNames env)
    {key : RibName × Nat} (h : key.1.text ∉ reservedTables) :
    ribDescription env key = (prefixDescription key.1.text).getD "" := by
  rw [ribDescription_eq, if_neg (mt (routingIsRibKnown_iff hnames _).mp h)]

/-- For IPv4 and IPv6 the text is that of the family, for other families there
is none. -/
theorem tableDescription_eq_iff {env : RoutingEnv} (hnames : ReservedNames env)
    (key : RibName × Nat) (h : key.1.text ∈ reservedTables) :
    tableDescription key.1.text key.2 = some (ribDescription env key) ↔ KnownFamily key.2 := by
  have htext := ribDescription_of_mem hnames key h
  rw [tableDescription, describedFamily, KnownFamily]
  rw [ribFamilyName] at htext
  by_cases hinet : key.2 = AF_INET
  · simpa [hinet] using htext
  · by_cases hinet6 : key.2 = AF_INET6
    · rw [if_neg hinet] at htext
      have hne : AF_INET6 ≠ AF_INET := by decide
      simpa [hinet6, hne] using htext
    · simp [hinet, hinet6]

/-! ## the labels of all RIBs -/

/-- A RIB that was collected has its labels right exactly when its name is not
taken for another one. -/
theorem ribLabelled_iff {env : RoutingEnv} (hnames : ReservedNames env)
    {routesCache : List RtnlRoute} {rib : Rib}
    (hrib : rib ∈ (routingCollectRibs env routesCache []).2) :
    RibLabelled rib ↔ NameApart rib.name.text rib.addressFamily := by
  have hdefault := defaultRib_routingCollectRibs env routesCache rib hrib
  have hdescription := description_routingCollectRibs env routesCache rib hrib
  have hmain : strPrefix "main" "main" = true := by decide
  constructor
  · intro h
    refine ⟨?_, ?_, ?_⟩
    · intro hpre
      exact h.default.mp (hdefault.trans hpre)
    · intro hmem pair hpair hpre
      apply hmem
      rw [← h.described, hdescription, ribDescription_of_not_mem hnames hmem,
        prefixDescription_ne_empty_iff]
      exact ⟨pair, hpair, hpre⟩
    · intro hmem
      have htext := h.text hmem
      rw [hdescription] at htext
      exact (tableDescription_eq_iff hnames rib.key hmem).mp htext
  · intro h
    refine ⟨?_, ?_, ?_⟩
    · rw [hdefault]
      exact ⟨h.main, fun heq => heq ▸ hmain⟩
    · rw [hdescription]
      by_cases hmem : rib.name.text ∈ reservedTables
      · have htext := ribDescription_of_mem hnames rib.key hmem
        exact iff_of_true (ne_empty_of_namedDescription htext) hmem
      · rw [ribDescription_of_not_mem hnames hmem, prefixDescription_ne_empty_iff]
        refine iff_of_false ?_ hmem
        rintro ⟨pair, hpair, hpre⟩
        exact h.described hmem pair hpair hpre
    · intro hmem
      rw [hdescription]
      exact (tableDescription_eq_iff hnames rib.key hmem).mpr (h.family hmem)

/-- The labels are right exactly when no table of the cache has a name that is
taken for another one. -/
theorem ribsLabelled_iff (env : RoutingEnv) (hnames : ReservedNames env)
    (routesCache : List RtnlRoute) :
    (∀ rib ∈ (routingCollectRibs env routesCache []).2, RibLabelled rib) ↔
      ∀ route ∈ routesCache, NameApart (env.table2str route.table).text route.family := by
  obtain ⟨ribs, hcollect, hkeys, -⟩ := routingCollectRibs_nil env routesCache
  have hlabelled : (∀ rib ∈ (routingCollectRibs env routesCache []).2, RibLabelled rib) ↔
      ∀ key ∈ ribs.map Rib.key, NameApart key.1.text key.2 := by
    rw [hcollect, List.forall_mem_map]
    refine forall₂_congr fun rib hrib => ?_
    rw [← hcollect] at hrib
    exact ribLabelled_iff hnames hrib
  rw [hlabelled, hkeys]
  simp only [mem_eraseDups, List.forall_mem_map]
  rfl

/-- A table naming with a table of the administrator's. -/
def mainframeEnv : RoutingEnv :=
  { sampleEnv with
    table2str := fun table =>
      if table = 100 then ⟨"mainframe", by decide⟩ else sampleEnv.table2str table
    str2table := fun name =>
      if name = "main" then RT_TABLE_MAIN
      else if name = "default" then RT_TABLE_DEFAULT
      else if name = "local" then RT_TABLE_LOCAL
      else if name = "mainframe" then 100
      else -1 }

theorem reservedNames_mainframeEnv : ReservedNames mainframeEnv := by
  constructor <;>
  · intro name
    simp only [mainframeEnv]
    split_ifs <;> simp_all <;> decide

/-- A unicast route of a table. -/
def routeInTable (table : Nat) : RtnlRoute :=
  { rtnlRouteAlloc (addr4 0x0a000000 8) with table := table }

/-- Routes of the main and the default table, of both families. -/
def labelledRoutes : List RtnlRoute := [
  routeInTable RT_TABLE_MAIN,
  routeInTable RT_TABLE_DEFAULT,
  { routeInTable RT_TABLE_MAIN with family := AF_INET6 },
  { routeInTable RT_TABLE_MAIN with dst := addr4 0xac100000 12 }]

theorem ribsLabelled_iff_mainTable :
    (routingCollectRibs mainframeEnv labelledRoutes []).2.length = 3 ∧
    ∀ rib ∈ (routingCollectRibs mainframeEnv labelledRoutes []).2, RibLabelled rib := by
  refine ⟨by decide, (ribsLabelled_iff mainframeEnv reservedNames_mainframeEnv _).mpr ?_⟩
  simp only [labelledRoutes, List.forall_mem_cons, List.not_mem_nil, false_implies,
    implies_true, and_true]
  exact ⟨⟨by decide, by decide, fun _ => .inl rfl⟩, ⟨by decide, by decide, fun _ => .inl rfl⟩,
    ⟨by decide, by decide, fun _ => .inr rfl⟩, ⟨by decide, by decide, fun _ => .inl rfl⟩⟩

/-- The table `mainframe` is made a default one. -/
theorem mainframe_default : ReservedNames mainframeEnv ∧
    ¬ ∀ rib ∈ (routingCollectRibs mainframeEnv [routeInTable 100] []).2, RibLabelled rib := by
  refine ⟨reservedNames_mainframeEnv, ?_⟩
  intro h
  have hdefault := (h _ (List.mem_singleton_self _)).default
  exact absurd hdefault (by decide)

end SysrepoInterfaces.Routing
