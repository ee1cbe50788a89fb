import KeyNetra.Config.ApiKeys
import KeyNetra.Lib.Fallible
import KeyNetra.Lib.Text

/-!
# KeyNetra.Config.ConfigFile — configuration files, and the environment they are handed on through

A configuration file is read as an object and normalized. The command line writes what it sets to
environment variables, the lists of paths joined by commas, and the settings read them from there;
the embedded facade uses the normalized object as it is.

* `normalizeConfig` — the object, normalized;
* `applyConfigToEnvironment` / `Settings.ofEnvironment` — the way through the environment;
* `config_carried_iff` — all that the file sets arrives, exactly if no path contains a comma;
* `same_policies_iff` — the server and the embedded facade load the same policies, whatever the
  files hold, under the same condition.
-/

namespace KeyNetra

/-! ## The file -/

/-- `KeyNetraFileConfig`. -/
structure KeyNetraFileConfig where
  databaseUrl : Option String
  redisUrl : Option String
  policyPaths : List String
  modelPaths : List String
  seedData : Option Bool
  serverHost : Option String
  serverPort : Option Int

/-- `_nested`. -/
def nestedItem (payload : Dict) (part key : String) : Value :=
  match Dict.get payload part with
  | .dict fields => Dict.get fields key
  | _ => .null

/-- `[item for item in items if isinstance(item, str)]`, of a list. -/
def textItems : Value → List String
  | .list items => items.filterMap fun
    | .str text => some text
    | _ => none
  | _ => []

/-- `_paths_from_payload`. -/
def pathsFromPayload (payload : Dict) (part pluralKey : String) : List String :=
  let single := match nestedItem payload part "path" with
    | .str path => [path]
    | _ => []
  let out := textItems (Dict.get payload pluralKey) ++
    (single ++ textItems (nestedItem payload part "paths"))
  ((out.map pyStrip).filter (· ≠ "")).eraseDups

/-- `_as_bool`. -/
def asBool : Value → Option Bool
  | .bool b => some b
  | .str text =>
      let normalized := pyLower (pyStrip text)
      if normalized ∈ ["true", "1", "yes", "on"] then some true
      else if normalized ∈ ["false", "0", "no", "off"] then some false
      else none
  | _ => none

section Normalize

variable [PyRuntime]

/-- `_as_str`. -/
def asStr : Value → Option String
  | .null => none
  | .str text => if pyStrip text = "" then none else some (pyStrip text)
  | value => some value.text

/-- `_as_int`: an infinity is not caught. -/
def asInt : Value → Except PyError (Option Int)
  | .null => .ok none
  | value =>
      match value.toInt with
      | .ok n => .ok (some n)
      | .error (.typeError _) | .error (.valueError _) => .ok none
      | .error e => .error e

/-- `_normalize_config`. -/
def normalizeConfig (payload : Dict) : Except PyError KeyNetraFileConfig := do
  let serverPort ← asInt (nestedItem payload "server" "port")
  .ok
    { databaseUrl := asStr (nestedItem payload "database" "url")
      redisUrl := asStr (nestedItem payload "redis" "url")
      policyPaths := pathsFromPayload payload "policies" "policy_paths"
      modelPaths := pathsFromPayload payload "models" "model_paths"
      seedData := asBool (Dict.get payload "seed_data")
      serverHost := asStr (nestedItem payload "server" "host")
      serverPort }

end Normalize

/-! ## The environment -/

/-- The variables that the modelled settings are read from. -/
inductive EnvVariable where
  | databaseUrl
  | redisUrl
  | policiesJson
  | policyPaths
  | modelPaths
  | autoSeedSampleData
  | serverHost
  | serverPort
deriving DecidableEq, Repr

/-- `os.environ`. -/
abbrev Environ := EnvVariable → Option String

/-- `os.environ[name] = value`. -/
def Environ.set (env : Environ) (name : EnvVariable) (value : String) : Except PyError Environ :=
  if value.toList.contains '\x00' then .error (.valueError "embedded null byte")
  else .ok (Function.update env name (some value))

/-- `if value:`, of a text. -/
def nonBlank (value : Option String) : Option String := value.filter (· ≠ "")

/-- `",".join(paths)`, if there are paths. -/
def joinedPaths (paths : List String) : Option String :=
  if paths = [] then none else some (",".intercalate paths)

/-- `str(n)`, which writes 4300 digits at most. -/
def intText (n : Int) : Except PyError String :=
  if (Nat.toDigits 10 n.natAbs).length ≤ 4300 then .ok (toString n)
  else .error (.valueError "Exceeds the limit (4300 digits) for integer string conversion")

/-- What `apply_config_to_environment` sets a variable to, if it does. -/
def KeyNetraFileConfig.assigned (config : KeyNetraFileConfig) :
    EnvVariable → Except PyError (Option String)
  | .databaseUrl => .ok (nonBlank config.databaseUrl)
  | .redisUrl => .ok (nonBlank config.redisUrl)
  | .policiesJson => .ok none
  | .policyPaths => .ok (joinedPaths config.policyPaths)
  | .modelPaths => .ok (joinedPaths config.modelPaths)
  | .autoSeedSampleData => .ok (config.seedData.map fun seed => if seed then "true" else "false")
  | .serverHost => .ok (nonBlank config.serverHost)
  | .serverPort => config.serverPort.elim (.ok none) fun port => some <$> intText port

/-- The variables in the order they are set. -/
def assignedVariables : List EnvVariable :=
  [.databaseUrl, .redisUrl, .policyPaths, .modelPaths, .autoSeedSampleData, .serverHost, .serverPort]

/-- One assignment. -/
def KeyNetraFileConfig.assign (config : KeyNetraFileConfig) (env : Environ) (name : EnvVariable) :
    Except PyError Environ := do
  match ← config.assigned name with
  | none => .ok env
  | some value => env.set name value

/-- `apply_config_to_environment`. -/
def applyConfigToEnvironment (config : KeyNetraFileConfig) (env : Environ) :
    Except PyError Environ :=
  assignedVariables.foldlM config.assign env

/-! ## The settings -/

/-- How the settings library reads a boolean and an integer. -/
structure EnvReader where
  bool : String → Option Bool
  int : String → Option Int

/-- What it documents of them. -/
structure EnvReader.Documented (reader : EnvReader) : Prop where
  reads_true : reader.bool "true" = some true
  reads_false : reader.bool "false" = some false
  reads_int : ∀ n : Int, (Nat.toDigits 10 n.natAbs).length ≤ 4300 →
    reader.int (toString n) = some n

/-- The fields of `Settings` that a file can set, and `policies_json`. -/
structure FileSettings where
  databaseUrl : String
  redisUrl : Option String
  policiesJson : Option String
  policyPaths : Option String
  modelPaths : Option String
  autoSeedSampleData : Bool
  serverHost : String
  serverPort : Int

/-- `Settings()`, if its fields are valid. -/
def FileSettings.ofEnvironment (reader : EnvReader) (env : Environ) : Option FileSettings := do
  let autoSeedSampleData ← (env .autoSeedSampleData).elim (some false) reader.bool
  let serverPort ← (env .serverPort).elim (some 8000) reader.int
  some
    { databaseUrl := (env .databaseUrl).getD "sqlite+pysqlite:///./keynetra.db"
      redisUrl := env .redisUrl
      policiesJson := env .policiesJson
      policyPaths := env .policyPaths
      modelPaths := env .modelPaths
      autoSeedSampleData
      serverHost := (env .serverHost).getD "0.0.0.0"
      serverPort }

/-- `settings.parsed_policy_paths`. -/
def FileSettings.parsedPolicyPaths (settings : FileSettings) : List String :=
  commaParts (settings.policyPaths.getD "")

/-- `settings.parsed_model_paths`. -/
def FileSettings.parsedModelPaths (settings : FileSettings) : List String :=
  commaParts (settings.modelPaths.getD "")

/-! ## Through the environment -/

variable {config : KeyNetraFileConfig} {env env' : Environ}

theorem assign_ok {name : EnvVariable} (h : config.assign env name = .ok env') :
    ∃ value, config.assigned name = .ok value ∧ env' name = value.or (env name) ∧
      ∀ other, other ≠ name → env' other = env other := by
  unfold KeyNetraFileConfig.assign at h
  obtain ⟨value, hassigned, h⟩ := Lib.bind_eq_ok.mp h
  refine ⟨value, hassigned, ?_⟩
  cases value with
  | none =>
      cases h
      exact ⟨rfl, fun _ _ => rfl⟩
  | some text =>
      dsimp only at h
      unfold Environ.set at h
      split at h
      · cases h
      · cases h
        exact ⟨Function.update_self .., fun other hne => Function.update_of_ne hne ..⟩

/-- What a variable holds after the assignments. -/
theorem foldlM_assign {names : List EnvVariable} (hnames : names.Nodup)
    (h : names.foldlM config.assign env = .ok env') (name : EnvVariable) :
    (name ∈ names → ∃ value, config.assigned name = .ok value ∧
      env' name = value.or (env name)) ∧ (name ∉ names → env' name = env name) := by
  induction names generalizing env with
  | nil =>
      cases h
      exact ⟨fun hmem => absurd hmem List.not_mem_nil, fun _ => rfl⟩
  | cons first names ih =>
      obtain ⟨hfirst, hnames⟩ := List.nodup_cons.mp hnames
      rw [List.foldlM_cons] at h
      obtain ⟨middle, hassign, h⟩ := Lib.bind_eq_ok.mp h
      obtain ⟨value, hassigned, hvalue, hothers⟩ := assign_ok hassign
      obtain ⟨hin, hout⟩ := ih hnames h
      constructor
      · intro hmem
        -- the first variable is not set again by the rest
        by_cases hname : name = first
        · subst hname
          exact ⟨value, hassigned, (hout hfirst).trans hvalue⟩
        · obtain ⟨value', hassigned', hvalue'⟩ := hin (List.mem_of_ne_of_mem hname hmem)
          rw [hothers name hname] at hvalue'
          exact ⟨value', hassigned', hvalue'⟩
      · -- a variable outside the list is no variable of it
        intro hmem
        rw [hout fun hrest => hmem (List.mem_cons_of_mem _ hrest)]
        apply hothers
        rintro rfl
        exact hmem List.mem_cons_self

/-- A variable that the configuration sets, or that it leaves. -/
theorem applied (h : applyConfigToEnvironment config env = .ok env') (name : EnvVariable) :
    ∃ value, config.assigned name = .ok value ∧ env' name = value.or (env name) := by
  obtain ⟨hin, hout⟩ := foldlM_assign (by decide) h name
  by_cases hmem : name ∈ assignedVariables
  · exact hin hmem
  · refine ⟨none, ?_, hout hmem⟩
    cases name with
    | policiesJson => rfl
    | _ => exact absurd (by decide) hmem

/-! ## Lists of paths -/

/-- A path that is read from a file is trimmed, and not empty. -/
theorem pathsFromPayload_trimmed {payload : Dict} {part pluralKey path : String}
    (h : path ∈ pathsFromPayload payload part pluralKey) : pyStrip path = path ∧ path ≠ "" := by
  unfold pathsFromPayload at h
  dsimp only at h
  rw [List.mem_eraseDups] at h
  obtain ⟨hmem, hblank⟩ := List.mem_filter.mp h
  obtain ⟨written, -, hpath⟩ := List.mem_map.mp hmem
  constructor
  · rw [← hpath, pyStrip_pyStrip]
  · exact of_decide_eq_true hblank

theorem pyStrip_subset {text : String} {c : Char} (h : c ∈ (pyStrip text).toList) :
    c ∈ text.toList := by
  unfold pyStrip at h
  rw [String.toList_ofList, List.mem_reverse] at h
  have hrest := (List.dropWhile_sublist _).subset h
  rw [List.mem_reverse] at hrest
  exact (List.dropWhile_sublist _).subset hrest

/-- What is read of a list of paths contains no comma. -/
theorem comma_notMem_commaParts {text path : String} (h : path ∈ commaParts text) :
    ',' ∉ path.toList := by
  obtain ⟨part, hpart, hpath⟩ := List.mem_map.mp (List.mem_filter.mp h).1
  intro hcomma
  rw [← hpath] at hcomma
  have hin := pyStrip_subset hcomma
  rw [String.toList_ofList] at hin
  exact Lib.notMem_of_mem_splitOn hpart hin

/-- Paths that are joined are read back exactly if none contains a comma. -/
theorem commaParts_join_iff {paths : List String}
    (htrimmed : ∀ path ∈ paths, pyStrip path = path ∧ path ≠ "") :
    commaParts (",".intercalate paths) = paths ↔ ∀ path ∈ paths, ',' ∉ path.toList := by
  constructor
  · -- what is read contains no comma, so a path with one is not read back
    intro hread path hmem
    rw [← hread] at hmem
    exact comma_notMem_commaParts hmem
  · intro hcommas
    by_cases hempty : paths = []
    · rw [hempty]
      rfl
    · -- the join is split where it was joined
      have hseparator : (",").toList = [','] := rfl
      have hfree : ∀ field ∈ paths.map String.toList, ',' ∉ field := by
        intro field hfield
        obtain ⟨path, hmem, rfl⟩ := List.mem_map.mp hfield
        exact hcommas path hmem
      have hsplit : (",".intercalate paths).toList.splitOn ',' = paths.map String.toList := by
        rw [String.toList_intercalate, hseparator]
        exact List.splitOn_intercalate ',' hfree (by simpa using hempty)
      -- and trimming changes nothing, for the paths are trimmed
      have hstripped : (paths.map String.toList).map
          (fun part => pyStrip (String.ofList part)) = paths := by
        nth_rewrite 2 [← List.map_id paths]
        rw [List.map_map]
        apply List.map_congr_left
        intro path hmem
        show pyStrip (String.ofList path.toList) = path
        rw [String.ofList_toList]
        exact (htrimmed path hmem).1
      unfold commaParts
      rw [hsplit, hstripped]
      apply List.filter_eq_self.mpr
      intro path hmem
      exact decide_eq_true (htrimmed path hmem).2

/-- What a list of paths is read as behind `apply_config_to_environment`. -/
theorem read_joinedPaths_iff {paths : List String} (previous : Option String)
    (htrimmed : ∀ path ∈ paths, pyStrip path = path ∧ path ≠ "") :
    (commaParts (((joinedPaths paths).or previous).getD "") =
      if paths = [] then commaParts (previous.getD "") else paths) ↔
      ∀ path ∈ paths, ',' ∉ path.toList := by
  unfold joinedPaths
  by_cases hempty : paths = []
  · subst hempty
    simp
  · rw [if_neg hempty, if_neg hempty, ← commaParts_join_iff htrimmed]
    rfl

/-! ## What arrives -/

/-- The settings hold what the configuration sets, and beside it what the environment held. -/
structure Carried (config : KeyNetraFileConfig) (env : Environ) (settings : FileSettings) : Prop where
  databaseUrl : settings.databaseUrl =
    ((nonBlank config.databaseUrl).or (env .databaseUrl)).getD "sqlite+pysqlite:///./keynetra.db"
  redisUrl : settings.redisUrl = (nonBlank config.redisUrl).or (env .redisUrl)
  policiesJson : settings.policiesJson = env .policiesJson
  policyPaths : settings.parsedPolicyPaths =
    if config.policyPaths = [] then commaParts ((env .policyPaths).getD "") else config.policyPaths
  modelPaths : settings.parsedModelPaths =
    if config.modelPaths = [] then commaParts ((env .modelPaths).getD "") else config.modelPaths
  autoSeedSampleData : ∀ seed, config.seedData = some seed → settings.autoSeedSampleData = seed
  serverHost : settings.serverHost =
    ((nonBlank config.serverHost).or (env .serverHost)).getD "0.0.0.0"
  serverPort : ∀ port, config.serverPort = some port → settings.serverPort = port

section Arrives

variable [PyRuntime] {payload : Dict} {reader : EnvReader} {settings : FileSettings}

theorem normalizeConfig_trimmed (h : normalizeConfig payload = .ok config) :
    (∀ path ∈ config.policyPaths, pyStrip path = path ∧ path ≠ "") ∧
      ∀ path ∈ config.modelPaths, pyStrip path = path ∧ path ≠ "" := by
  obtain ⟨port, -, h⟩ := Lib.bind_eq_ok.mp h
  cases h
  exact ⟨fun _ => pathsFromPayload_trimmed, fun _ => pathsFromPayload_trimmed⟩

omit [PyRuntime] in
/-- What the settings read of the environment. -/
theorem ofEnvironment_eq (h : FileSettings.ofEnvironment reader env' = some settings) :
    (env' .autoSeedSampleData).elim (some false) reader.bool = some settings.autoSeedSampleData ∧
      (env' .serverPort).elim (some 8000) reader.int = some settings.serverPort ∧
      settings.databaseUrl = (env' .databaseUrl).getD "sqlite+pysqlite:///./keynetra.db" ∧
      settings.redisUrl = env' .redisUrl ∧ settings.policiesJson = env' .policiesJson ∧
      settings.policyPaths = env' .policyPaths ∧ settings.modelPaths = env' .modelPaths ∧
      settings.serverHost = (env' .serverHost).getD "0.0.0.0" := by
  obtain ⟨seed, hseed, h⟩ := Option.bind_eq_some_iff.mp h
  obtain ⟨port, hport, h⟩ := Option.bind_eq_some_iff.mp h
  cases h
  exact ⟨hseed, hport, rfl, rfl, rfl, rfl, rfl, rfl⟩

/-- All that a file sets arrives in the settings, exactly if no path contains a comma. -/
theorem config_carried_iff (hconfig : normalizeConfig payload = .ok config)
    (happly : applyConfigToEnvironment config env = .ok env') (hreader : reader.Documented)
    (hsettings : FileSettings.ofEnvironment reader env' = some settings) :
    Carried config env settings ↔
      ∀ path ∈ config.policyPaths ++ config.modelPaths, ',' ∉ path.toList := by
  obtain ⟨hpolicyTrimmed, hmodelTrimmed⟩ := normalizeConfig_trimmed hconfig
  obtain ⟨hseed, hport, hdatabase, hredis, hjson, hpolicies, hmodels, hhost⟩ :=
    ofEnvironment_eq hsettings
  -- a variable is set once, so it holds what it was assigned
  have hset : ∀ (name : EnvVariable) {value : Option String}, config.assigned name = .ok value →
      env' name = value.or (env name) := by
    intro name value hassigned
    obtain ⟨value', hassigned', henv⟩ := applied happly name
    rw [hassigned] at hassigned'
    cases hassigned'
    exact henv
  have hpolicyPaths : settings.parsedPolicyPaths =
      commaParts (((joinedPaths config.policyPaths).or (env .policyPaths)).getD "") := by
    have henv := hset .policyPaths rfl
    unfold FileSettings.parsedPolicyPaths
    rw [hpolicies, henv]
  have hmodelPaths : settings.parsedModelPaths =
      commaParts (((joinedPaths config.modelPaths).or (env .modelPaths)).getD "") := by
    have henv := hset .modelPaths rfl
    unfold FileSettings.parsedModelPaths
    rw [hmodels, henv]
  -- of all fields only the two lists of paths can be read back as something else
  rw [List.forall_mem_append, ← read_joinedPaths_iff (env .policyPaths) hpolicyTrimmed,
    ← read_joinedPaths_iff (env .modelPaths) hmodelTrimmed, ← hpolicyPaths, ← hmodelPaths]
  constructor
  · intro h
    exact ⟨h.policyPaths, h.modelPaths⟩
  · rintro ⟨hpolicy, hmodel⟩
    refine ⟨?_, ?_, ?_, hpolicy, hmodel, ?_, ?_, ?_⟩
    · rw [hdatabase, hset .databaseUrl rfl]
    · rw [hredis, hset .redisUrl rfl]
    · rw [hjson, hset .policiesJson rfl]
      rfl
    · intro seed hfile
      rw [hset .autoSeedSampleData rfl, hfile] at hseed
      cases seed with
      | true => exact Option.some.inj (hseed.symm.trans hreader.reads_true)
      | false => exact Option.some.inj (hseed.symm.trans hreader.reads_false)
    · rw [hhost, hset .serverHost rfl]
    · -- the port is written out, within the digits that can be read back
      intro port hfile
      have hassigned : config.assigned .serverPort = some <$> intText port := by
        show config.serverPort.elim _ _ = _
        rw [hfile]
        rfl
      obtain ⟨value, hvalue, henv⟩ := applied happly .serverPort
      rw [hassigned] at hvalue
      unfold intText at hvalue
      split at hvalue
      · rename_i hshort
        cases hvalue
        rw [henv] at hport
        exact Option.some.inj (hport.symm.trans (hreader.reads_int port hshort))
      · cases hvalue

end Arrives

/-! ## The policies of the files -/

section Policies

variable (read : String → Except PyError (List Dict)) (default : List Dict)

/-- `load_policies_from_paths`, where `read` gives the policies a path leads to: those of its
file, or of the files of its directory in order. -/
def loadPoliciesFromPaths (paths : List String) : Except PyError (List Dict) :=
  List.flatten <$> paths.mapM read

variable {read} in
/-- The policies of all paths load if and only if those of each path do. -/
theorem loads_iff {paths : List String} :
    (∃ loaded, loadPoliciesFromPaths read paths = .ok loaded) ↔
      ∀ path ∈ paths, ∃ policies, read path = .ok policies := by
  unfold loadPoliciesFromPaths
  rw [Lib.map_returns_iff]
  constructor
  · rintro ⟨lists, hlists⟩ path hmem
    cases hread : read path with
    | error e => exact absurd hlists (Lib.mapM_ne_ok hmem hread lists)
    | ok policies => exact ⟨policies, rfl⟩
  · intro hall
    choose! policies hread using hall
    exact ⟨_, Lib.mapM_ok_of_forall hread⟩

/-- `loaded or default`. -/
def orDefault (loaded : List Dict) : List Dict := if loaded = [] then default else loaded

/-- `settings.load_policies`, where `loads` reads a JSON text. -/
def FileSettings.loadPolicies (loads : String → Option Value) (settings : FileSettings) :
    Except PyError (List Dict) :=
  match nonBlank settings.policiesJson with
  | none =>
      if settings.parsedPolicyPaths = [] then .ok default
      else orDefault default <$> loadPoliciesFromPaths read settings.parsedPolicyPaths
  | some text =>
      match loads text with
      | some (.list items) => .ok (items.filterMap fun
          | .dict policy => some policy
          | _ => none)
      | _ => .ok default

/-- The policies of `KeyNetra.from_config`. -/
def embeddedPolicies (config : KeyNetraFileConfig) : Except PyError (List Dict) :=
  orDefault default <$> loadPoliciesFromPaths read config.policyPaths

end Policies

/-- A reader that refuses the paths with a comma. -/
def refusesCommas (path : String) : Except PyError (List Dict) :=
  if ',' ∈ path.toList then .error (.valueError "unsupported policy format") else .ok []

/-- A server and an embedded facade that are given one file load the same policies, whatever its
paths lead to, exactly if no path contains a comma. -/
theorem same_policies_iff [PyRuntime] {payload : Dict} {reader : EnvReader}
    {settings : FileSettings} (hconfig : normalizeConfig payload = .ok config)
    (happly : applyConfigToEnvironment config env = .ok env')
    (hsettings : FileSettings.ofEnvironment reader env' = some settings)
    (hjson : nonBlank (env .policiesJson) = none) (hpaths : config.policyPaths ≠ [])
    (default : List Dict) (loads : String → Option Value) :
    (∀ read, settings.loadPolicies read default loads = embeddedPolicies read default config) ↔
      ∀ path ∈ config.policyPaths, ',' ∉ path.toList := by
  have hread : settings.parsedPolicyPaths = config.policyPaths ↔
      ∀ path ∈ config.policyPaths, ',' ∉ path.toList := by
    obtain ⟨htrimmed, -⟩ := normalizeConfig_trimmed hconfig
    obtain ⟨-, -, -, -, -, hpolicies, -⟩ := ofEnvironment_eq hsettings
    obtain ⟨value, hassigned, henv⟩ := applied happly .policyPaths
    cases hassigned
    unfold FileSettings.parsedPolicyPaths
    rw [hpolicies, henv, ← read_joinedPaths_iff (env .policyPaths) htrimmed, if_neg hpaths]
  have hblank : nonBlank settings.policiesJson = none := by
    obtain ⟨-, -, -, -, hpoliciesJson, -⟩ := ofEnvironment_eq hsettings
    obtain ⟨value, hassigned, henv⟩ := applied happly .policiesJson
    cases hassigned
    rw [hpoliciesJson, henv]
    exact hjson
  unfold FileSettings.loadPolicies embeddedPolicies
  rw [hblank]
  dsimp only
  constructor
  · intro hsame path hmem hcomma
    -- such a reader fails the facade, and never the server
    have hfails := hsame refusesCommas
    have hserver := (@loads_iff refusesCommas settings.parsedPolicyPaths).mpr fun other hother =>
      ⟨[], if_neg (comma_notMem_commaParts hother)⟩
    have hreturns : ∃ policies, embeddedPolicies refusesCommas default config = .ok policies := by
      unfold embeddedPolicies
      rw [← hfails]
      split
      · exact ⟨_, rfl⟩
      · exact Lib.map_returns_iff.mpr hserver
    have ⟨policies, hpolicies⟩ := loads_iff.mp (Lib.map_returns_iff.mp hreturns) path hmem
    unfold refusesCommas at hpolicies
    rw [if_pos hcomma] at hpolicies
    cases hpolicies
  · intro hcommas read
    rw [hread.mpr hcommas, if_neg hpaths]

section Concrete

attribute [local instance] plainRuntime

/-- A reader that knows the two words, and numerals. -/
def plainReader : EnvReader where
  bool text := if text = "true" then some true else if text = "false" then some false else none
  int := String.toInt?

theorem plainReader_documented : plainReader.Documented where
  reads_true := rfl
  reads_false := rfl
  reads_int n _ := Int.toInt?_repr n

/-- A file with one path of policies, that seeds the sample data. -/
def filePayload (path : String) : Dict :=
  [("policies", .dict [("path", .str path)]), ("seed_data", .bool true)]

def fileConfig (path : String) : KeyNetraFileConfig where
  databaseUrl := none
  redisUrl := none
  policyPaths := [path]
  modelPaths := []
  seedData := some true
  serverHost := none
  serverPort := none

def noEnviron : Environ := fun _ => none

def fileEnviron (path : String) : Environ :=
  Function.update (Function.update noEnviron .policyPaths (some path)) .autoSeedSampleData
    (some "true")

def fileSettings (path : String) : FileSettings where
  databaseUrl := "sqlite+pysqlite:///./keynetra.db"
  redisUrl := none
  policiesJson := none
  policyPaths := some path
  modelPaths := none
  autoSeedSampleData := true
  serverHost := "0.0.0.0"
  serverPort := 8000

/-- A plain path arrives. -/
theorem plain_path_carried :
    Carried (fileConfig "rules.yaml") noEnviron (fileSettings "rules.yaml") := by
  have hconfig : normalizeConfig (filePayload "rules.yaml") = .ok (fileConfig "rules.yaml") := rfl
  have happly : applyConfigToEnvironment (fileConfig "rules.yaml") noEnviron =
      .ok (fileEnviron "rules.yaml") := rfl
  have hsettings : FileSettings.ofEnvironment plainReader (fileEnviron "rules.yaml") =
      some (fileSettings "rules.yaml") := rfl
  apply (config_carried_iff hconfig happly plainReader_documented hsettings).mpr
  intro path hmem
  rw [List.mem_singleton.mp hmem]
  decide

/-- A path with a comma leads the server elsewhere. -/
theorem comma_path_differs :
    ¬ ∀ read, (fileSettings "team,rules.yaml").loadPolicies read [] (fun _ => none) =
      embeddedPolicies read [] (fileConfig "team,rules.yaml") := by
  have hconfig : normalizeConfig (filePayload "team,rules.yaml") =
      .ok (fileConfig "team,rules.yaml") := rfl
  have happly : applyConfigToEnvironment (fileConfig "team,rules.yaml") noEnviron =
      .ok (fileEnviron "team,rules.yaml") := rfl
  have hsettings : FileSettings.ofEnvironment plainReader (fileEnviron "team,rules.yaml") =
      some (fileSettings "team,rules.yaml") := rfl
  rw [same_policies_iff hconfig happly hsettings rfl (by decide) [] fun _ => none]
  intro hcommas
  exact hcommas "team,rules.yaml" List.mem_cons_self (by decide)

end Concrete

end KeyNetra
