import KeyNetra.Lib.Fallible
import KeyNetra.Lib.Text
import KeyNetra.Py.Value
import Mathlib.Data.List.DropRight
import Mathlib.Data.List.Nodup

/-!
# KeyNetra.Config.ApiKeys — the principal of an API key

`get_principal` looks the scopes of a key up under the digest of the key. The scope map is written
with raw keys or with digests, and a map key of 64 characters is taken for a digest.

* `parsedApiKeys` / `parsedApiKeyScopes` — the settings, parsed;
* `getPrincipal` — the dependency;
* `scopes_found_iff` — which entry of the map the lookup finds;
* `own_scopes_iff` — a key gets its own scopes in every environment iff that entry says the same as
  its own;
* `long_key_default` — a key of 64 characters gets the scopes of an administrator.
-/

namespace KeyNetra

/-- `_VALID_ENVIRONMENTS`. -/
inductive Environment where
  | development
  | dev
  | local_
  | ci
  | prod
  | production
deriving DecidableEq, Repr

/-- `environment in _DEV_ENVIRONMENTS`. -/
def Environment.isDevelopment : Environment → Bool
  | .development | .dev | .local_ => true
  | .ci | .prod | .production => false

/-- The settings `get_principal` reads for a key. -/
structure KeySettings where
  environment : Environment
  apiKeys : Option String
  apiKeyHashes : Option String := none
  apiKeyScopesJson : Option String

/-- `HTTPException`. -/
structure HttpError where
  statusCode : Nat
  detail : String
deriving DecidableEq, Repr

/-- `_unauthorized`. -/
def unauthorized (detail : String) : HttpError := ⟨401, detail⟩

/-- How `get_principal` ends without a principal. -/
inductive PrincipalError where
  | http (error : HttpError)
  | raised (error : PyError)
deriving DecidableEq, Repr

/-- The stripped parts of a comma-separated text that are not blank. -/
def commaParts (text : String) : List String :=
  ((text.toList.splitOn ',').map fun part => pyStrip (String.ofList part)).filter (· ≠ "")

/-- `settings.parsed_api_keys`. -/
def parsedApiKeys (settings : KeySettings) : List String := commaParts (settings.apiKeys.getD "")

/-- `_scopes_are_defined`. -/
def scopesAreDefined (scopes : Dict) : Bool :=
  (match Dict.get scopes "role" with
    | .str role => pyStrip role != ""
    | _ => false) ||
  (match Dict.get scopes "permissions" with
    | .list permissions => !permissions.isEmpty
    | _ => false)

/-- The scopes that `parsed_api_key_scopes` makes of an entry. -/
def grantedScopes (scopes : Dict) : Dict :=
  [("tenant", Dict.get scopes "tenant"), ("role", Dict.get scopes "role"),
    ("permissions", match Dict.get scopes "permissions" with
      | .list permissions => .list permissions
      | _ => .list [])]

/-- What a key without scopes gets in development. -/
def developmentScopes : Dict :=
  [("tenant", .str "default"), ("role", .str "admin"), ("permissions", .list [.str "*"])]

theorem scopesAreDefined_granted (scopes : Dict) :
    scopesAreDefined (grantedScopes scopes) = scopesAreDefined scopes := by
  have hrole : Dict.get (grantedScopes scopes) "role" = Dict.get scopes "role" := rfl
  unfold scopesAreDefined
  rw [hrole]
  cases hpermissions : Dict.get scopes "permissions" with
  | list permissions =>
      have hlist : Dict.get (grantedScopes scopes) "permissions" = .list permissions := by
        unfold grantedScopes
        rw [hpermissions]
        rfl
      rw [hlist]
  | _ =>
      have hlist : Dict.get (grantedScopes scopes) "permissions" = .list [] := by
        unfold grantedScopes
        rw [hpermissions]
        rfl
      rw [hlist]
      rfl

/-! ## Digests -/

section Digest

variable (sha256 : List UInt8 → String)

/-- `hashlib.sha256(key.encode("utf-8")).hexdigest()`. -/
def hexdigest (key : String) : String := sha256 key.toUTF8.toList

/-- `settings.parsed_api_key_hashes`. -/
def parsedApiKeyHashes (settings : KeySettings) : List String :=
  let hashes := settings.apiKeyHashes.getD ""
  if hashes ≠ "" then commaParts hashes
  else (parsedApiKeys settings).map (hexdigest sha256)

/-- The key of `parsed` that an entry is stored under. -/
def scopeKey (key : String) : String :=
  let keyHash := pyStrip key
  if keyHash.length ≠ 64 then hexdigest sha256 keyHash else keyHash

/-- One entry of the scope map, stored. -/
def addScopes (parsed : Assoc Dict) : String × Value → Assoc Dict
  | (key, .dict scopes) => parsed.set (scopeKey sha256 key) (grantedScopes scopes)
  | _ => parsed

/-- The loop of `parsed_api_key_scopes`. -/
def storedScopes (decoded : Dict) : Assoc Dict := decoded.foldl (addScopes sha256) []

/-- `settings.parsed_api_key_scopes`, where `loads` is `json.loads` and `none` its
`JSONDecodeError`. -/
def parsedApiKeyScopes (loads : String → Option Value) (settings : KeySettings) : Assoc Dict :=
  let text := settings.apiKeyScopesJson.getD ""
  if text = "" then []
  else
    match loads text with
    | some (.dict decoded) => storedScopes sha256 decoded
    | _ => []

/-- `hmac.compare_digest` of two texts. -/
def compareDigest (a b : String) : Except PyError Bool :=
  if a.toList.all (·.toNat < 128) && b.toList.all (·.toNat < 128) then .ok (a == b)
  else .error (.typeError "comparing strings with non-ASCII characters is not supported")

/-- `_matches_api_key`. -/
def matchesApiKey (candidate : String) (storedHashes : List String) : Except PyError Bool :=
  storedHashes.anyM (compareDigest (hexdigest sha256 candidate))

/-- The part of `get_principal` about a key whose digest is stored. -/
def keyPrincipal (settings : KeySettings) (parsedScopes : Assoc Dict) (key : String) :
    Except PrincipalError Dict :=
  let keyHash := hexdigest sha256 key
  let scopes := (parsedScopes.get? keyHash).getD []
  let principal (scopes : Dict) : Dict :=
    [("type", .str "api_key"), ("id", .str (String.ofList (keyHash.toList.take 12))),
      ("scopes", .dict scopes)]
  if scopesAreDefined scopes then .ok (principal scopes)
  else if settings.environment.isDevelopment then
    if parsedScopes.contains keyHash then .ok (principal scopes)
    else .ok (principal developmentScopes)
  else .error (.http (unauthorized "api key scopes must include role or permissions"))

/-- The subject of a decoded token. -/
def tokenSubject [PyRuntime] (claims : Dict) : String :=
  (((Dict.get claims "sub").pyOr (Dict.get claims "user_id")).pyOr
    ((Dict.get claims "client_id").pyOr (.str "jwt"))).text

/-- The part of `get_principal` about a bearer token, where `decode` verifies and decodes it. -/
def tokenPrincipal [PyRuntime] (decode : String → Option Dict) :
    Option (String × String) → Except PrincipalError Dict
  | some (scheme, credentials) =>
      if pyLower scheme = "bearer" then
        match decode (pyStrip credentials) with
        | some claims => .ok [("type", .str "jwt"), ("id", .str (tokenSubject claims)),
            ("claims", .dict claims)]
        | none => .error (.http (unauthorized "invalid jwt"))
      else .error (.http (unauthorized "missing credentials"))
  | none => .error (.http (unauthorized "missing credentials"))

/-- `get_principal`. -/
def getPrincipal [PyRuntime] (loads : String → Option Value) (decode : String → Option Dict)
    (settings : KeySettings) (authorization : Option (String × String))
    (xApiKey : Option String) : Except PrincipalError Dict :=
  let apiKeyHashes := parsedApiKeyHashes sha256 settings
  let parsedScopes := parsedApiKeyScopes sha256 loads settings
  let key := xApiKey.getD ""
  if key ≠ "" then
    match matchesApiKey sha256 key apiKeyHashes with
    | .error e => .error (.raised e)
    | .ok true => keyPrincipal sha256 settings parsedScopes key
    | .ok false => .error (.http (unauthorized "invalid api key"))
  else tokenPrincipal decode authorization

/-! ## The lookup -/

variable {sha256}

theorem foldl_addScopes_of_ne {keyHash : String} {decoded : Dict} (parsed : Assoc Dict)
    (h : ∀ key scopes, (key, .dict scopes) ∈ decoded → scopeKey sha256 key ≠ keyHash) :
    (decoded.foldl (addScopes sha256) parsed).get? keyHash = parsed.get? keyHash := by
  induction decoded generalizing parsed with
  | nil => rfl
  | cons item decoded ih =>
      rw [List.foldl_cons, ih _ fun key scopes hmem => h key scopes (List.mem_cons_of_mem _ hmem)]
      obtain ⟨key, value⟩ := item
      cases value with
      | dict scopes =>
          have hkey := h key scopes List.mem_cons_self
          exact Assoc.get?_set_ne _ _ hkey.symm
      | _ => rfl

/-- The lookup finds the last entry that is stored under the digest. -/
theorem get?_last {keyHash key : String} {scopes : Dict} {before later : Dict}
    (hkey : scopeKey sha256 key = keyHash)
    (hlater : ∀ other inner, (other, .dict inner) ∈ later → scopeKey sha256 other ≠ keyHash) :
    (storedScopes sha256 (before ++ (key, .dict scopes) :: later)).get? keyHash =
      some (grantedScopes scopes) := by
  rw [storedScopes, List.foldl_append, List.foldl_cons, foldl_addScopes_of_ne _ hlater, addScopes, hkey]
  exact Assoc.get?_set_self _ _ _

theorem pyStrip_pyStrip (text : String) : pyStrip (pyStrip text) = pyStrip text := by
  have hstrip : ∀ t : String,
      pyStrip t = String.ofList ((t.toList.dropWhile isPySpace).rdropWhile isPySpace) := by
    intro t
    rfl
  rw [hstrip (pyStrip text), hstrip text, String.toList_ofList]
  have hrest := List.dropWhile_idempotent isPySpace text.toList
  generalize text.toList.dropWhile isPySpace = rest at hrest ⊢
  have hleft : (rest.rdropWhile isPySpace).dropWhile isPySpace = rest.rdropWhile isPySpace := by
    rw [List.dropWhile_eq_self_iff] at hrest ⊢
    intro hpos
    have hstart : rest.rdropWhile isPySpace <+: rest := List.rdropWhile_prefix isPySpace rest
    rw [hstart.getElem hpos]
    exact hrest (lt_of_lt_of_le hpos hstart.length_le)
  rw [hleft, List.rdropWhile_idempotent]

/-- A configured key is trimmed, and not empty. -/
theorem parsedApiKeys_spec {settings : KeySettings} {key : String}
    (h : key ∈ parsedApiKeys settings) : pyStrip key = key ∧ key ≠ "" := by
  have ⟨hpart, hblank⟩ := List.mem_filter.mp h
  obtain ⟨part, _, hkey⟩ := List.mem_map.mp hpart
  constructor
  · rw [← hkey, pyStrip_pyStrip]
  · exact of_decide_eq_true hblank

theorem scopeKey_configured {settings : KeySettings} {key : String}
    (h : key ∈ parsedApiKeys settings) :
    scopeKey sha256 key = if key.length ≠ 64 then hexdigest sha256 key else key := by
  unfold scopeKey
  rw [(parsedApiKeys_spec h).1]

/-- The settings of a key with an entry in the scope map: the configured keys are raw keys, no two
of them have one digest, and the entries of the map are for them. -/
structure HasEntry (sha256 : List UInt8 → String) (loads : String → Option Value)
    (settings : KeySettings) (key : String) (before : Dict) (scopes : Dict) (later : Dict) :
    Prop where
  /-- `KEYNETRA_API_KEY_HASHES` is not set. -/
  hashes : settings.apiKeyHashes.getD "" = ""
  configured : key ∈ parsedApiKeys settings
  /-- The text of the scope map is the JSON text of this object. -/
  loaded : ∃ text, settings.apiKeyScopesJson = some text ∧ text ≠ "" ∧
    loads text = some (.dict (before ++ (key, .dict scopes) :: later))
  distinct : ((before ++ (key, .dict scopes) :: later).map Prod.fst).Nodup
  rawKeys : ∀ item ∈ before ++ (key, .dict scopes) :: later, item.1 ∈ parsedApiKeys settings
  usable : scopesAreDefined scopes = true
  injective : ∀ a ∈ parsedApiKeys settings, ∀ b ∈ parsedApiKeys settings,
    hexdigest sha256 a = hexdigest sha256 b → a = b

/-- Digests are hexadecimal texts of 64 characters. -/
def HexDigests (sha256 : List UInt8 → String) : Prop :=
  ∀ bytes, (sha256 bytes).length = 64 ∧
    ∀ c ∈ (sha256 bytes).toList, c ∈ "0123456789abcdef".toList

/-- The entry that the lookup of the key finds is there, and says what its own entry says: for a key
of 64 characters that is the entry of another key, spelled like the digest; for any other key it is
its own unless the entry of a key spelled like the digest comes later. -/
def FindsOwn (sha256 : List UInt8 → String) (decoded later : Dict) (key : String)
    (scopes : Dict) : Prop :=
  if key.length = 64 then
    ∃ other, (hexdigest sha256 key, .dict other) ∈ decoded ∧
      grantedScopes other = grantedScopes scopes
  else
    ∀ other, (hexdigest sha256 key, .dict other) ∈ later →
      grantedScopes other = grantedScopes scopes

variable {loads : String → Option Value} {settings : KeySettings} {key : String}
  {before later scopes : Dict}

theorem HasEntry.key_ne (h : HasEntry sha256 loads settings key before scopes later) :
    (∀ value, (key, value) ∉ before) ∧ ∀ value, (key, value) ∉ later := by
  have hdistinct := h.distinct
  rw [List.map_append, List.map_cons, List.nodup_append] at hdistinct
  have ⟨_, hlater, hbefore⟩ := hdistinct
  constructor
  · intro value hmem
    exact hbefore key (List.mem_map_of_mem hmem) key List.mem_cons_self rfl
  · intro value hmem
    exact (List.nodup_cons.mp hlater).1 (List.mem_map.mpr ⟨_, hmem, rfl⟩)

/-- The entries under the digest of a configured key are its own, if it has not 64 characters, and
that of the key spelled like the digest. -/
theorem HasEntry.scopeKey_iff (h : HasEntry sha256 loads settings key before scopes later)
    (hhex : HexDigests sha256) {other : String} (hother : other ∈ parsedApiKeys settings) :
    scopeKey sha256 other = hexdigest sha256 key ↔
      (other = key ∧ key.length ≠ 64) ∨ other = hexdigest sha256 key := by
  rw [scopeKey_configured hother]
  by_cases hlength : other.length ≠ 64
  · rw [if_pos hlength]
    constructor
    · intro hdigest
      have hkey := h.injective other hother key h.configured hdigest
      exact .inl ⟨hkey, hkey ▸ hlength⟩
    · rintro (⟨rfl, _⟩ | hdigest)
      · rfl
      · rw [hdigest] at hlength
        exact absurd (hhex _).1 hlength
  · rw [if_neg hlength]
    constructor
    · exact .inr
    · rintro (⟨rfl, hkey⟩ | hdigest)
      · exact absurd hkey hlength
      · exact hdigest

/-- When the entry of the key spelled like the digest comes last, the lookup finds it. -/
theorem HasEntry.lookup_digest (h : HasEntry sha256 loads settings key before scopes later)
    (hhex : HexDigests sha256) {other left right : Dict}
    (hsplit : before ++ (key, .dict scopes) :: later =
      left ++ (hexdigest sha256 key, .dict other) :: right)
    (hright : ∀ inner, (key, .dict inner) ∈ right → key.length = 64) :
    (storedScopes sha256 (before ++ (key, .dict scopes) :: later)).get? (hexdigest sha256 key) =
      some (grantedScopes other) := by
  have hdistinct := h.distinct
  have hraw := h.rawKeys
  rw [hsplit] at hdistinct hraw ⊢
  rw [List.map_append, List.map_cons, List.nodup_append] at hdistinct
  have hnotRight := (List.nodup_cons.mp hdistinct.2.1).1
  refine get?_last ?_ ?_
  · exact (h.scopeKey_iff hhex (hraw _ (List.mem_append_right _ List.mem_cons_self))).mpr (.inr rfl)
  · intro key' inner hmem hstored
    have hmem' := hraw _ (List.mem_append_right left (List.mem_cons_of_mem _ hmem))
    rcases (h.scopeKey_iff hhex hmem').mp hstored with ⟨rfl, hlength⟩ | rfl
    · exact hlength (hright inner hmem)
    · exact hnotRight (List.mem_map.mpr ⟨_, hmem, rfl⟩)

/-- The map has one entry for a key. -/
theorem HasEntry.entry_unique (h : HasEntry sha256 loads settings key before scopes later)
    {other : String} {v w : Value} (hv : (other, v) ∈ before ++ (key, .dict scopes) :: later)
    (hw : (other, w) ∈ before ++ (key, .dict scopes) :: later) : v = w :=
  congrArg Prod.snd (List.inj_on_of_nodup_map h.distinct hv hw rfl)

/-- A key of 64 characters: only the key spelled like its digest is stored under the digest. -/
theorem HasEntry.found_iff_long (h : HasEntry sha256 loads settings key before scopes later)
    (hhex : HexDigests sha256) (hlength : key.length = 64) :
    (storedScopes sha256 (before ++ (key, .dict scopes) :: later)).get? (hexdigest sha256 key) =
        some (grantedScopes scopes) ↔
      ∃ other, (hexdigest sha256 key, .dict other) ∈ before ++ (key, .dict scopes) :: later ∧
        grantedScopes other = grantedScopes scopes := by
  -- a key as long as a digest is stored as it is, so only an entry for its digest is found
  by_cases hdigest : ∃ other, (hexdigest sha256 key, .dict other) ∈
      before ++ (key, .dict scopes) :: later
  · obtain ⟨other, hmem⟩ := hdigest
    obtain ⟨left, right, hsplit⟩ := List.append_of_mem hmem
    rw [h.lookup_digest hhex hsplit fun _ _ => hlength, Option.some.injEq]
    constructor
    · intro hsame
      exact ⟨other, hmem, hsame⟩
    · rintro ⟨other', hmem', hsame⟩
      cases h.entry_unique hmem hmem'
      exact hsame
  · have hnone : (storedScopes sha256 (before ++ (key, .dict scopes) :: later)).get?
        (hexdigest sha256 key) = none := by
      refine (foldl_addScopes_of_ne [] ?_).trans rfl
      intro other inner hmem hstored
      rcases (h.scopeKey_iff hhex (h.rawKeys _ hmem)).mp hstored with ⟨_, hne⟩ | rfl
      · exact hne hlength
      · exact hdigest ⟨inner, hmem⟩
    rw [hnone]
    constructor
    · intro habsurd
      cases habsurd
    · rintro ⟨other, hmem, _⟩
      exact absurd ⟨other, hmem⟩ hdigest

/-- Any other key: its own entry is stored under the digest, until that of the key spelled like the
digest is. -/
theorem HasEntry.found_iff_short (h : HasEntry sha256 loads settings key before scopes later)
    (hhex : HexDigests sha256) (hlength : key.length ≠ 64) :
    (storedScopes sha256 (before ++ (key, .dict scopes) :: later)).get? (hexdigest sha256 key) =
        some (grantedScopes scopes) ↔
      ∀ other, (hexdigest sha256 key, .dict other) ∈ later →
        grantedScopes other = grantedScopes scopes := by
  have hlaterMem : ∀ item ∈ later, item ∈ before ++ (key, .dict scopes) :: later := by
    intro item hitem
    exact List.mem_append_right before (List.mem_cons_of_mem _ hitem)
  -- a later entry whose raw key is the digest overwrites the stored scopes
  by_cases hdigest : ∃ other, (hexdigest sha256 key, .dict other) ∈ later
  · obtain ⟨other, hmem⟩ := hdigest
    obtain ⟨left, right, hlater⟩ := List.append_of_mem hmem
    have hsplit : before ++ (key, .dict scopes) :: later =
        (before ++ (key, .dict scopes) :: left) ++ (hexdigest sha256 key, .dict other) :: right := by
      rw [hlater, List.append_assoc, List.cons_append]
    -- the raw key itself is spelled once only
    have hright : ∀ inner, (key, .dict inner) ∈ right → key.length = 64 := by
      intro inner hinner
      have hinLater : (key, Value.dict inner) ∈ later := by
        rw [hlater]
        exact List.mem_append_right _ (List.mem_cons_of_mem _ hinner)
      exact absurd hinLater (h.key_ne.2 _)
    rw [h.lookup_digest hhex hsplit hright, Option.some.injEq]
    constructor
    · intro hsame other' hmem'
      cases h.entry_unique (hlaterMem _ hmem) (hlaterMem _ hmem')
      exact hsame
    · intro hall
      exact hall other hmem
  · have hfound : (storedScopes sha256 (before ++ (key, .dict scopes) :: later)).get?
        (hexdigest sha256 key) = some (grantedScopes scopes) := by
      refine get?_last ?_ ?_
      · exact (h.scopeKey_iff hhex h.configured).mpr (.inl ⟨rfl, hlength⟩)
      · intro other inner hmem hstored
        rcases (h.scopeKey_iff hhex (h.rawKeys _ (hlaterMem _ hmem))).mp hstored with
          ⟨rfl, _⟩ | rfl
        · exact h.key_ne.2 _ hmem
        · exact hdigest ⟨inner, hmem⟩
    rw [hfound]
    constructor
    · intro _ other hmem
      exact absurd ⟨other, hmem⟩ hdigest
    · intro _
      rfl

/-- The lookup finds what the key's own entry grants iff the entry it finds says the same. -/
theorem scopes_found_iff (h : HasEntry sha256 loads settings key before scopes later)
    (hhex : HexDigests sha256) :
    (storedScopes sha256 (before ++ (key, .dict scopes) :: later)).get? (hexdigest sha256 key) =
        some (grantedScopes scopes) ↔
      FindsOwn sha256 (before ++ (key, .dict scopes) :: later) later key scopes := by
  unfold FindsOwn
  by_cases hlength : key.length = 64
  · rw [if_pos hlength]
    exact h.found_iff_long hhex hlength
  · rw [if_neg hlength]
    exact h.found_iff_short hhex hlength

/-! ## The principal -/

theorem compareDigest_hex (hhex : HexDigests sha256) (a b : List UInt8) :
    compareDigest (sha256 a) (sha256 b) = .ok (sha256 a == sha256 b) := by
  have hascii : ∀ bytes, (sha256 bytes).toList.all (·.toNat < 128) = true := by
    intro bytes
    rw [List.all_eq_true]
    intro c hc
    have hdigits : ∀ d ∈ "0123456789abcdef".toList, decide (d.toNat < 128) = true := by decide
    exact hdigits c ((hhex bytes).2 c hc)
  unfold compareDigest
  rw [hascii a, hascii b]
  rfl

/-- A configured key matches. -/
theorem matchesApiKey_configured (hhex : HexDigests sha256) {keys : List String} {key : String}
    (h : key ∈ keys) :
    matchesApiKey sha256 key (keys.map (hexdigest sha256)) = .ok true := by
  unfold matchesApiKey
  induction keys with
  | nil => exact absurd h List.not_mem_nil
  | cons other keys ih =>
      rw [List.map_cons, List.anyM]
      have hcompare : compareDigest (hexdigest sha256 key) (hexdigest sha256 other) =
          .ok (hexdigest sha256 key == hexdigest sha256 other) := compareDigest_hex hhex _ _
      rw [hcompare, Lib.ok_bind]
      by_cases hsame : hexdigest sha256 key = hexdigest sha256 other
      · rw [beq_iff_eq.mpr hsame]
        rfl
      · rw [beq_eq_false_iff_ne.mpr hsame]
        have hne : key ≠ other := by
          intro hkey
          exact hsame (congrArg _ hkey)
        exact ih (List.mem_of_ne_of_mem hne h)

theorem HasEntry.environment (h : HasEntry sha256 loads settings key before scopes later)
    (environment : Environment) :
    HasEntry sha256 loads { settings with environment } key before scopes later :=
  ⟨h.hashes, h.configured, h.loaded, h.distinct, h.rawKeys, h.usable, h.injective⟩

variable [PyRuntime] {decode : String → Option Dict}

/-- A configured key gets what the lookup of its digest comes to. -/
theorem HasEntry.getPrincipal_eq (h : HasEntry sha256 loads settings key before scopes later)
    (hhex : HexDigests sha256) (authorization : Option (String × String)) :
    getPrincipal sha256 loads decode settings authorization (some key) =
      keyPrincipal sha256 settings
        (storedScopes sha256 (before ++ (key, .dict scopes) :: later)) key := by
  have hhashes : parsedApiKeyHashes sha256 settings =
      (parsedApiKeys settings).map (hexdigest sha256) := by
    unfold parsedApiKeyHashes
    rw [h.hashes]
    rfl
  have hscopes : parsedApiKeyScopes sha256 loads settings =
      storedScopes sha256 (before ++ (key, .dict scopes) :: later) := by
    obtain ⟨text, hjson, htext, hloads⟩ := h.loaded
    unfold parsedApiKeyScopes
    rw [hjson]
    dsimp only [Option.getD_some]
    rw [if_neg htext, hloads]
  unfold getPrincipal
  dsimp only [Option.getD_some]
  rw [if_pos (parsedApiKeys_spec h.configured).2, hhashes, hscopes,
    matchesApiKey_configured hhex h.configured]

/-- In every environment the key gets the scopes that its own entry grants. -/
def OwnScopes (sha256 : List UInt8 → String) (loads : String → Option Value)
    (decode : String → Option Dict) (settings : KeySettings) (key : String) (scopes : Dict) : Prop :=
  ∀ environment authorization, ∃ principal,
    getPrincipal sha256 loads decode { settings with environment } authorization (some key) =
        .ok principal ∧
      Dict.get principal "scopes" = .dict (grantedScopes scopes)

/-- A key with a usable entry gets its own scopes in every environment iff the entry that the lookup
finds says the same as its own. -/
theorem own_scopes_iff (h : HasEntry sha256 loads settings key before scopes later)
    (hhex : HexDigests sha256) :
    OwnScopes sha256 loads decode settings key scopes ↔
      FindsOwn sha256 (before ++ (key, .dict scopes) :: later) later key scopes := by
  rw [← scopes_found_iff h hhex]
  constructor
  · intro hown
    obtain ⟨principal, hprincipal, hscopes⟩ := hown .prod none
    rw [(h.environment .prod).getPrincipal_eq hhex] at hprincipal
    unfold keyPrincipal at hprincipal
    dsimp only at hprincipal
    cases hfound : (storedScopes sha256 (before ++ (key, .dict scopes) :: later)).get?
        (hexdigest sha256 key) with
    | none =>
        rw [hfound] at hprincipal
        cases hprincipal
    | some found =>
        rw [hfound, Option.getD_some] at hprincipal
        -- scopes that define nothing are refused
        by_cases hdefined : scopesAreDefined found = true
        · rw [if_pos hdefined] at hprincipal
          cases hprincipal
          cases hscopes
          rfl
        · rw [if_neg hdefined] at hprincipal
          cases hprincipal
  · intro hfound environment authorization
    have hdefined : scopesAreDefined (grantedScopes scopes) = true :=
      (scopesAreDefined_granted scopes).trans h.usable
    rw [(h.environment environment).getPrincipal_eq hhex]
    unfold keyPrincipal
    dsimp only
    rw [hfound, Option.getD_some, if_pos hdefined]
    exact ⟨_, rfl, rfl⟩

end Digest

/-! ## Two keys -/

section Concrete

attribute [local instance] plainRuntime

/-- A digest function on the key `alpha`. -/
def alphaDigest (_ : List UInt8) : String :=
  "8ed3f6ad685b959ead7022518e1af76cd816f8e8ec7ccdda1ed4018e8f2223f8"

def alphaSettings : KeySettings where
  environment := .prod
  apiKeys := some "alpha"
  apiKeyScopesJson := some "\x7b\"alpha\": \x7b\"role\": \"viewer\"\x7d\x7d"

theorem hexDigests_const {digest : String} (hlength : digest.length = 64)
    (hdigits : ∀ c ∈ digest.toList, c ∈ "0123456789abcdef".toList) :
    HexDigests fun _ => digest := fun _ => ⟨hlength, hdigits⟩

/-- Settings of one key, whose entry makes it a viewer. -/
theorem viewer_entry {digest : String} {settings : KeySettings} {key text : String}
    (hkeys : parsedApiKeys settings = [key]) (hhashes : settings.apiKeyHashes = none)
    (hjson : settings.apiKeyScopesJson = some text) (htext : text ≠ "") :
    HasEntry (fun _ => digest) (fun _ => some (.dict [(key, .dict [("role", .str "viewer")])]))
      settings key [] [("role", .str "viewer")] [] where
  hashes := by rw [hhashes]; rfl
  configured := by rw [hkeys]; exact List.mem_singleton_self key
  loaded := ⟨text, hjson, htext, rfl⟩
  distinct := List.nodup_singleton _
  rawKeys := by
    intro item hitem
    rw [List.mem_singleton.mp hitem, hkeys]
    exact List.mem_singleton_self key
  usable := rfl
  injective := by
    intro a ha b hb _
    rw [hkeys] at ha hb
    rw [List.mem_singleton.mp ha, List.mem_singleton.mp hb]

theorem alpha_own_scopes :
    OwnScopes alphaDigest (fun _ => some (.dict [("alpha", .dict [("role", .str "viewer")])]))
        (fun _ => none) alphaSettings "alpha" [("role", .str "viewer")] ↔
      FindsOwn alphaDigest [("alpha", .dict [("role", .str "viewer")])] [] "alpha"
        [("role", .str "viewer")] :=
  own_scopes_iff (viewer_entry (by decide +kernel) rfl rfl (by decide))
    (hexDigests_const (by decide +kernel) (by decide +kernel))

/-- A key of 64 characters. -/
def longKey : String := "0123456789abcdefghijklmnopqrstuv0123456789abcdefghijklmnopqrstuv"

/-- A digest function on that key. -/
def longDigest (_ : List UInt8) : String :=
  "d941f60157c594a8c5e922da9b44718f1ceb90390861414a171c2496fbecc964"

def longSettings : KeySettings where
  environment := .development
  apiKeys := some longKey
  apiKeyScopesJson := some ("\x7b\"" ++ longKey ++ "\": \x7b\"role\": \"viewer\"\x7d\x7d")

def longLoads (_ : String) : Option Value :=
  some (.dict [(longKey, .dict [("role", .str "viewer")])])

/-- A viewer whose key has 64 characters is an administrator in development, and is turned away
elsewhere. -/
theorem long_key_default :
    HexDigests longDigest ∧
    HasEntry longDigest longLoads longSettings longKey [] [("role", .str "viewer")] [] ∧
    getPrincipal longDigest longLoads (fun _ => none) longSettings none (some longKey) =
      .ok [("type", .str "api_key"), ("id", .str "d941f60157c5"),
        ("scopes", .dict developmentScopes)] ∧
    ¬ OwnScopes longDigest longLoads (fun _ => none) longSettings longKey
      [("role", .str "viewer")] := by
  have hhex : HexDigests longDigest := hexDigests_const (by decide +kernel) (by decide +kernel)
  have hentry : HasEntry longDigest longLoads longSettings longKey [] [("role", .str "viewer")] [] :=
    viewer_entry (by decide +kernel) rfl rfl (by decide +kernel)
  have hprincipal :
      getPrincipal longDigest longLoads (fun _ => none) longSettings none (some longKey) =
        .ok [("type", .str "api_key"), ("id", .str "d941f60157c5"),
          ("scopes", .dict developmentScopes)] := by
    rw [hentry.getPrincipal_eq hhex]
    rfl
  refine ⟨hhex, hentry, hprincipal, ?_⟩
  intro hown
  obtain ⟨principal, hown, hscopes⟩ := hown .development none
  cases hprincipal.symm.trans hown
  cases hscopes

end Concrete

end KeyNetra
