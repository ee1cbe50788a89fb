import KeyNetra.Cache.Adapters
import KeyNetra.Config.ApiKeys
import KeyNetra.Config.Jwks

/-!
# KeyNetra.Config.KeyRotation — keys that the provider takes back

The requests of a process share one key set. `_get_jwks` looks at it under a lock, fetches without
one, and stores what it has fetched under the lock again, so any number of calls interleave there.

* `decodeWithJwks` — a token is tried with the keys of a set;
* `KeyRun.step` — calls, the clock and the answers of the provider, in any order;
* `jwks_alone` — a call that nothing interrupts is `getJwks`;
* `RotationInv` — a key set in use was served less than its time to live ago;
* `revoked_key_refused` — so a token of a key that is served no more is refused from then on.

A call reads the time before it looks, so a set that was fetched slowly expires the earlier.
-/

namespace KeyNetra

/-! ## Decoding -/

/-- What `jwt.decode` comes to with one key: claims, a `JWTError`, or another exception. -/
inductive KeyResult where
  | claims (payload : Dict)
  | jwtError
  | raised

/-- The two functions of the token library, for the audience and the issuer of the settings. -/
structure JoseLibrary where
  unverifiedHeader : String → Option Dict
  decode : String → Value → KeyResult

/-- `kid and key.get("kid") != kid`; a key that is no object has no `get`. -/
def skipsKey (kid key : Value) : Option Bool :=
  if kid.truthy then
    match key with
    | .dict fields => some (!(Dict.get fields "kid").eq kid)
    | _ => none
  else some false

/-- The loop of `_decode_with_jwks`. -/
def decodeWithKeys (decode : Value → KeyResult) (kid : Value) : List Value → Option Dict
  | [] => none
  | key :: keys =>
      match skipsKey kid key with
      | none => none
      | some true => decodeWithKeys decode kid keys
      | some false =>
          match decode key with
          | .claims payload => some payload
          | .jwtError => decodeWithKeys decode kid keys
          | .raised => none

/-- The keys of a set, if they can be visited. -/
def visitedKeys (jwks : Dict) : Option (List Value) :=
  (Dict.getD jwks "keys" (.list [])).iterate.toOption

/-- `_decode_with_jwks`; `get_principal` refuses every exception alike. -/
def decodeWithJwks (library : JoseLibrary) (token : String) (jwks : Dict) : Option Dict := do
  let header ← library.unverifiedHeader token
  let keys ← visitedKeys jwks
  decodeWithKeys (library.decode token) (Dict.get header "kid") keys

/-- The key set a call returns. -/
def JwksOutcome.keySet : JwksOutcome → Option Dict
  | .cacheHit payload | .success payload => some payload
  | .backoff | .failure => none

/-- The decoder of `get_principal` where a key set is configured. -/
def JwksOutcome.decode (library : JoseLibrary) (outcome : JwksOutcome) (token : String) :
    Option Dict :=
  outcome.keySet.bind (decodeWithJwks library token)

/-! ## The system -/

/-- Where a call stands; `now` is the time it has read. -/
inductive KeyCallPc where
  | idle
  | begun (now : ℚ)
  | fetching (now : ℚ)
  | fetched (now : ℚ) (result : FetchResult)
  | returned (now : ℚ) (outcome : JwksOutcome)

/-- The clock, the store and the calls. `served` records when which key set came; no step depends
on it. -/
structure KeyRun where
  clock : ℚ
  store : JwksStore
  calls : Nat → KeyCallPc
  served : List (ℚ × Dict)

/-- The moves: time passes, a call reads the time, looks under the lock, gets an answer, and stores
it under the lock. -/
inductive KeyMove where
  | wait (time : ℚ)
  | begin (i : Nat)
  | look (i : Nat)
  | respond (i : Nat) (result : FetchResult)
  | store (i : Nat)

/-- The first locked block of `_get_jwks`; without an outcome the call fetches. -/
def lookJwks (store : JwksStore) (now : ℚ) : Option JwksOutcome :=
  let blocked := if now < store.backoffUntil.getD 0 then some JwksOutcome.backoff else none
  match store.cache with
  | some (expires, payload) => if now < expires then some (.cacheHit payload) else blocked
  | none => blocked

/-- The key set in an answer. -/
def FetchResult.keySet? : FetchResult → Option Dict
  | .document (.dict payload) => some payload
  | _ => none

namespace KeyRun

def start (clock : ℚ) : KeyRun := ⟨clock, ⟨none, none⟩, fun _ => .idle, []⟩

/-- Move one call. -/
def setPc (s : KeyRun) (i : Nat) (pc : KeyCallPc) : KeyRun :=
  { s with calls := Function.update s.calls i pc }

variable (settings : JwksSettings)

def step (s : KeyRun) : KeyMove → KeyRun
  | .wait time => { s with clock := max s.clock time }
  | .begin i =>
      match s.calls i with
      | .idle => s.setPc i (.begun s.clock)
      | _ => s
  | .look i =>
      match s.calls i with
      | .begun now =>
          match lookJwks s.store now with
          | some outcome => s.setPc i (.returned now outcome)
          | none => s.setPc i (.fetching now)
      | _ => s
  | .respond i result =>
      match s.calls i with
      | .fetching now =>
          { s.setPc i (.fetched now result) with
            served := s.served ++ (result.keySet?.map fun payload => (s.clock, payload)).toList }
      | _ => s
  | .store i =>
      match s.calls i with
      | .fetched now result =>
          let (outcome, store) := fetchJwks settings s.store ⟨now, result⟩
          { s.setPc i (.returned now outcome) with store }
      | _ => s

end KeyRun

variable {settings : JwksSettings} {s : KeyRun}

/-- A call looks, and fetches where it finds nothing. -/
theorem getJwks_look (store : JwksStore) (call : JwksCall) :
    getJwks settings store call = match lookJwks store call.now with
      | some outcome => (outcome, store)
      | none => fetchJwks settings store call := by
  unfold getJwks lookJwks
  cases store.cache with
  | none =>
      dsimp only
      split <;> rfl
  | some cached =>
      obtain ⟨expires, payload⟩ := cached
      dsimp only
      split
      · rfl
      · split <;> rfl

/-- A call that nothing interrupts is `getJwks`. -/
theorem jwks_alone {i : Nat} (hidle : s.calls i = .idle) (result : FetchResult) :
    let alone := Lib.run (KeyRun.step settings) s [.begin i, .look i, .respond i result, .store i]
    alone.calls i = .returned s.clock (getJwks settings s.store ⟨s.clock, result⟩).1 ∧
      alone.store = (getJwks settings s.store ⟨s.clock, result⟩).2 := by
  have hbegin : s.step settings (.begin i) = s.setPc i (.begun s.clock) := by
    simp only [KeyRun.step, hidle]
  rw [Lib.run_cons, hbegin, getJwks_look]
  dsimp only [Lib.run_cons, Lib.run_nil]
  cases hlook : lookJwks s.store s.clock with
  | some outcome => simp [KeyRun.step, KeyRun.setPc, hlook]
  | none => simp [KeyRun.step, KeyRun.setPc, hlook]

/-! ## Every run -/

/-- A key set that is cached expires within its time to live; a call has read the time before its
answer came; and what a call returns was served less than the time to live before. -/
structure RotationInv (settings : JwksSettings) (s : KeyRun) : Prop where
  cached : ∀ expires payload, s.store.cache = some (expires, payload) →
    ∃ t, (t, payload) ∈ s.served ∧ expires ≤ t + settings.jwksCacheTtlSeconds
  begun : ∀ i now, s.calls i = .begun now ∨ s.calls i = .fetching now → now ≤ s.clock
  fetched : ∀ i now result payload, s.calls i = .fetched now result →
    result.keySet? = some payload → ∃ t, (t, payload) ∈ s.served ∧ now ≤ t
  returned : ∀ i now outcome payload, s.calls i = .returned now outcome →
    outcome.keySet = some payload →
    ∃ t, (t, payload) ∈ s.served ∧ now < t + settings.jwksCacheTtlSeconds

theorem rotationInv_start (clock : ℚ) : RotationInv settings (KeyRun.start clock) where
  cached expires payload h := by cases h
  begun i now h := by rcases h with h | h <;> cases h
  fetched i now result payload h := by cases h
  returned i now outcome payload h := by cases h

/-- Where the clock goes on, and no key set is forgotten, only the moved call is new. -/
theorem RotationInv.moved (h : RotationInv settings s) (s' : KeyRun) (i : Nat) (pc : KeyCallPc)
    (hclock : s.clock ≤ s'.clock) (hserved : ∀ entry ∈ s.served, entry ∈ s'.served)
    (hcalls : s'.calls = Function.update s.calls i pc)
    (hcached : ∀ expires payload, s'.store.cache = some (expires, payload) →
      ∃ t, (t, payload) ∈ s'.served ∧ expires ≤ t + settings.jwksCacheTtlSeconds)
    (hbegun : ∀ now, pc = .begun now ∨ pc = .fetching now → now ≤ s'.clock)
    (hfetched : ∀ now result payload, pc = .fetched now result →
      result.keySet? = some payload → ∃ t, (t, payload) ∈ s'.served ∧ now ≤ t)
    (hreturned : ∀ now outcome payload, pc = .returned now outcome →
      outcome.keySet = some payload →
      ∃ t, (t, payload) ∈ s'.served ∧ now < t + settings.jwksCacheTtlSeconds) :
    RotationInv settings s' := by
  constructor
  · exact hcached
  · -- begun: only the call that moves has a new place
    intro j now hj
    rw [hcalls] at hj
    by_cases hji : j = i
    · subst hji
      rw [Function.update_self] at hj
      exact hbegun now hj
    · rw [Function.update_of_ne hji] at hj
      exact le_trans (h.begun j now hj) hclock
  · -- fetched: a result that is held was served, before as now
    intro j now result payload hj hset
    rw [hcalls] at hj
    by_cases hji : j = i
    · subst hji
      rw [Function.update_self] at hj
      exact hfetched now result payload hj hset
    · rw [Function.update_of_ne hji] at hj
      obtain ⟨t, ht, hle⟩ := h.fetched j now result payload hj hset
      exact ⟨t, hserved _ ht, hle⟩
  · -- returned: the same, with the time to live
    intro j now outcome payload hj hset
    rw [hcalls] at hj
    by_cases hji : j = i
    · subst hji
      rw [Function.update_self] at hj
      exact hreturned now outcome payload hj hset
    · rw [Function.update_of_ne hji] at hj
      obtain ⟨t, ht, hlt⟩ := h.returned j now outcome payload hj hset
      exact ⟨t, hserved _ ht, hlt⟩

/-- A call moves, and nothing else does. -/
theorem RotationInv.setPc (h : RotationInv settings s) (i : Nat) {pc : KeyCallPc}
    (hbegun : ∀ now, pc = .begun now ∨ pc = .fetching now → now ≤ s.clock)
    (hfetched : ∀ now result, pc ≠ .fetched now result)
    (hreturned : ∀ now outcome payload, pc = .returned now outcome →
      outcome.keySet = some payload →
      ∃ t, (t, payload) ∈ s.served ∧ now < t + settings.jwksCacheTtlSeconds) :
    RotationInv settings (s.setPc i pc) :=
  h.moved (s.setPc i pc) i pc (le_refl _) (fun _ hentry => hentry) rfl h.cached hbegun
    (fun now result _ hpc => absurd hpc (hfetched now result)) hreturned

/-- A key set that is found has not expired. -/
theorem lookJwks_keySet {store : JwksStore} {now : ℚ} {outcome : JwksOutcome} {payload : Dict}
    (hlook : lookJwks store now = some outcome) (hset : outcome.keySet = some payload) :
    ∃ expires, store.cache = some (expires, payload) ∧ now < expires := by
  -- a call in backoff gives no key set
  have hblocked : ∀ {found : JwksOutcome},
      (if now < store.backoffUntil.getD 0 then some JwksOutcome.backoff else none) = some found →
        found.keySet = none := by
    intro found hfound
    split at hfound
    · cases hfound
      rfl
    · cases hfound
  unfold lookJwks at hlook
  cases hcache : store.cache with
  -- without an entry only the backoff is left
  | none =>
      rw [hcache] at hlook
      rw [hblocked hlook] at hset
      cases hset
  | some cached =>
      obtain ⟨expires, held⟩ := cached
      rw [hcache] at hlook
      dsimp only at hlook
      split at hlook
      · -- a live entry is what is given
        rename_i hlive
        cases hlook
        cases hset
        exact ⟨expires, rfl, hlive⟩
      · rw [hblocked hlook] at hset
        cases hset

/-- A fetch returns and stores the key set of its answer, or leaves the stored one. -/
theorem fetchJwks_keySet (settings : JwksSettings) (store : JwksStore) (call : JwksCall) :
    (fetchJwks settings store call).1.keySet = call.fetch.keySet? ∧
      (fetchJwks settings store call).2.cache = match call.fetch.keySet? with
        | some payload => some (call.now + settings.jwksCacheTtlSeconds, payload)
        | none => store.cache := by
  obtain ⟨now, fetch⟩ := call
  unfold fetchJwks FetchResult.keySet?
  cases fetch with
  | raised => exact ⟨rfl, rfl⟩
  | document value => cases value <;> exact ⟨rfl, rfl⟩

/-- Every move keeps the invariant. -/
theorem RotationInv.step (h : RotationInv settings s) (move : KeyMove) :
    RotationInv settings (s.step settings move) := by
  have httl : (0 : ℚ) < settings.jwksCacheTtlSeconds := by
    have hten := settings.cacheTtl_range.1
    have hpos : 0 < settings.jwksCacheTtlSeconds := by omega
    exact_mod_cast hpos
  cases move with
  | wait time =>
      -- wait: time only moves on
      refine ⟨h.cached, ?_, h.fetched, h.returned⟩
      intro i now hi
      exact le_trans (h.begun i now hi) (le_max_left _ _)
  | begin i =>
      simp only [KeyRun.step]
      split
      · -- begin: the call begins now
        apply h.setPc i
        · intro now hnow
          rcases hnow with hnow | hnow <;> cases hnow
          exact le_refl _
        · intro now result hpc
          cases hpc
        · intro now outcome payload hpc
          cases hpc
      · exact h
  | look i =>
      simp only [KeyRun.step]
      split
      · rename_i now hcall
        split
        · rename_i outcome hlook
          apply h.setPc i
          · intro now' hnow
            rcases hnow with hnow | hnow <;> cases hnow
          · intro now' result hpc
            cases hpc
          · -- a live cache entry was served less than a time to live ago
            intro now' outcome' payload hpc hset
            cases hpc
            obtain ⟨expires, hcache, hlive⟩ := lookJwks_keySet hlook hset
            obtain ⟨t, ht, hle⟩ := h.cached expires payload hcache
            exact ⟨t, ht, lt_of_lt_of_le hlive hle⟩
        · -- the entry is gone: the call goes on to fetch, and began when it began
          apply h.setPc i
          · intro now' hnow
            rcases hnow with hnow | hnow <;> cases hnow
            exact h.begun i now (.inl hcall)
          · intro now' result hpc
            cases hpc
          · intro now' outcome payload hpc
            cases hpc
      · exact h
  | respond i result =>
      simp only [KeyRun.step]
      split
      · rename_i now hcall
        -- respond: what the provider serves is served from now on
        have hkept : ∀ entry ∈ s.served, entry ∈ s.served ++
            (result.keySet?.map fun payload => (s.clock, payload)).toList :=
          fun _ hentry => List.mem_append_left _ hentry
        refine h.moved _ i (.fetched now result) ?_ hkept rfl ?_ ?_ ?_ ?_
        · exact le_refl s.clock
        · intro expires payload hcache
          obtain ⟨t, ht, hle⟩ := h.cached expires payload hcache
          exact ⟨t, hkept _ ht, hle⟩
        · intro now' hnow
          rcases hnow with hnow | hnow <;> cases hnow
        · -- the call began before the answer came
          intro now' result' payload hpc hset
          cases hpc
          refine ⟨s.clock, ?_, h.begun i now (.inr hcall)⟩
          apply List.mem_append_right
          rw [hset]
          exact List.mem_singleton_self _
        · intro now' outcome payload hpc
          cases hpc
      · exact h
  | store i =>
      simp only [KeyRun.step]
      split
      · rename_i now result hcall
        obtain ⟨hset, hcache⟩ := fetchJwks_keySet settings s.store ⟨now, result⟩
        refine h.moved _ i (.returned now (fetchJwks settings s.store ⟨now, result⟩).1) ?_
          (fun _ hentry => hentry) rfl ?_ ?_ ?_ ?_
        · exact le_refl s.clock
        · -- store: what is cached was served after the call began, and expires counted from there
          intro expires payload hstored
          have hstored' : (fetchJwks settings s.store ⟨now, result⟩).2.cache =
              some (expires, payload) := hstored
          rw [hcache] at hstored'
          split at hstored'
          · rename_i payload' hresult
            cases hstored'
            obtain ⟨t, ht, hle⟩ := h.fetched i now result _ hcall hresult
            exact ⟨t, ht, add_le_add_left hle _⟩
          · exact h.cached expires payload hstored'
        · intro now' hnow
          rcases hnow with hnow | hnow <;> cases hnow
        · intro now' result' payload hpc
          cases hpc
        · -- what the call returns is what it fetched
          intro now' outcome payload hpc hpayload
          cases hpc
          rw [hset] at hpayload
          obtain ⟨t, ht, hle⟩ := h.fetched i now result payload hcall hpayload
          exact ⟨t, ht, lt_of_le_of_lt hle (lt_add_of_pos_right t httl)⟩
      · exact h

/-- Claims come from a key of the set. -/
theorem decodeWithKeys_some {decode : Value → KeyResult} {kid : Value} {keys : List Value}
    {claims : Dict} (h : decodeWithKeys decode kid keys = some claims) :
    ∃ key ∈ keys, decode key = .claims claims := by
  induction keys with
  | nil => cases h
  | cons key keys ih =>
      have hlater : decodeWithKeys decode kid keys = some claims →
          ∃ found ∈ key :: keys, decode found = .claims claims := by
        intro hkeys
        obtain ⟨found, hmem, hfound⟩ := ih hkeys
        exact ⟨found, List.mem_cons_of_mem _ hmem, hfound⟩
      rw [decodeWithKeys] at h
      split at h
      · cases h
      · exact hlater h
      · split at h
        · rename_i payload hdecode
          cases h
          exact ⟨key, List.mem_cons_self, hdecode⟩
        · exact hlater h
        · cases h

/-- A set whose keys do not verify a token refuses it. -/
theorem decodeWithJwks_refused {library : JoseLibrary} {token : String} {jwks : Dict}
    (h : ∀ keys, visitedKeys jwks = some keys → ∀ key ∈ keys, ∀ claims,
      library.decode token key ≠ .claims claims) :
    decodeWithJwks library token jwks = none := by
  cases hdecoded : decodeWithJwks library token jwks with
  | none => rfl
  | some claims =>
      obtain ⟨header, -, hrest⟩ := Option.bind_eq_some_iff.mp hdecoded
      obtain ⟨keys, hkeys, hclaims⟩ := Option.bind_eq_some_iff.mp hrest
      obtain ⟨key, hmem, hkey⟩ := decodeWithKeys_some hclaims
      exact absurd hkey (h keys hkeys key hmem claims)

/-- In every run: if from some time on the provider serves no key that verifies a token, then a
request that begins a time to live later is refused with the token, whatever it finds cached, and
however slow the fetches of other requests are. -/
theorem revoked_key_refused [PyRuntime] (settings : JwksSettings) (library : JoseLibrary)
    (clock : ℚ) (moves : List KeyMove) (revokedAt : ℚ) {scheme credentials : String}
    (hrevoked : ∀ t jwks, (t, jwks) ∈
        (Lib.run (KeyRun.step settings) (KeyRun.start clock) moves).served → revokedAt ≤ t →
      ∀ keys, visitedKeys jwks = some keys → ∀ key ∈ keys, ∀ claims,
        library.decode (pyStrip credentials) key ≠ .claims claims)
    {i : Nat} {now : ℚ} {outcome : JwksOutcome}
    (hreturned : (Lib.run (KeyRun.step settings) (KeyRun.start clock) moves).calls i =
      .returned now outcome)
    (hlate : revokedAt + settings.jwksCacheTtlSeconds ≤ now) :
    ∃ detail, tokenPrincipal (outcome.decode library) (some (scheme, credentials)) =
      .error (.http (unauthorized detail)) := by
  -- whatever is cached was served less than a time to live ago
  have hinv : RotationInv settings (Lib.run (KeyRun.step settings) (KeyRun.start clock) moves) :=
    Lib.run_preserves (fun _ move h => h.step move) (rotationInv_start clock) moves
  -- so what the call holds was served behind the revocation
  have hrefused : outcome.decode library (pyStrip credentials) = none := by
    unfold JwksOutcome.decode
    cases hset : outcome.keySet with
    | none => rfl
    | some jwks =>
        obtain ⟨t, hserved, hfresh⟩ := hinv.returned i now outcome jwks hreturned hset
        have hlater : revokedAt ≤ t := by linarith
        exact decodeWithJwks_refused (hrevoked t jwks hserved hlater)
  unfold tokenPrincipal
  dsimp only
  split
  · rw [hrefused]
    exact ⟨_, rfl⟩
  · exact ⟨_, rfl⟩

section Concrete

attribute [local instance] plainRuntime

/-- The key that is taken back. -/
def leakedKey : Value := .dict [("kid", .str "leaked"), ("kty", .str "RSA")]

/-- A library for one token of that key. -/
def leakedLibrary : JoseLibrary where
  unverifiedHeader _ := some [("kid", .str "leaked")]
  decode _ key := if key.eq leakedKey then .claims [("sub", .str "mallory")] else .jwtError

/-- The key is fetched, and taken back a minute later; five minutes after that a second request
begins. -/
def rotation : List KeyMove :=
  [.begin 0, .look 0, .respond 0 (.document (.dict [("keys", .list [leakedKey])])), .store 0,
    .wait 360, .begin 1, .look 1, .respond 1 (.document (.dict [("keys", .list [])])), .store 1]

theorem rotation_served :
    (Lib.run (KeyRun.step defaultJwks) (KeyRun.start 0) rotation).served =
      [(0, [("keys", .list [leakedKey])]), (360, [("keys", .list [])])] := by
  norm_num [rotation, Lib.run, KeyRun.step, KeyRun.start, KeyRun.setPc, lookJwks, fetchJwks,
    FetchResult.keySet?, defaultJwks]

theorem rotation_returned :
    (Lib.run (KeyRun.step defaultJwks) (KeyRun.start 0) rotation).calls 1 =
      .returned 360 (.success [("keys", .list [])]) := by
  norm_num [rotation, Lib.run, KeyRun.step, KeyRun.start, KeyRun.setPc, lookJwks, fetchJwks,
    FetchResult.keySet?, defaultJwks]

/-- The second request is refused with the token. -/
theorem leaked_refused :
    ∃ detail, tokenPrincipal (JwksOutcome.decode leakedLibrary (.success [("keys", .list [])]))
      (some ("Bearer", "token")) = .error (.http (unauthorized detail)) := by
  have hnone : ∀ keys, visitedKeys [("keys", .list [])] = some keys → keys = [] := by
    intro keys hkeys
    cases hkeys
    rfl
  apply revoked_key_refused defaultJwks leakedLibrary 0 rotation 60
  · intro t jwks hserved hlater keys hkeys key hmem
    rw [rotation_served] at hserved
    rcases List.mem_cons.mp hserved with hfirst | hserved
    · cases hfirst
      exact absurd hlater (by norm_num)
    · cases List.mem_singleton.mp hserved
      rw [hnone keys hkeys] at hmem
      cases hmem
  · exact rotation_returned
  · norm_num [defaultJwks]

end Concrete

end KeyNetra
