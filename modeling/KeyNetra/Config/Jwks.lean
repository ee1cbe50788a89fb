import KeyNetra.Lib.Runs
import KeyNetra.Py.Value
import Mathlib.Data.Rat.Floor

/-!
# KeyNetra.Config.Jwks — fetching the key set of an identity provider

`_get_jwks` caches the key set of a URL, and after a fetch that failed it waits. The wait is meant to
double from one failed fetch to the next, but it is computed from the part of the last window that
is still to come, and a fetch is only made once that window is over.

* `getJwks` — a call, with what its fetch would return;
* `BackoffStep` — the window doubles, it keeps calls from fetching, and a success clears it;
* `backoff_doubles_iff` — a run does so iff no failed fetch follows another one.
-/

namespace KeyNetra

/-- The settings of the key set that the validators let through. -/
structure JwksSettings where
  jwksCacheTtlSeconds : Int
  jwksBackoffMaxSeconds : Int
  cacheTtl_range : 10 ≤ jwksCacheTtlSeconds ∧ jwksCacheTtlSeconds ≤ 86400
  backoffMax_range : 1 ≤ jwksBackoffMaxSeconds ∧ jwksBackoffMaxSeconds ≤ 3600

/-- What is stored for the URL: `_jwks_cache` and `_jwks_backoff_until`. -/
structure JwksStore where
  cache : Option (ℚ × Dict)
  backoffUntil : Option ℚ

/-- What a fetch comes to: a JSON document, or an exception. -/
inductive FetchResult where
  | document (payload : Value)
  | raised

/-- A call, at a time, and what its fetch comes to if there is one. -/
structure JwksCall where
  now : ℚ
  fetch : FetchResult

/-- The outcomes that are recorded, and the key set that is returned. -/
inductive JwksOutcome where
  | cacheHit (payload : Dict)
  | backoff
  | success (payload : Dict)
  | failure

variable (settings : JwksSettings)

/-- The except branch of `_get_jwks`: the end of the next window. -/
def nextBackoff (backoffUntil : Option ℚ) (now : ℚ) : ℚ :=
  let previous := backoffUntil.getD now
  min (max 1 (if now < previous then (previous - now) * 2 else 1)) settings.jwksBackoffMaxSeconds

/-- The part of `_get_jwks` that fetches. -/
def fetchJwks (store : JwksStore) (call : JwksCall) : JwksOutcome × JwksStore :=
  match call.fetch with
  | .document (.dict payload) =>
      (.success payload,
        { cache := some (call.now + settings.jwksCacheTtlSeconds, payload), backoffUntil := none })
  | _ =>
      let deadline := call.now + nextBackoff settings store.backoffUntil call.now
      (.failure, { store with backoffUntil := some deadline })

/-- `_get_jwks`. -/
def getJwks (store : JwksStore) (call : JwksCall) : JwksOutcome × JwksStore :=
  let blockedUntil := store.backoffUntil.getD 0
  match store.cache with
  | some (expires, payload) =>
      if call.now < expires then (.cacheHit payload, store)
      else if call.now < blockedUntil then (.backoff, store)
      else fetchJwks settings store call
  | none =>
      if call.now < blockedUntil then (.backoff, store)
      else fetchJwks settings store call

/-! ## Runs -/

/-- The store, and the fetches that failed since the last one that did not. -/
structure JwksRun where
  store : JwksStore
  failures : Nat

def JwksRun.start : JwksRun := ⟨⟨none, none⟩, 0⟩

def JwksRun.step (s : JwksRun) (call : JwksCall) : JwksRun :=
  let (outcome, store) := getJwks settings s.store call
  match outcome with
  | .success _ => ⟨store, 0⟩
  | .failure => ⟨store, s.failures + 1⟩
  | _ => ⟨store, s.failures⟩

/-- The call fetches. -/
def JwksOutcome.Fetched : JwksOutcome → Prop
  | .success _ | .failure => True
  | _ => False

/-- A failed fetch sets a window of the right length, no call in a window fetches, and a success
clears it. -/
structure BackoffStep (s : JwksRun) (call : JwksCall) : Prop where
  doubles : (getJwks settings s.store call).1 = .failure →
    (getJwks settings s.store call).2.backoffUntil =
      some (call.now + min (2 ^ s.failures) (settings.jwksBackoffMaxSeconds : ℚ))
  waits : ∀ deadline, s.store.backoffUntil = some deadline → call.now < deadline →
    ¬ (getJwks settings s.store call).1.Fetched
  clears : ∀ payload, (getJwks settings s.store call).1 = .success payload →
    (getJwks settings s.store call).2.backoffUntil = none ∧
      (s.step settings call).failures = 0

/-- The call finds no live key set and no open window, and its fetch fails. -/
structure FailsAt (s : JwksRun) (call : JwksCall) : Prop where
  expired : ∀ expires payload, s.store.cache = some (expires, payload) → expires ≤ call.now
  open_ : s.store.backoffUntil.getD 0 ≤ call.now
  fails : ∀ payload, call.fetch ≠ .document (.dict payload)

/-- If the fetch fails, it is the first one to fail since the last success, or windows are not to
grow. -/
def FirstFailure (s : JwksRun) (call : JwksCall) : Prop :=
  FailsAt s call → s.failures = 0 ∨ settings.jwksBackoffMaxSeconds = 1

/-! ## One call -/

variable {settings} {s : JwksRun} {store : JwksStore} {call : JwksCall}

/-- A call that fetches finds no open window. -/
theorem getJwks_fetches (h : (getJwks settings store call).1.Fetched) :
    getJwks settings store call = fetchJwks settings store call ∧
      store.backoffUntil.getD 0 ≤ call.now ∧
      ∀ expires payload, store.cache = some (expires, payload) → expires ≤ call.now := by
  unfold getJwks at h ⊢
  dsimp only at h ⊢
  cases hcache : store.cache with
  | none =>
      rw [hcache] at h
      dsimp only at h ⊢
      by_cases hblocked : call.now < store.backoffUntil.getD 0
      · rw [if_pos hblocked] at h
        cases h
      · rw [if_neg hblocked]
        refine ⟨rfl, not_lt.mp hblocked, ?_⟩
        intro expires payload hnone
        cases hnone
  | some entry =>
      obtain ⟨expires, payload⟩ := entry
      rw [hcache] at h
      dsimp only at h ⊢
      -- a live document is served, an open window raises; the rest fetches
      by_cases hlive : call.now < expires
      · rw [if_pos hlive] at h
        cases h
      · rw [if_neg hlive] at h ⊢
        by_cases hblocked : call.now < store.backoffUntil.getD 0
        · rw [if_pos hblocked] at h
          cases h
        · rw [if_neg hblocked]
          refine ⟨rfl, not_lt.mp hblocked, ?_⟩
          intro expires' payload' hsame
          cases hsame
          exact not_lt.mp hlive

/-- And one that finds neither a live key set nor an open window fetches. -/
theorem getJwks_of_due (hexpired : ∀ expires payload, store.cache = some (expires, payload) →
    expires ≤ call.now) (hopen : store.backoffUntil.getD 0 ≤ call.now) :
    getJwks settings store call = fetchJwks settings store call := by
  unfold getJwks
  dsimp only
  cases hcache : store.cache with
  | none => exact if_neg (not_lt.mpr hopen)
  | some entry =>
      obtain ⟨expires, payload⟩ := entry
      dsimp only
      rw [if_neg (not_lt.mpr (hexpired expires payload hcache)), if_neg (not_lt.mpr hopen)]

/-- A window that is over counts for nothing: the next one is a second again. -/
theorem nextBackoff_closed (hopen : store.backoffUntil.getD 0 ≤ call.now) :
    nextBackoff settings store.backoffUntil call.now = 1 := by
  have hprevious : ¬ call.now < store.backoffUntil.getD call.now := by
    cases hstored : store.backoffUntil with
    | none => exact lt_irrefl _
    | some deadline =>
        rw [hstored] at hopen
        exact not_lt.mpr hopen
  have hmax : (1 : ℚ) ≤ settings.jwksBackoffMaxSeconds := by
    exact_mod_cast settings.backoffMax_range.1
  unfold nextBackoff
  dsimp only
  rw [if_neg hprevious, max_self, min_eq_left hmax]

theorem fetchJwks_failure (hfails : ∀ payload, call.fetch ≠ .document (.dict payload)) :
    fetchJwks settings store call =
      (.failure, { store with
        backoffUntil := some (call.now + nextBackoff settings store.backoffUntil call.now) }) := by
  unfold fetchJwks
  split
  · rename_i payload hfetch
    exact absurd hfetch (hfails payload)
  · rfl

/-- A failed fetch, by what the call finds. -/
theorem failure_iff : (getJwks settings s.store call).1 = .failure ↔ FailsAt s call := by
  constructor
  · intro hfailure
    have hfetched : (getJwks settings s.store call).1.Fetched := by
      rw [hfailure]
      trivial
    have ⟨hsame, hopen, hexpired⟩ := getJwks_fetches hfetched
    refine ⟨hexpired, hopen, ?_⟩
    intro payload hfetch
    rw [hsame] at hfailure
    unfold fetchJwks at hfailure
    rw [hfetch] at hfailure
    cases hfailure
  · intro hfails
    rw [getJwks_of_due hfails.expired hfails.open_, fetchJwks_failure hfails.fails]

/-- Every failed fetch sets a window of one second. -/
theorem failure_window (h : FailsAt s call) :
    (getJwks settings s.store call).2.backoffUntil = some (call.now + 1) := by
  rw [getJwks_of_due h.expired h.open_, fetchJwks_failure h.fails]
  show some (call.now + nextBackoff settings s.store.backoffUntil call.now) = _
  rw [nextBackoff_closed h.open_]

/-- A window of one second is the right one after the first failure only, or where none is
longer. -/
theorem one_second_iff (failures : Nat) :
    (1 : ℚ) = min (2 ^ failures) (settings.jwksBackoffMaxSeconds : ℚ) ↔
      failures = 0 ∨ settings.jwksBackoffMaxSeconds = 1 := by
  have hmax : (1 : ℚ) ≤ settings.jwksBackoffMaxSeconds := by
    exact_mod_cast settings.backoffMax_range.1
  constructor
  · intro hmin
    by_cases hfirst : failures = 0
    · exact .inl hfirst
    · right
      have hgrown : (1 : ℚ) < 2 ^ failures := one_lt_pow₀ one_lt_two hfirst
      rcases min_choice ((2 : ℚ) ^ failures) (settings.jwksBackoffMaxSeconds : ℚ) with hleft | hright
      · rw [hleft] at hmin
        exact absurd hmin hgrown.ne
      · rw [hright] at hmin
        exact_mod_cast hmin.symm
  · rintro (hfirst | hone)
    · rw [hfirst, pow_zero, min_eq_left hmax]
    · rw [hone, Int.cast_one, min_eq_right]
      exact one_le_pow₀ one_le_two

/-- A call is as it should be iff it is no second failure in a row, or no window may be longer than a
second. -/
theorem backoffStep_iff : BackoffStep settings s call ↔ FirstFailure settings s call := by
  constructor
  · intro hstep hfails
    have hdoubles := hstep.doubles (failure_iff.mpr hfails)
    rw [failure_window hfails] at hdoubles
    have hwindow := add_left_cancel (Option.some.inj hdoubles)
    exact (one_second_iff s.failures).mp hwindow
  · intro hfirst
    constructor
    · intro hfailure
      have hfails := failure_iff.mp hfailure
      rw [failure_window hfails, ← (one_second_iff s.failures).mpr (hfirst hfails)]
    · intro deadline hdeadline hinside hfetched
      have ⟨_, hopen, _⟩ := getJwks_fetches hfetched
      rw [hdeadline] at hopen
      exact not_lt.mpr hopen hinside
    · intro payload hsuccess
      have hfetched : (getJwks settings s.store call).1.Fetched := by
        rw [hsuccess]
        trivial
      -- the windows are the powers of two from one, so only the first is one second
      constructor
      · have ⟨hsame, _, _⟩ := getJwks_fetches hfetched
        rw [hsame] at hsuccess ⊢
        unfold fetchJwks at hsuccess ⊢
        split
        · rfl
        · rename_i hother
          split at hsuccess
          · rename_i payload' hfetch
            exact absurd hfetch (hother payload')
          · cases hsuccess
      · unfold JwksRun.step
        dsimp only
        rw [hsuccess]

/-! ## Runs of any calls -/

/-- The windows of a run double iff no failed fetch of it follows another one, or none may be longer
than a second. -/
theorem backoff_doubles_iff (settings : JwksSettings) (calls : List JwksCall) :
    Lib.Along (JwksRun.step settings) (BackoffStep settings) .start calls ↔
      Lib.Along (JwksRun.step settings) (FirstFailure settings) .start calls := by
  apply @Lib.along_iff _ _ _ _ _ fun _ => True
  · intro s call _ _
    trivial
  · intro s call _
    exact backoffStep_iff
  · trivial

/-- As the defaults have it. -/
def defaultJwks : JwksSettings where
  jwksCacheTtlSeconds := 300
  jwksBackoffMaxSeconds := 60
  cacheTtl_range := by decide
  backoffMax_range := by decide

/-- Two fetches fail ten seconds apart, and the second window is a second long, not two. -/
theorem second_window_not_doubled :
    ¬ Lib.Along (JwksRun.step defaultJwks) (BackoffStep defaultJwks) .start
      [⟨0, .raised⟩, ⟨10, .raised⟩] := by
  intro halong
  have hfails : FailsAt (JwksRun.step defaultJwks .start ⟨0, .raised⟩) ⟨10, .raised⟩ := by
    constructor
    · intro expires payload hcache
      cases hcache
    · decide +kernel
    · intro payload hfetch
      cases hfetch
  have hsecond := halong.2.1.doubles (failure_iff.mpr hfails)
  have hone : (getJwks defaultJwks (JwksRun.step defaultJwks .start ⟨0, .raised⟩).store
      ⟨10, .raised⟩).2.backoffUntil = some 11 := by decide +kernel
  rw [hone] at hsecond
  have htwo := Option.some.inj hsecond
  revert htwo
  decide +kernel

end KeyNetra
