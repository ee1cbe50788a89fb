import KeyNetra.Lib.TokenBucket
import KeyNetra.Py.Value
import Mathlib.Data.Rat.Floor

/-!
# KeyNetra.Config.RateLimit — the rate limiter

The middleware keeps a token bucket for every principal, in Redis or, without it, in the process.
Times and tokens are exact here.

* `consumeLocal`, `consumeRedis` — `_consume` on the bucket of one key;
* `local_budget` — what a key is admitted, where its timestamps credit no interval twice;
* `redis_local_same` — the two give the same answers at times that do not go back;
* `retry_after_exact` — a refused request that waits as long as it is told is admitted, and no
  second earlier.
-/

namespace KeyNetra

/-! ## Settings -/

/-- The rate limit settings that the validators let through. -/
structure RateLimitSettings where
  rateLimitPerMinute : Int
  rateLimitBurst : Option Int
  rateLimitWindowSeconds : Int
  perMinute_range : 1 ≤ rateLimitPerMinute ∧ rateLimitPerMinute ≤ 1000000
  burst_range : ∀ burst, rateLimitBurst = some burst → 1 ≤ burst ∧ burst ≤ 1000000
  window_range : 1 ≤ rateLimitWindowSeconds ∧ rateLimitWindowSeconds ≤ 3600

namespace RateLimitSettings

variable (settings : RateLimitSettings)

def rate : Int := max 1 settings.rateLimitPerMinute

def interval : Int := max 1 settings.rateLimitWindowSeconds

/-- `max(1, rate_limit_burst or rate)`. -/
def capacity : Int :=
  max 1 (match settings.rateLimitBurst with
    | some burst => if burst = 0 then settings.rate else burst
    | none => settings.rate)

def refillRate : ℚ := settings.rate / settings.interval

def ttl : Int := max settings.interval (⌈(settings.capacity : ℚ) / settings.refillRate⌉ * 2)

theorem one_le_capacity : (1 : ℚ) ≤ settings.capacity := by
  have hcapacity : 1 ≤ settings.capacity := le_max_left _ _
  exact_mod_cast hcapacity

theorem refillRate_pos : 0 < settings.refillRate := by
  have hrate : 0 < settings.rate := lt_of_lt_of_le zero_lt_one (le_max_left _ _)
  have hinterval : 0 < settings.interval := lt_of_lt_of_le zero_lt_one (le_max_left _ _)
  unfold refillRate
  apply div_pos
  · exact_mod_cast hrate
  · exact_mod_cast hinterval

/-- A key lives long enough for its bucket to fill. -/
theorem capacity_le_ttl : (settings.capacity : ℚ) ≤ settings.ttl * settings.refillRate := by
  have hceil : (settings.capacity : ℚ) / settings.refillRate ≤
      ⌈(settings.capacity : ℚ) / settings.refillRate⌉ := Int.le_ceil _
  have hpos : 0 ≤ ⌈(settings.capacity : ℚ) / settings.refillRate⌉ := by
    apply Int.ceil_nonneg
    exact div_nonneg (le_trans zero_le_one settings.one_le_capacity) settings.refillRate_pos.le
  have hdouble : ⌈(settings.capacity : ℚ) / settings.refillRate⌉ ≤ settings.ttl := by
    have hmax : ⌈(settings.capacity : ℚ) / settings.refillRate⌉ * 2 ≤ settings.ttl :=
      le_max_right _ _
    omega
  have hlong : (settings.capacity : ℚ) / settings.refillRate ≤ settings.ttl := by
    apply le_trans hceil
    exact_mod_cast hdouble
  exact (div_le_iff₀ settings.refillRate_pos).mp hlong

end RateLimitSettings

/-! ## Requests and replies -/

/-- What `_consume` reads of a request, and the clock. -/
structure RateLimitRequest where
  xApiKey : Option String
  authorization : Option String
  clientHost : Option String
  now : ℚ

/-- `X-API-Key`, or `Authorization`, or the host of the client. -/
def RateLimitRequest.principal (request : RateLimitRequest) : String :=
  let header :=
    match request.xApiKey with
    | some key => if key = "" then request.authorization else some key
    | none => request.authorization
  match header with
  | some principal => principal
  | none => request.clientHost.getD "anonymous"

/-- The key of the bucket, and the time of the request. -/
def RateLimitRequest.label (sha256 : String → String) (request : RateLimitRequest) : String × ℚ :=
  ("rl:tb:" ++ String.ofList ((sha256 request.principal).toList.take 32), request.now)

/-- `_BucketDecision`. -/
structure BucketDecision where
  limit : Int
  remaining : Int
  retryAfter : Int
deriving DecidableEq, Repr

/-- The response of a limited request, by the numbers in its headers. -/
structure LimitedResponse where
  limit : Int
  retryAfter : Int
deriving DecidableEq, Repr

/-- `_limited_response`. -/
def limitedResponse (limit retryAfter : Int) : LimitedResponse := ⟨limit, max 1 retryAfter⟩

def LimitedResponse.statusCode (_ : LimitedResponse) : Nat := 429

def LimitedResponse.headers (response : LimitedResponse) : Assoc String :=
  [("Retry-After", toString response.retryAfter), ("X-RateLimit-Limit", toString response.limit),
    ("X-RateLimit-Remaining", "0"), ("X-RateLimit-Reset", toString response.retryAfter)]

def LimitedResponse.content (_ : LimitedResponse) : Dict :=
  [("data", .null), ("error", .dict [("code", .str "too_many_requests"),
    ("message", .str "rate limit exceeded"), ("details", .null)])]

/-- What `_consume` returns. -/
inductive RateLimitReply where
  | limited (response : LimitedResponse)
  | decided (decision : BucketDecision)
deriving DecidableEq, Repr

def RateLimitReply.admitted : RateLimitReply → Bool
  | .limited _ => false
  | .decided _ => true

/-! ## The two stores -/

/-- `int(x)`. -/
def truncate (x : ℚ) : Int := x.num.tdiv x.den

/-- `_LocalBucket`. -/
abbrev LocalBucket := Lib.Bucket ℚ

/-- The part of `_consume` under the lock. -/
def consumeLocal (settings : RateLimitSettings) (stored : Option LocalBucket) (now : ℚ) :
    RateLimitReply × Option LocalBucket :=
  let bucket : LocalBucket := stored.getD ⟨settings.capacity, now⟩
  let elapsed := max 0 (now - bucket.updatedAt)
  let tokens := min (settings.capacity : ℚ) (bucket.tokens + elapsed * settings.refillRate)
  if tokens < 1 then
    let retryAfter := max 1 ⌈(1 - tokens) / settings.refillRate⌉
    (.limited (limitedResponse settings.capacity retryAfter), some ⟨tokens, now⟩)
  else
    (.decided ⟨settings.capacity, max 0 (truncate (tokens - 1)), 0⟩, some ⟨tokens - 1, now⟩)

/-- `_REDIS_BUCKET_SCRIPT`: its reply, whose numbers Redis cuts to integers, and the hash it
stores. -/
def redisBucketScript (values : Option LocalBucket) (now refillRate capacity requested : ℚ) :
    (Int × Int × Int) × LocalBucket :=
  let tokens :=
    match values with
    | some bucket => bucket.tokens
    | none => capacity
  let updatedAt :=
    match values with
    | some bucket => bucket.updatedAt
    | none => now
  let elapsed := max 0 (now - updatedAt)
  let tokens := min capacity (tokens + elapsed * refillRate)
  if requested ≤ tokens then ((1, truncate (tokens - requested), 0), ⟨tokens - requested, now⟩)
  else ((0, truncate tokens, ⌈(requested - tokens) / refillRate⌉), ⟨tokens, now⟩)

/-- When Redis loses a key: not before `ttl` seconds have passed since it was touched. -/
structure Expiry (ttl : Int) where
  gone : ℚ → Bool
  not_before : ∀ elapsed, gone elapsed = true → ttl ≤ elapsed

/-- The part of `_consume` with a Redis client. -/
def consumeRedis (settings : RateLimitSettings) (expiry : Expiry settings.ttl)
    (stored : Option LocalBucket) (now : ℚ) : RateLimitReply × Option LocalBucket :=
  let values := stored.filter fun bucket => !expiry.gone (now - bucket.updatedAt)
  let ((allowed, remaining, retryAfter), bucket) :=
    redisBucketScript values now settings.refillRate settings.capacity 1
  let remainingTokens := max 0 remaining
  let retryAfterSeconds := max 0 retryAfter
  if allowed = 1 then
    (.decided ⟨settings.capacity, remainingTokens, retryAfterSeconds⟩, some bucket)
  else (.limited (limitedResponse settings.capacity retryAfterSeconds), some bucket)

/-! ## Both stores, as one bucket -/

section Buckets

variable {settings : RateLimitSettings}

/-- The reply for a bucket that has been refilled. -/
def settled (settings : RateLimitSettings) (bucket : LocalBucket) :
    RateLimitReply × Option LocalBucket :=
  if bucket.tokens < 1 then
    (.limited (limitedResponse settings.capacity (max 1 (bucket.wait settings.refillRate))),
      some bucket)
  else
    (.decided ⟨settings.capacity, max 0 (truncate (bucket.tokens - 1)), 0⟩,
      some ⟨bucket.tokens - 1, bucket.updatedAt⟩)

/-- The bucket of a key that has none yet. -/
def freshBucket (settings : RateLimitSettings) (now : ℚ) : LocalBucket := ⟨settings.capacity, now⟩

/-- The bucket that a request finds, refilled. -/
def refilledBucket (settings : RateLimitSettings) (stored : Option LocalBucket) (now : ℚ) :
    LocalBucket :=
  (stored.getD (freshBucket settings now)).refilled settings.refillRate settings.capacity now

theorem consumeLocal_eq (stored : Option LocalBucket) (now : ℚ) :
    consumeLocal settings stored now = settled settings (refilledBucket settings stored now) := rfl

theorem refilled_fresh (settings : RateLimitSettings) (now : ℚ) :
    (freshBucket settings now).refilled settings.refillRate settings.capacity now =
      freshBucket settings now := Lib.refilled_of_full rfl rfl

theorem redisBucketScript_eq (values : Option LocalBucket) (now : ℚ) :
    redisBucketScript values now settings.refillRate settings.capacity 1 =
      let bucket := refilledBucket settings values now
      if 1 ≤ bucket.tokens then
        ((1, truncate (bucket.tokens - 1), 0), ⟨bucket.tokens - 1, now⟩)
      else ((0, truncate bucket.tokens, bucket.wait settings.refillRate), bucket) := by
  cases values with
  | none => rfl
  | some bucket => rfl

/-- The reply of the script is that of the bucket. -/
theorem consumeRedis_eq (expiry : Expiry settings.ttl) (stored : Option LocalBucket) (now : ℚ) :
    consumeRedis settings expiry stored now =
      settled settings (refilledBucket settings
        (stored.filter fun bucket => !expiry.gone (now - bucket.updatedAt)) now) := by
  unfold consumeRedis
  dsimp only
  rw [redisBucketScript_eq]
  dsimp only
  generalize hbucket : refilledBucket settings
    (stored.filter fun bucket => !expiry.gone (now - bucket.updatedAt)) now = bucket
  have hnow : bucket.updatedAt = now := by
    rw [← hbucket]
    rfl
  unfold settled limitedResponse
  by_cases htoken : 1 ≤ bucket.tokens
  · rw [if_pos htoken, if_neg (not_lt.mpr htoken), hnow]
    rfl
  · rw [if_neg htoken, if_pos (not_le.mp htoken)]
    have hwait : max 1 (max 0 (bucket.wait settings.refillRate)) =
        max 1 (max 1 (bucket.wait settings.refillRate)) := by omega
    show (RateLimitReply.limited ⟨_, max 1 (max 0 (bucket.wait settings.refillRate))⟩, _) = _
    rw [hwait]

/-- Admission is that of the token bucket. -/
theorem settled_request (settings : RateLimitSettings) (bucket : LocalBucket) (now : ℚ) :
    let answer := bucket.request settings.refillRate settings.capacity now
    let reply := settled settings (bucket.refilled settings.refillRate settings.capacity now)
    reply.1.admitted = answer.1 ∧ reply.2 = some answer.2 := by
  dsimp only
  unfold Lib.Bucket.request Lib.Bucket.take settled
  by_cases htoken : 1 ≤ (bucket.refilled settings.refillRate settings.capacity now).tokens
  · rw [if_neg (not_lt.mpr htoken), if_pos htoken]
    exact ⟨rfl, rfl⟩
  · rw [if_pos (not_le.mp htoken), if_neg htoken]
    exact ⟨rfl, rfl⟩

/-- What the store holds for a key after a request. -/
theorem consumeLocal_stored (stored : Option LocalBucket) (now : ℚ) :
    ∃ bucket : LocalBucket, (consumeLocal settings stored now).2 = some bucket ∧
      bucket.updatedAt = now ∧
      ((∀ b, stored = some b → b.Within (settings.capacity : ℚ)) →
        bucket.Within (settings.capacity : ℚ)) := by
  have hanswer := settled_request settings (stored.getD (freshBucket settings now)) now
  refine ⟨_, hanswer.2, Lib.request_updatedAt .., ?_⟩
  intro hwithin
  apply Lib.Bucket.Within.request settings.refillRate_pos.le
  cases stored with
  | none => exact ⟨le_trans zero_le_one settings.one_le_capacity, le_refl _⟩
  | some b => exact hwithin b rfl

/-! ## One store or the other -/

/-- A key that Redis has lost would be full by now. -/
theorem consumeRedis_same (expiry : Expiry settings.ttl) {stored : Option LocalBucket} {now : ℚ}
    (h : ∀ b, stored = some b → 0 ≤ b.tokens ∧ b.updatedAt ≤ now) :
    consumeLocal settings stored now = consumeRedis settings expiry stored now := by
  rw [consumeLocal_eq, consumeRedis_eq]
  cases stored with
  | none => rfl
  | some b =>
      have ⟨htokens, hnow⟩ := h b rfl
      cases hgone : expiry.gone (now - b.updatedAt) with
      | false => rw [Option.filter_some_pos (by rw [hgone]; rfl)]
      | true =>
          rw [Option.filter_some_neg (by rw [hgone]; decide)]
          have hlong : (settings.capacity : ℚ) ≤ (now - b.updatedAt) * settings.refillRate := by
            apply le_trans settings.capacity_le_ttl
            exact mul_le_mul_of_nonneg_right (expiry.not_before _ hgone) settings.refillRate_pos.le
          have hfull : refilledBucket settings (some b) now = freshBucket settings now :=
            Lib.refilled_full htokens hlong hnow
          have hfresh : refilledBucket settings none now = freshBucket settings now :=
            refilled_fresh settings now
          rw [hfull, hfresh]

/-- A stored bucket is within its bounds, and no later request of its key comes before it. -/
def Ready (settings : RateLimitSettings) (stored : Option LocalBucket) (times : List ℚ) : Prop :=
  times.Pairwise (· ≤ ·) ∧
    ∀ b, stored = some b → b.Within (settings.capacity : ℚ) ∧ ∀ t ∈ times, b.updatedAt ≤ t

theorem Ready.next {stored : Option LocalBucket} {now : ℚ} {times : List ℚ}
    (h : Ready settings stored (now :: times)) :
    Ready settings (consumeLocal settings stored now).2 times := by
  have ⟨hfirst, hrest⟩ := List.pairwise_cons.mp h.1
  have ⟨bucket, hstored, hupdated, hwithin⟩ := @consumeLocal_stored settings stored now
  refine ⟨hrest, ?_⟩
  intro b hb
  rw [hstored] at hb
  cases hb
  constructor
  · exact hwithin fun b hb => (h.2 b hb).1
  · intro t ht
    rw [hupdated]
    exact hfirst t ht

/-- The requests of a key that has a bucket are those of the token bucket. -/
theorem local_answers (b : LocalBucket) (times : List ℚ) :
    (Lib.answers (consumeLocal settings) (some b) times).map RateLimitReply.admitted =
        Lib.answers (Lib.Bucket.request settings.refillRate settings.capacity) b times ∧
      Lib.after (consumeLocal settings) (some b) times =
        some (Lib.after (Lib.Bucket.request settings.refillRate settings.capacity) b times) := by
  induction times generalizing b with
  | nil => exact ⟨rfl, rfl⟩
  | cons now times ih =>
      have ⟨hadmitted, hstored⟩ := settled_request settings b now
      have hreply : consumeLocal settings (some b) now =
          settled settings (b.refilled settings.refillRate settings.capacity now) := rfl
      have ⟨hanswers, hafter⟩ :=
        ih (b.request settings.refillRate settings.capacity now).2
      constructor
      · rw [Lib.answers, Lib.answers, List.map_cons, hreply, hadmitted, hstored, hanswers]
      · rw [Lib.after, Lib.after, hreply, hstored, hafter]

end Buckets

section Runs

variable (settings : RateLimitSettings) (sha256 : String → String)

/-- The replies of the process, to requests of any keys, from its start. -/
def localReplies (requests : List RateLimitRequest) : List (String × RateLimitReply) :=
  Lib.answers (Lib.keyed (consumeLocal settings)) (fun _ => none)
    (requests.map (RateLimitRequest.label sha256))

/-- The replies with Redis. -/
def redisReplies (expiry : Expiry settings.ttl) (requests : List RateLimitRequest) :
    List (String × RateLimitReply) :=
  Lib.answers (Lib.keyed (consumeRedis settings expiry)) (fun _ => none)
    (requests.map (RateLimitRequest.label sha256))

/-- The timestamps of a key. -/
def timesOf (requests : List RateLimitRequest) (key : String) : List ℚ :=
  Lib.ofKey key (requests.map (RateLimitRequest.label sha256))

/-- Where the timestamps of no key go back, Redis and the process answer alike. -/
theorem redis_local_same (expiry : Expiry settings.ttl) (requests : List RateLimitRequest)
    (hsorted : ∀ key, (timesOf sha256 requests key).Pairwise (· ≤ ·)) :
    localReplies settings sha256 requests = redisReplies settings sha256 expiry requests := by
  unfold localReplies redisReplies
  apply @Lib.answers_eq_of_related _ _ _ _ _ _ fun s t labels =>
    s = t ∧ ∀ key, Ready settings (s key) (Lib.ofKey key labels)
  · -- one request: the key that is asked for, and the others
    intro s t label labels hrelated
    obtain ⟨rfl, hready⟩ := hrelated
    obtain ⟨key, now⟩ := label
    have hkey := hready key
    rw [Lib.ofKey_cons_self] at hkey
    have hsame : consumeLocal settings (s key) now = consumeRedis settings expiry (s key) now := by
      apply consumeRedis_same
      intro b hb
      exact ⟨(hkey.2 b hb).1.1, (hkey.2 b hb).2 now List.mem_cons_self⟩
    have hstep : Lib.keyed (consumeLocal settings) s (key, now) =
        Lib.keyed (consumeRedis settings expiry) s (key, now) := by
      unfold Lib.keyed
      rw [hsame]
    rw [← hstep]
    refine ⟨rfl, rfl, ?_⟩
    intro other
    by_cases hother : key = other
    · subst hother
      rw [Lib.keyed_self]
      exact hkey.next
    · rw [Lib.keyed_other _ _ hother]
      have hframe := hready other
      rw [Lib.ofKey_cons_other hother] at hframe
      exact hframe
  · refine ⟨rfl, ?_⟩
    intro key
    refine ⟨hsorted key, ?_⟩
    intro b hb
    cases hb

/-! ## What a key is admitted -/

/-- What the process holds after some requests. -/
def localStore (requests : List RateLimitRequest) : String → Option LocalBucket :=
  Lib.after (Lib.keyed (consumeLocal settings)) (fun _ => none)
    (requests.map (RateLimitRequest.label sha256))

/-- The requests of a key that are admitted. -/
def admittedCount (requests : List RateLimitRequest) (key : String) : Nat :=
  (Lib.ofKey key (localReplies settings sha256 requests)).countP RateLimitReply.admitted

/-- The steps forward between one timestamp and the next, added up. -/
def forwardSum : List ℚ → ℚ
  | [] => 0
  | first :: times => Lib.forwardTime first times

/-- The largest timestamp minus the smallest. -/
def timeRange : List ℚ → ℚ
  | [] => 0
  | first :: times => Lib.timeSpan first times

/-- No part of the time is credited twice. -/
def CreditedOnce (times : List ℚ) : Prop := forwardSum times ≤ timeRange times

/-- As where the timestamps do not go back. -/
theorem creditedOnce_of_sorted {times : List ℚ} (h : times.Pairwise (· ≤ ·)) :
    CreditedOnce times := by
  cases times with
  | nil => exact le_refl _
  | cons first times => exact (Lib.forwardTime_of_sorted h).le

/-- A key is admitted its capacity, and what the steps forward were credited. -/
theorem admitted_credit (requests : List RateLimitRequest) (key : String) :
    (admittedCount settings sha256 requests key : ℚ) ≤
      settings.capacity + settings.refillRate * forwardSum (timesOf sha256 requests key) := by
  unfold admittedCount localReplies
  rw [Lib.answers_keyed]
  show ((Lib.answers (consumeLocal settings) none (timesOf sha256 requests key)).countP _ : ℚ) ≤ _
  have hpos := settings.one_le_capacity
  cases timesOf sha256 requests key with
  | nil =>
      show ((0 : ℕ) : ℚ) ≤ settings.capacity + settings.refillRate * 0
      rw [mul_zero, add_zero, Nat.cast_zero]
      linarith
  | cons first times =>
      -- the first request finds a bucket that is full at its time
      have hstart : Lib.answers (consumeLocal settings) none (first :: times) =
          Lib.answers (consumeLocal settings) (some (freshBucket settings first))
            (first :: times) := rfl
      have hpays := Lib.admitted_le settings.refillRate (settings.capacity : ℚ)
        (freshBucket settings first) (first :: times)
      have hwithin : (Lib.after (Lib.Bucket.request settings.refillRate (settings.capacity : ℚ))
          (freshBucket settings first) (first :: times)).Within (settings.capacity : ℚ) := by
        apply Lib.after_preserves
        · intro b now hb
          exact hb.request settings.refillRate_pos.le now
        · exact ⟨le_trans zero_le_one hpos, le_refl _⟩
      have hforward : Lib.forwardTime first (first :: times) = Lib.forwardTime first times := by
        rw [Lib.forwardTime, sub_self, max_self, zero_add]
      rw [← (local_answers (freshBucket settings first) (first :: times)).1] at hpays
      have hcount : (Lib.answers (consumeLocal settings) none (first :: times)).countP
          RateLimitReply.admitted = ((Lib.answers (consumeLocal settings)
            (some (freshBucket settings first)) (first :: times)).map
              RateLimitReply.admitted).count true := by
        rw [hstart, List.count, List.countP_map]
        congr 1
        funext reply
        exact (beq_true _).symm
      rw [hcount, forwardSum, mul_comm settings.refillRate]
      have htokens := hwithin.1
      have hcapacity : (freshBucket settings first).tokens = settings.capacity := rfl
      have hupdated : (freshBucket settings first).updatedAt = first := rfl
      rw [hcapacity, hupdated, hforward] at hpays
      linarith

/-- Every bucket of the process is within its bounds. -/
theorem localStore_within (requests : List RateLimitRequest) (key : String)
    {bucket : LocalBucket} (h : localStore settings sha256 requests key = some bucket) :
    bucket.Within (settings.capacity : ℚ) := by
  have hstore : ∀ other bucket, localStore settings sha256 requests other = some bucket →
      bucket.Within (settings.capacity : ℚ) := by
    unfold localStore
    apply @Lib.after_preserves _ _ _ _ fun store : String → Option LocalBucket =>
      ∀ other bucket, store other = some bucket → bucket.Within (settings.capacity : ℚ)
    · intro store label hstore other bucket hbucket
      obtain ⟨asked, now⟩ := label
      by_cases hother : asked = other
      · subst hother
        rw [Lib.keyed_self] at hbucket
        have ⟨stored, hstored, _, hwithin⟩ := @consumeLocal_stored settings (store asked) now
        rw [hstored] at hbucket
        cases hbucket
        exact hwithin (hstore asked)
      · rw [Lib.keyed_other _ _ hother] at hbucket
        exact hstore other bucket hbucket
    · intro other bucket hbucket
      cases hbucket
  exact hstore key bucket h

/-- The stored tokens stay between none and the capacity, and a key whose timestamps credit no time
twice is admitted no more than its budget. -/
theorem local_budget (requests : List RateLimitRequest) (key : String) :
    (∀ bucket, localStore settings sha256 requests key = some bucket →
      0 ≤ bucket.tokens ∧ bucket.tokens ≤ settings.capacity) ∧
    (CreditedOnce (timesOf sha256 requests key) →
      (admittedCount settings sha256 requests key : ℚ) ≤
        settings.capacity + settings.refillRate * timeRange (timesOf sha256 requests key)) := by
  constructor
  · intro bucket hbucket
    exact localStore_within settings sha256 requests key hbucket
  · intro hcredited
    apply le_trans (admitted_credit settings sha256 requests key)
    have hgain := mul_le_mul_of_nonneg_left hcredited settings.refillRate_pos.le
    linarith

/-! ## How long a refused request waits -/

/-- A refused request is told to wait until its bucket has a token. -/
theorem limited_wait {stored : Option LocalBucket} {t : ℚ} {response : LimitedResponse}
    (h : (consumeLocal settings stored t).1 = .limited response) :
    ∃ b : LocalBucket, (consumeLocal settings stored t).2 = some b ∧ b.updatedAt = t ∧
      b.tokens < 1 ∧ response.retryAfter = b.wait settings.refillRate := by
  rw [consumeLocal_eq] at h ⊢
  have hupdated : (refilledBucket settings stored t).updatedAt = t := rfl
  unfold settled at h ⊢
  by_cases htoken : (refilledBucket settings stored t).tokens < 1
  · rw [if_pos htoken] at h ⊢
    refine ⟨_, rfl, hupdated, htoken, ?_⟩
    have hwait := Lib.wait_pos settings.refillRate_pos htoken
    have hresponse := RateLimitReply.limited.inj h
    rw [← hresponse]
    show max 1 (max 1 _) = _
    omega
  · rw [if_neg htoken] at h
    cases h

/-- When a bucket that was left alone, but for refused requests, admits the next one. -/
theorem admitted_after_refused (b : LocalBucket) {times : List ℚ} {now : ℚ}
    (hsorted : (b.updatedAt :: (times ++ [now])).Pairwise (· ≤ ·))
    (hrefused : ∀ reply ∈ Lib.answers (consumeLocal settings) (some b) times,
      reply.admitted = false) :
    (consumeLocal settings (Lib.after (consumeLocal settings) (some b) times) now).1.admitted =
        true ↔
      1 ≤ b.tokens + (now - b.updatedAt) * settings.refillRate := by
  have ⟨hanswers, hafter⟩ := @local_answers settings b times
  have ⟨hfirst, hrest⟩ := List.pairwise_cons.mp hsorted
  have ⟨htimes, _, hlast⟩ := List.pairwise_append.mp hrest
  have hstart : (b.updatedAt :: times).Pairwise (· ≤ ·) := by
    apply List.pairwise_cons.mpr
    exact ⟨fun t ht => hfirst t (List.mem_append_left _ ht), htimes⟩
  -- what is refused pays nothing, so the level only moves with the time
  have hlevel := Lib.refused_run_level (b := b) settings.one_le_capacity hstart (by
    intro answer hanswer
    rw [← hanswers] at hanswer
    have ⟨reply, hreply, hsame⟩ := List.mem_map.mp hanswer
    rw [← hsame]
    exact hrefused reply hreply)
  have hnow : (Lib.after (Lib.Bucket.request settings.refillRate (settings.capacity : ℚ)) b
      times).updatedAt ≤ now := by
    apply Lib.after_updatedAt_le
    · exact hfirst now (List.mem_append_right _ List.mem_cons_self)
    · intro t ht
      exact hlast t ht now List.mem_cons_self
  have hadmitted := (settled_request settings (Lib.after
    (Lib.Bucket.request settings.refillRate (settings.capacity : ℚ)) b times) now).1
  rw [hafter, consumeLocal_eq]
  refine (Bool.eq_iff_iff.mp hadmitted).trans ?_
  rw [Lib.admitted_iff settings.one_le_capacity hnow, hlevel]
  have hgain : b.level settings.refillRate + now * settings.refillRate =
      b.tokens + (now - b.updatedAt) * settings.refillRate := by
    unfold Lib.Bucket.level
    ring
  rw [hgain]

/-- A request that is refused at a time, and then left alone but for refused ones, is admitted after
its `Retry-After`, and not a second earlier. -/
theorem retry_after_exact (limits : String → Option LocalBucket) (key : String) (t : ℚ)
    (response : LimitedResponse)
    (hlimited : (consumeLocal settings (limits key) t).1 = .limited response)
    (between : List (String × ℚ))
    (hrefused : ∀ reply ∈ Lib.ofKey key (Lib.answers (Lib.keyed (consumeLocal settings))
      (Lib.keyed (consumeLocal settings) limits (key, t)).2 between), reply.admitted = false) :
    let stored := Lib.after (Lib.keyed (consumeLocal settings))
      (Lib.keyed (consumeLocal settings) limits (key, t)).2 between key
    ((t :: (Lib.ofKey key between ++ [t + response.retryAfter])).Pairwise (· ≤ ·) →
      (consumeLocal settings stored (t + response.retryAfter)).1.admitted = true) ∧
    (1 < response.retryAfter →
      (t :: (Lib.ofKey key between ++ [t + response.retryAfter - 1])).Pairwise (· ≤ ·) →
        (consumeLocal settings stored (t + response.retryAfter - 1)).1.admitted = false) := by
  intro stored
  have ⟨b, hb, hupdated, _, hwait⟩ := limited_wait settings hlimited
  rw [Lib.answers_keyed, Lib.keyed_self, hb] at hrefused
  have hstored : stored = Lib.after (consumeLocal settings) (some b) (Lib.ofKey key between) := by
    show Lib.after (Lib.keyed (consumeLocal settings)) _ between key = _
    rw [Lib.after_keyed, Lib.keyed_self, hb]
  rw [hstored, hwait]
  constructor
  · intro hsorted
    rw [← hupdated] at hsorted
    have hadmitted := admitted_after_refused settings b hsorted hrefused
    rw [hupdated] at hadmitted
    rw [hadmitted, add_sub_cancel_left]
    exact Lib.wait_enough settings.refillRate_pos
  · intro _ hsorted
    rw [← hupdated] at hsorted
    have hadmitted := admitted_after_refused settings b hsorted hrefused
    rw [hupdated] at hadmitted
    have helapsed : t + (b.wait settings.refillRate : ℚ) - 1 - t =
        b.wait settings.refillRate - 1 := by ring
    rw [← Bool.not_eq_true, hadmitted, helapsed, not_le]
    -- a second less is not enough
    exact Lib.wait_least settings.refillRate_pos

end Runs

/-! ## One token a second -/

theorem sixtyAMinute_range : (1 : Int) ≤ 60 ∧ (60 : Int) ≤ 1000000 := by decide

theorem oneAMinute_range : (1 : Int) ≤ 1 ∧ (1 : Int) ≤ 1000000 := by decide

theorem oneMinute_range : (1 : Int) ≤ 60 ∧ (60 : Int) ≤ 3600 := by decide

theorem burstOfOne_range (burst : Int) (h : some 1 = some burst) : 1 ≤ burst ∧ burst ≤ 1000000 := by
  cases h
  decide

theorem noBurst_range (burst : Int) (h : none = some burst) : 1 ≤ burst ∧ burst ≤ 1000000 := by
  cases h

/-- One request a second, and no burst. -/
def oneASecond : RateLimitSettings where
  rateLimitPerMinute := 60
  rateLimitBurst := some 1
  rateLimitWindowSeconds := 60
  perMinute_range := sixtyAMinute_range
  burst_range := burstOfOne_range
  window_range := oneMinute_range

/-- Requests with one API key. -/
def requestsAt (times : List ℚ) : List RateLimitRequest :=
  times.map fun now => ⟨some "key", none, none, now⟩

/-- A key is lost as soon as its `ttl` is over. -/
def promptExpiry (ttl : Int) : Expiry ttl where
  gone elapsed := decide (ttl ≤ elapsed)
  not_before _ h := of_decide_eq_true h

theorem two_seconds_budget :
    CreditedOnce (timesOf id (requestsAt [0, 1, 1, 2]) "rl:tb:key") ∧
    (admittedCount oneASecond id (requestsAt [0, 1, 1, 2]) "rl:tb:key" : ℚ) ≤
      oneASecond.capacity + oneASecond.refillRate *
        timeRange (timesOf id (requestsAt [0, 1, 1, 2]) "rl:tb:key") := by
  have hcredited : CreditedOnce (timesOf id (requestsAt [0, 1, 1, 2]) "rl:tb:key") := by
    unfold CreditedOnce
    decide +kernel
  exact ⟨hcredited, (local_budget oneASecond id _ _).2 hcredited⟩

/-- Two clocks a second apart: every step forward credits the same second again. -/
theorem second_credited_twice :
    admittedCount oneASecond id (requestsAt [1, 0, 1, 0, 1]) "rl:tb:key" = 3 ∧
    ¬ (admittedCount oneASecond id (requestsAt [1, 0, 1, 0, 1]) "rl:tb:key" : ℚ) ≤
      oneASecond.capacity + oneASecond.refillRate *
        timeRange (timesOf id (requestsAt [1, 0, 1, 0, 1]) "rl:tb:key") := by
  have hcount : admittedCount oneASecond id (requestsAt [1, 0, 1, 0, 1]) "rl:tb:key" = 3 := by
    decide +kernel
  refine ⟨hcount, ?_⟩
  rw [hcount]
  decide +kernel

theorem minute_later_same :
    localReplies oneASecond id (requestsAt [0, 0, 60, 180]) =
      redisReplies oneASecond id (promptExpiry _) (requestsAt [0, 0, 60, 180]) := by
  apply redis_local_same
  intro key
  by_cases hkey : "rl:tb:key" = key
  · subst hkey
    decide +kernel
  · have hnone : timesOf id (requestsAt [0, 0, 60, 180]) key = [] := by
      unfold timesOf requestsAt
      simp only [List.map_cons, List.map_nil]
      exact (Lib.ofKey_cons_other hkey _ _).trans ((Lib.ofKey_cons_other hkey _ _).trans
        ((Lib.ofKey_cons_other hkey _ _).trans (Lib.ofKey_cons_other hkey _ _)))
    rw [hnone]
    exact List.Pairwise.nil

/-- One request a minute. -/
def oneAMinute : RateLimitSettings where
  rateLimitPerMinute := 1
  rateLimitBurst := none
  rateLimitWindowSeconds := 60
  perMinute_range := oneAMinute_range
  burst_range := noBurst_range
  window_range := oneMinute_range

/-- An empty bucket, asked at 0 and at 30. -/
def askedTwice : Option LocalBucket :=
  Lib.after (Lib.keyed (consumeLocal oneAMinute))
    (Lib.keyed (consumeLocal oneAMinute) (fun _ => some ⟨0, 0⟩) ("rl:tb:key", 0)).2
    [("rl:tb:key", 30)] "rl:tb:key"

theorem minute_wait :
    (consumeLocal oneAMinute (some ⟨0, 0⟩) 0).1 = .limited ⟨1, 60⟩ ∧
    (consumeLocal oneAMinute askedTwice (0 + (60 : Int))).1.admitted = true ∧
    (consumeLocal oneAMinute askedTwice (0 + (60 : Int) - 1)).1.admitted = false := by
  have hlimited : (consumeLocal oneAMinute (some ⟨0, 0⟩) 0).1 = .limited ⟨1, 60⟩ := by
    decide +kernel
  have hrefused : ∀ reply ∈ Lib.ofKey "rl:tb:key" (Lib.answers
      (Lib.keyed (consumeLocal oneAMinute)) (Lib.keyed (consumeLocal oneAMinute)
        (fun _ => some ⟨0, 0⟩) ("rl:tb:key", 0)).2 [("rl:tb:key", 30)]),
      reply.admitted = false := by
    decide +kernel
  have hexact := retry_after_exact oneAMinute (fun _ => some ⟨0, 0⟩) "rl:tb:key" 0 ⟨1, 60⟩
    hlimited [("rl:tb:key", 30)] hrefused
  refine ⟨hlimited, hexact.1 (by decide +kernel), ?_⟩
  exact hexact.2 (by decide) (by decide +kernel)

end KeyNetra
