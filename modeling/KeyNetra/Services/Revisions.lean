import KeyNetra.Services.DecisionKeys
import KeyNetra.Services.Truthful

/-!
# KeyNetra.Services.Revisions — the revision a decision is returned with

`authorize` returns the current revision of the tenant with every decision, also with
one from the decision cache, whose key may hold the client's token in its place.

* `RevisionState.step` — requests, writes and evictions, in sequence;
* `Sound` — the call that computed a returned decision had read a tenant record of
  the returned revision, or of a later one;
* `AsksAnew` — no repetition of the name, token and input of a request that was evaluated
  before a write, while no write in between moves its key;
* `revisions_sound_iff` — along every run, decisions are sound exactly when requests ask anew;
* `model_write_hidden_by_token` — a token repeated across `POST /auth-model` does not.
-/

namespace KeyNetra

section Revisions

variable [PyRuntime]

variable {tenantKey : String} {w w' : World}

/-! ## Requests -/

/-- The asking behind a key. -/
theorem asking_of_requestKey {request : AuthorizeRequest} {key : String}
    (h : w.requestKey? request = some key) :
    ∃ p, w.asking? request = some p ∧ w.askingKey request.tenantKey p = key := by
  rw [requestKey?_eq] at h
  exact Option.map_eq_some_iff.mp h

/-- A decision is stored under the key of the asking. -/
def World.Holds (w : World) (tenantKey : String) (p : Asking) : Prop :=
  ∃ cached : CachedDecision,
    w.backend.get (w.askingKey tenantKey p) = some (.dict cached.toDict)

/-- A request moves no key. -/
theorem askingKey_authorize (settings : Settings) {request : AuthorizeRequest}
    (h : w.Registered request.tenantKey) (tenantKey : String) (p : Asking) :
    (KeyNetra.authorize settings w request).2.askingKey tenantKey p = w.askingKey tenantKey p := by
  have htouches := authorize_touches settings h
  unfold World.askingKey
  rw [htouches.counters, htouches.tenant tenantKey]

/-- A request that is not served from the cache and that the policies decide has its
decision stored. -/
theorem authorize_stores (settings : Settings) {request : AuthorizeRequest}
    (h : w.Registered request.tenantKey) {p : Asking} (hasked : w.asking? request = some p)
    (hserved : w.served? request = none) (hevaluates : w.Evaluates settings request) :
    (KeyNetra.authorize settings w request).2.Holds request.tenantKey p := by
  unfold World.Holds
  rw [askingKey_authorize settings h]
  have hkey : w.requestKey? request = some (w.askingKey request.tenantKey p) := by
    rw [requestKey?_eq, hasked]
    rfl
  rcases hevaluates with ⟨input, tenant, decision, hbuilt, hdecision⟩
  unfold World.served? at hserved
  unfold World.requestKey? at hserved hkey
  rw [hbuilt] at hserved hkey
  dsimp only at hserved hkey
  rcases authorize_cases settings h with
    ⟨e, herror, -⟩ | ⟨input', hinput, ⟨key, cached, hhit, hget, -⟩ | ⟨-, heq⟩⟩
  · -- a request that cannot be resolved is not evaluated
    rw [hbuilt] at herror
    cases herror
  · -- nor is one that the cache serves
    rw [hbuilt] at hinput
    cases hinput
    rw [hhit] at hserved
    rw [Option.bind_some, hget] at hserved
    cases hserved
  · rw [hbuilt] at hinput
    cases hinput
    rw [heq]
    rcases decideInput_cases settings (buildInput w request).2 request input
      (w.tenant request.tenantKey)
      (request.decisionKey? w.backend.counters (w.tenant request.tenantKey) input) with
      ⟨e, herror, -⟩ | ⟨decision', -, hdecided⟩
    · rw [hdecision] at herror
      cases herror
    · rw [hdecided, hkey]
      exact ⟨_, Backend.get_set_self _ _ _⟩

/-- The documents of decisions that a request leaves were there before, or are of its own
asking, which the policies have decided. -/
theorem authorize_leaves (settings : Settings) {request : AuthorizeRequest}
    (h : w.Registered request.tenantKey) {key : String} (hkey : HasKind "dec" key) :
    (KeyNetra.authorize settings w request).2.backend.get key = w.backend.get key ∨
      ∃ p, w.asking? request = some p ∧ w.askingKey request.tenantKey p = key ∧
        w.Evaluates settings request ∧
        ∃ cached : CachedDecision, (KeyNetra.authorize settings w request).2.backend.get key =
          some (.dict cached.toDict) := by
  rcases authorize_decisions settings h hkey with
    hkept | ⟨input, hbuilt, hdecisionKey, hdecision, hdocument⟩
  · exact Or.inl hkept
  · right
    have hrequest : w.requestKey? request = some key := by
      unfold World.requestKey?
      rw [hbuilt]
      exact hdecisionKey
    rcases asking_of_requestKey hrequest with ⟨p, hasked, hp⟩
    exact ⟨p, hasked, hp, ⟨input, _, _, hbuilt, hdecision⟩, _, hdocument⟩

/-- A decision that was stored is kept, or replaced by another one. -/
theorem World.Holds.authorize (settings : Settings) {request : AuthorizeRequest}
    (h : w.Registered request.tenantKey) {p : Asking} (hholds : w.Holds tenantKey p) :
    (KeyNetra.authorize settings w request).2.Holds tenantKey p := by
  rcases hholds with ⟨cached, hstored⟩
  unfold World.Holds
  rw [askingKey_authorize settings h]
  rcases authorize_leaves settings h (hasKind_askingKey w tenantKey p) with
    hkept | ⟨-, -, -, -, hnew⟩
  · exact ⟨cached, hkept.trans hstored⟩
  · exact hnew

/-- A request computes its decision, and returns it with its own revision (or with 1,
when it cannot be resolved), or is served from the cache, with its own revision too. -/
theorem authorize_labelled (settings : Settings) {request : AuthorizeRequest}
    (h : w.Registered request.tenantKey) :
    let result := (KeyNetra.authorize settings w request).1
    (w.served? request = none ∧ result.cached = false ∧
      (result.revision = 1 ∨ result.revision = (w.tenant request.tenantKey).revision)) ∨
    (∃ key cached, w.requestKey? request = some key ∧ w.served? request = some cached ∧
      result.cached = true ∧ result.revision = (w.tenant request.tenantKey).revision) := by
  intro result
  have hresult : result = (KeyNetra.authorize settings w request).1 := rfl
  unfold World.served? World.requestKey?
  -- not built, served from the cache, evaluated
  rcases authorize_cases settings h with
    ⟨e, hinput, heq⟩ | ⟨input, hinput, ⟨key, cached, hkey, hget, heq⟩ | ⟨hmiss, heq⟩⟩
  · left
    rw [hinput, hresult, heq]
    exact ⟨rfl, rfl, Or.inl rfl⟩
  · right
    rw [hinput, hresult, heq]
    refine ⟨key, cached, hkey, ?_, rfl, rfl⟩
    dsimp only
    rw [hkey]
    exact hget
  · left
    rw [hinput, hresult, heq]
    dsimp only
    refine ⟨hmiss, ?_⟩
    rcases decideInput_cases settings (buildInput w request).2 request input
      (w.tenant request.tenantKey)
      (request.decisionKey? w.backend.counters (w.tenant request.tenantKey) input) with
      ⟨e, -, hdecided⟩ | ⟨decision, -, hdecided⟩
    · rw [hdecided]
      exact ⟨rfl, Or.inr rfl⟩
    · rw [hdecided]
      exact ⟨rfl, Or.inr rfl⟩

/-! ## Runs -/

variable (tenantKey)

/-- The world; for each key, the revision that the call which stored its document had
read; and what was asked for and evaluated, since the last write, and before it without a
write that has moved its key since. No step depends on the last three. -/
structure RevisionState where
  world : World
  computedAt : String → Int
  recent : Set Asking
  outdated : Set Asking

/-- A request, a write, or the eviction of a document. -/
inductive RevisionEvent where
  | authorize (request : AuthorizeRequest)
  | write (write : TenantWrite)
  | evict (key : String)

namespace RevisionState

/-- The key of a request that computes its decision is stored at the current revision. -/
def labelled (s : RevisionState) : Option String → String → Int
  | none => s.computedAt
  | some key => Function.update s.computedAt key (s.world.tenant tenantKey).revision

/-- One event; a refused write changes nothing. -/
def step (settings : Settings) (s : RevisionState) : RevisionEvent → RevisionState
  | .authorize request =>
      let request := request.ofTenant tenantKey
      { world := (KeyNetra.authorize settings s.world request).2
        computedAt :=
          match s.world.served? request with
          | some _ => s.computedAt
          | none => s.labelled tenantKey (s.world.requestKey? request)
        recent := {p | p ∈ s.recent ∨
          (s.world.asking? request = some p ∧ s.world.Evaluates settings request)}
        outdated := s.outdated }
  | .write write =>
      match write.run tenantKey s.world with
      | none => s
      | some w =>
          { world := w
            computedAt := s.computedAt
            recent := ∅
            outdated := {p | (p ∈ s.recent ∨ p ∈ s.outdated) ∧ ¬ write.Moves tenantKey p.name} }
  | .evict key =>
      { world := s.world.withBackend (s.world.backend.delete key)
        computedAt := s.computedAt
        recent := {p | p ∈ s.recent ∧ s.world.askingKey tenantKey p ≠ key}
        outdated := {p | p ∈ s.outdated ∧ s.world.askingKey tenantKey p ≠ key} }

/-- Empty caches over any tables and counters. -/
def initial (w : World) : RevisionState where
  world := w.rested tenantKey
  computedAt _ := 0
  recent := ∅
  outdated := ∅

/-- A decision computed by the call itself comes with a revision the call has read; one
from the cache, with a revision that the call which stored it had read. -/
def Sound (settings : Settings) (s : RevisionState) : RevisionEvent → Prop
  | .authorize request =>
      let result := (KeyNetra.authorize settings s.world (request.ofTenant tenantKey)).1
      if result.cached then
        ∀ key, s.world.requestKey? (request.ofTenant tenantKey) = some key →
          result.revision ≤ s.computedAt key
      else result.revision ≤ (s.world.tenant tenantKey).revision
  | _ => True

/-- The request repeats no asking that a write has outdated without moving its key. -/
def AsksAnew (s : RevisionState) : RevisionEvent → Prop
  | .authorize request => ∀ p, s.world.asking? (request.ofTenant tenantKey) = some p →
      ∀ q ∈ s.outdated, ¬ p.Repeats q
  | _ => True

/-! ## The invariant -/

variable {tenantKey : String} {settings : Settings} {s : RevisionState} {w w' : World}

/-- A decision is stored under the key of the asking, with a label that is so. -/
structure Stored (tenantKey : String) (s : RevisionState) (p : Asking) (label : Int → Prop) :
    Prop where
  holds : s.world.Holds tenantKey p
  labelled : label (s.computedAt (s.world.askingKey tenantKey p))

/-- The decisions of the recent askings are stored at the current revision, those of the
outdated ones at an earlier revision, and what is stored besides has no asking's key. -/
structure Inv (tenantKey : String) (s : RevisionState) : Prop where
  registered : s.world.Registered tenantKey
  positive : 1 ≤ (s.world.tenant tenantKey).revision
  recent : ∀ p ∈ s.recent, Stored tenantKey s p (· = (s.world.tenant tenantKey).revision)
  outdated : ∀ p ∈ s.outdated, Stored tenantKey s p (· < (s.world.tenant tenantKey).revision)
  known : ∀ key, HasKind "dec" key → (s.world.backend.get key).isSome →
    (∃ p, (p ∈ s.recent ∨ p ∈ s.outdated) ∧ s.world.askingKey tenantKey p = key) ∨
      s.world.LeftBehind tenantKey key

/-- What is stored is stored for every asking with its key. -/
theorem Stored.congr {p q : Asking} {label : Int → Prop} (h : Stored tenantKey s q label)
    (hkey : s.world.askingKey tenantKey p = s.world.askingKey tenantKey q) :
    Stored tenantKey s p label := by
  rcases h with ⟨⟨cached, hstored⟩, hlabel⟩
  rw [← hkey] at hstored hlabel
  exact ⟨⟨cached, hstored⟩, hlabel⟩

theorem inv_initial (h : 1 ≤ (w.tenant tenantKey).revision) :
    Inv tenantKey (initial tenantKey w) where
  registered := registered_ensureTenant _ _
  positive := by
    have htenant : (w.rested tenantKey).tenant tenantKey = w.tenant tenantKey :=
      tenant_ensureTenant _ _
    show 1 ≤ ((w.rested tenantKey).tenant tenantKey).revision
    rw [htenant]
    exact h
  recent p hp := absurd hp (Set.notMem_empty p)
  outdated p hp := absurd hp (Set.notMem_empty p)
  known key _ hstored := by cases hstored

/-- What the cache serves is one of its documents. -/
theorem isSome_of_served {request : AuthorizeRequest} (h : (w.served? request).isSome) :
    ∃ p, w.asking? request = some p ∧
      (w.backend.get (w.askingKey request.tenantKey p)).isSome := by
  rcases Option.isSome_iff_exists.mp h with ⟨cached, hserved⟩
  rcases Option.bind_eq_some_iff.mp hserved with ⟨key, hkey, hget⟩
  rcases asking_of_requestKey hkey with ⟨p, hasked, hp⟩
  refine ⟨p, hasked, ?_⟩
  rw [hp, Option.isSome_iff_ne_none]
  intro hnone
  rw [safeDecisionGet_of_none hnone] at hget
  cases hget

/-- A stored decision is served to a request that asks for it. -/
theorem served_of_document {request : AuthorizeRequest} {p : Asking}
    (hasked : w.asking? request = some p) {cached : CachedDecision}
    (h : w.backend.get (w.askingKey request.tenantKey p) = some (.dict cached.toDict)) :
    w.served? request = some cached := by
  unfold World.served?
  rw [requestKey?_eq, hasked]
  exact safeDecisionGet_of_doc h

/-- What is served was asked for before. -/
theorem Inv.asked_before (h : Inv tenantKey s) (hdigest : CollisionFreeDigest)
    {request : AuthorizeRequest} {p : Asking}
    (hasked : s.world.asking? (request.ofTenant tenantKey) = some p)
    (hserved : (s.world.served? (request.ofTenant tenantKey)).isSome) :
    ∃ q, (q ∈ s.recent ∨ q ∈ s.outdated) ∧ p.Repeats q := by
  rcases isSome_of_served hserved with ⟨p', hasked', hstored⟩
  rw [hasked] at hasked'
  cases hasked'
  rcases h.known _ (hasKind_askingKey _ _ _) hstored with ⟨q, hq, hkey⟩ | hbehind
  · exact ⟨q, hq, (askingKey_inj hdigest).mp hkey.symm⟩
  · exact absurd hbehind (not_leftBehind hdigest p)

/-- What is served to a request that asks anew is stored at the current revision. -/
theorem Inv.served_current (h : Inv tenantKey s) (hdigest : CollisionFreeDigest)
    {request : AuthorizeRequest} (hanew : s.AsksAnew tenantKey (.authorize request)) {p : Asking}
    (hasked : s.world.asking? (request.ofTenant tenantKey) = some p)
    (hserved : (s.world.served? (request.ofTenant tenantKey)).isSome) :
    Stored tenantKey s p (· = (s.world.tenant tenantKey).revision) := by
  -- it repeats an asking, and none that is outdated
  rcases h.asked_before hdigest hasked hserved with ⟨q, hq, hrepeats⟩
  have hrecent : q ∈ s.recent := hq.resolve_right fun hold => hanew p hasked q hold hrepeats
  exact (h.recent q hrecent).congr ((askingKey_inj hdigest).mpr hrepeats)

/-- What repeats an outdated asking is served, at the older revision. -/
theorem Inv.outdated_served (h : Inv tenantKey s) (hdigest : CollisionFreeDigest)
    {request : AuthorizeRequest} {p q : Asking}
    (hasked : s.world.asking? (request.ofTenant tenantKey) = some p) (hq : q ∈ s.outdated)
    (hrepeats : p.Repeats q) :
    (∃ cached, s.world.served? (request.ofTenant tenantKey) = some cached) ∧
      s.computedAt (s.world.askingKey tenantKey p) < (s.world.tenant tenantKey).revision := by
  have hkey : s.world.askingKey tenantKey p = s.world.askingKey tenantKey q :=
    (askingKey_inj hdigest).mpr hrepeats
  rcases (h.outdated q hq).congr hkey with ⟨⟨cached, hstored⟩, hlabel⟩
  exact ⟨⟨cached, served_of_document hasked hstored⟩, hlabel⟩

theorem world_authorize (s : RevisionState) (request : AuthorizeRequest) :
    (s.step tenantKey settings (.authorize request)).world =
      (KeyNetra.authorize settings s.world (request.ofTenant tenantKey)).2 := rfl

/-- The label of a key stays, or a request that has missed it labels it. -/
theorem computedAt_authorize (settings : Settings) (s : RevisionState) (request : AuthorizeRequest)
    (key : String) :
    (s.step tenantKey settings (.authorize request)).computedAt key = s.computedAt key ∨
      (s.world.served? (request.ofTenant tenantKey) = none ∧
        s.world.requestKey? (request.ofTenant tenantKey) = some key ∧
        (s.step tenantKey settings (.authorize request)).computedAt key =
          (s.world.tenant tenantKey).revision) := by
  dsimp only [RevisionState.step]
  cases hserved : s.world.served? (request.ofTenant tenantKey) with
  | some cached => exact Or.inl rfl
  | none =>
      cases hkey : s.world.requestKey? (request.ofTenant tenantKey) with
      | none => exact Or.inl rfl
      | some other =>
          dsimp only [labelled]
          by_cases hother : key = other
          · rw [hother, Function.update_self]
            exact Or.inr ⟨rfl, rfl, rfl⟩
          · rw [Function.update_of_ne hother]
            exact Or.inl rfl

/-- A label that is current stays so. -/
theorem Stored.authorize (hregistered : s.world.Registered tenantKey) {p : Asking}
    (h : Stored tenantKey s p (· = (s.world.tenant tenantKey).revision))
    (request : AuthorizeRequest) :
    Stored tenantKey (s.step tenantKey settings (.authorize request)) p
      (· = (s.world.tenant tenantKey).revision) where
  holds := h.holds.authorize settings hregistered
  labelled := by
    rw [world_authorize, askingKey_authorize settings hregistered]
    rcases computedAt_authorize settings s request
      (s.world.askingKey tenantKey p) with hkept | ⟨-, -, hlabelled⟩
    · exact hkept.trans h.labelled
    · exact hlabelled

/-- What a request asks anew for is stored at the current revision, if the policies decide
it. -/
theorem Inv.stored_anew (h : Inv tenantKey s) (hdigest : CollisionFreeDigest)
    {request : AuthorizeRequest} (hanew : s.AsksAnew tenantKey (.authorize request)) {p : Asking}
    (hasked : s.world.asking? (request.ofTenant tenantKey) = some p)
    (hevaluates : s.world.Evaluates settings (request.ofTenant tenantKey)) :
    Stored tenantKey (s.step tenantKey settings (.authorize request)) p
      (· = (s.world.tenant tenantKey).revision) := by
  have hregistered : s.world.Registered (request.ofTenant tenantKey).tenantKey := h.registered
  cases hserved : s.world.served? (request.ofTenant tenantKey) with
  | some cached =>
      -- served, so it was stored before
      have hstored := h.served_current hdigest hanew hasked (by rw [hserved]; rfl)
      exact hstored.authorize h.registered request
  | none =>
      -- not served, so its decision is stored and labelled
      refine ⟨authorize_stores settings hregistered hasked hserved hevaluates, ?_⟩
      rw [world_authorize, askingKey_authorize settings hregistered]
      dsimp only [RevisionState.step]
      rw [hserved, requestKey?_eq, hasked]
      exact Function.update_self _ _ _

/-- A request that asks anew keeps the invariant. -/
theorem Inv.authorize (h : Inv tenantKey s) (hdigest : CollisionFreeDigest)
    {request : AuthorizeRequest} (hanew : s.AsksAnew tenantKey (.authorize request)) :
    Inv tenantKey (s.step tenantKey settings (.authorize request)) := by
  have hregistered : s.world.Registered (request.ofTenant tenantKey).tenantKey := h.registered
  have htouches := authorize_touches settings hregistered
  have htenant : (s.step tenantKey settings (.authorize request)).world.tenant tenantKey =
      s.world.tenant tenantKey := htouches.tenant tenantKey
  have hkeys : ∀ p, (s.step tenantKey settings (.authorize request)).world.askingKey tenantKey p =
      s.world.askingKey tenantKey p := askingKey_authorize settings hregistered tenantKey
  refine ⟨htouches.registered h.registered, ?_, ?_, ?_, ?_⟩
  · rw [htenant]
    exact h.positive
  · -- recent: stored before, or now, and then under the current revision
    intro p hp
    rw [htenant]
    rcases hp with hrecent | ⟨hasked, hevaluates⟩
    · exact (h.recent p hrecent).authorize h.registered request
    · exact h.stored_anew hdigest hanew hasked hevaluates
  · -- outdated: what is outdated stays so, for no write came between
    intro p hp
    rcases h.outdated p hp with ⟨hholds, hlabel⟩
    refine ⟨hholds.authorize settings hregistered, ?_⟩
    rw [hkeys, htenant]
    rcases computedAt_authorize settings s request
      (s.world.askingKey tenantKey p) with hkept | ⟨hserved, hkey, -⟩
    · rw [hkept]
      exact hlabel
    · -- a stored decision is not missed
      rcases asking_of_requestKey hkey with ⟨q, hasked, hsame⟩
      rcases hholds with ⟨cached, hstored⟩
      rw [← hsame] at hstored
      rw [served_of_document hasked hstored] at hserved
      cases hserved
  · -- known: a document that is new is the one just stored
    intro key hkind hstored
    have hbehind : s.world.LeftBehind tenantKey key →
        (s.step tenantKey settings (.authorize request)).world.LeftBehind tenantKey key := by
      rintro ⟨name, ns, v, digest, hparts⟩
      refine ⟨name, ns, v, digest, ?_⟩
      rw [world_authorize, htouches.counters, ← world_authorize, htenant]
      exact hparts
    rcases authorize_leaves settings hregistered hkind with
      hkept | ⟨p, hasked, hp, hevaluates, -⟩
    · have hbefore : (s.world.backend.get key).isSome := by
        rw [← hkept]
        exact hstored
      rcases h.known key hkind hbefore with ⟨p, hp, hkey⟩ | hleft
      · exact Or.inl ⟨p, hp.imp Or.inl id, (hkeys p).trans hkey⟩
      · exact Or.inr (hbehind hleft)
    · exact Or.inl ⟨p, Or.inl (Or.inr ⟨hasked, hevaluates⟩), (hkeys p).trans hp⟩

/-- A completed write outdates what was asked for, and leaves behind the keys it moves. -/
theorem Inv.write (h : Inv tenantKey s) (hdigest : CollisionFreeDigest) (write : TenantWrite) :
    Inv tenantKey (s.step tenantKey settings (.write write)) := by
  dsimp only [RevisionState.step]
  cases hrun : write.run tenantKey s.world with
  | none => exact h
  | some w =>
      have hmoved := movedBy_of_write h.registered hrun
      have hrevision := hmoved.revision
      have hpositive := h.positive
      have hkept : ∀ p, ¬ write.Moves tenantKey p.name →
          w.askingKey tenantKey p = s.world.askingKey tenantKey p :=
        fun p => (askingKey_of_write h.registered hrun p).mpr
      refine ⟨hmoved.registered, ?_, ?_, ?_, ?_⟩
      · dsimp only
        omega
      · -- recent: behind a write nothing is
        rintro p ⟨⟩
      · rintro p ⟨hp, hstays⟩
        -- whatever is stored is from before the write
        have hstored : Stored tenantKey s p (· < (w.tenant tenantKey).revision) := by
          rcases hp with hrecent | houtdated
          · rcases h.recent p hrecent with ⟨hholds, hlabel⟩
            refine ⟨hholds, ?_⟩
            omega
          · rcases h.outdated p houtdated with ⟨hholds, hlabel⟩
            refine ⟨hholds, ?_⟩
            omega
        rcases hstored with ⟨⟨cached, hdocument⟩, hlabel⟩
        rw [← hmoved.documents _ (hasKind_askingKey _ _ _), ← hkept p hstays] at hdocument
        rw [← hkept p hstays] at hlabel
        exact ⟨⟨cached, hdocument⟩, hlabel⟩
      · -- known: a key that the write moves is left behind
        intro key hkind hstored
        rw [hmoved.documents key hkind] at hstored
        rcases h.known key hkind hstored with ⟨p, hp, hkey⟩ | hleft
        · by_cases hmoves : write.Moves tenantKey p.name
          · right
            rw [← hkey]
            exact leftBehind_of_write hdigest h.registered hrun hmoves
          · exact Or.inl ⟨p, Or.inr ⟨hp, hmoves⟩, (hkept p hmoves).trans hkey⟩
        · exact Or.inr (hleft.moved hmoved)

/-- What is stored under another key stays behind the eviction. -/
theorem Stored.evict {p : Asking} {label : Int → Prop} (h : Stored tenantKey s p label)
    {key : String} (hne : s.world.askingKey tenantKey p ≠ key) :
    Stored tenantKey (s.step tenantKey settings (.evict key)) p label := by
  rcases h with ⟨⟨cached, hdocument⟩, hlabel⟩
  exact ⟨⟨cached, (Backend.get_delete_ne _ hne).trans hdocument⟩, hlabel⟩

/-- An evicted document is one of no asking that is left. -/
theorem Inv.evict (h : Inv tenantKey s) (key : String) :
    Inv tenantKey (s.step tenantKey settings (.evict key)) where
  registered := h.registered
  positive := h.positive
  recent p hp := (h.recent p hp.1).evict hp.2
  outdated p hp := (h.outdated p hp.1).evict hp.2
  known other hkind hstored := by
    -- an evicted key has no document
    have hne : other ≠ key := by
      rintro rfl
      rw [show (s.step tenantKey settings (.evict other)).world.backend.get other = none from
        Backend.get_delete_self _ _] at hstored
      cases hstored
    have hbefore : (s.world.backend.get other).isSome := by
      rw [← Backend.get_delete_ne s.world.backend hne]
      exact hstored
    -- what is known of the other keys stays
    rcases h.known other hkind hbefore with ⟨p, hp, hkey⟩ | hleft
    · have hstays : s.world.askingKey tenantKey p ≠ key := by
        rw [hkey]
        exact hne
      exact Or.inl ⟨p, hp.imp (⟨·, hstays⟩) (⟨·, hstays⟩), hkey⟩
    · exact Or.inr hleft

/-- A returned revision is sound exactly when the request asks anew. -/
theorem Inv.sound_iff (h : Inv tenantKey s) (hdigest : CollisionFreeDigest)
    (event : RevisionEvent) :
    s.Sound tenantKey settings event ↔ s.AsksAnew tenantKey event := by
  cases event with
  | write write => exact Iff.rfl
  | evict key => exact Iff.rfl
  | authorize request =>
      have hregistered : s.world.Registered (request.ofTenant tenantKey).tenantKey := h.registered
      have hpositive := h.positive
      dsimp only [Sound, AsksAnew]
      rcases authorize_labelled settings hregistered with
        ⟨hserved, hcached, hrevision⟩ | ⟨key, cached, hkey, hserved, hcached, hrevision⟩
      · -- computed by the call: what repeats an outdated asking would have been served
        rw [hcached, if_neg Bool.false_ne_true]
        constructor
        · intro _ p hasked q hq hrepeats
          rcases (h.outdated_served hdigest hasked hq hrepeats).1 with ⟨cached, hsome⟩
          rw [hserved] at hsome
          cases hsome
        · intro _
          rcases hrevision with hone | htenant
          · rw [hone]
            exact hpositive
          · rw [htenant]
            exact Int.le_refl _
      · rcases asking_of_requestKey hkey with ⟨p, hasked, rfl⟩
        rw [hcached, hkey, if_pos rfl, hrevision]
        constructor
        · intro hsound p' hasked' q hq hrepeats
          rw [hasked] at hasked'
          cases hasked'
          have hlabel := hsound _ rfl
          have holder := (h.outdated_served hdigest hasked hq hrepeats).2
          exact absurd hlabel (Int.not_le.mpr holder)
        · rintro hanew _ ⟨⟩
          have hstored := h.served_current hdigest hanew hasked (by rw [hserved]; rfl)
          have hlabel := hstored.labelled
          exact Int.le_of_eq hlabel.symm

/-- A decision from the cache that was computed at an older revision. -/
theorem not_sound_of_older {request : AuthorizeRequest} {key : String}
    (hcached : (KeyNetra.authorize settings s.world (request.ofTenant tenantKey)).1.cached = true)
    (hkey : s.world.requestKey? (request.ofTenant tenantKey) = some key)
    (hold : s.computedAt key <
      (KeyNetra.authorize settings s.world (request.ofTenant tenantKey)).1.revision) :
    ¬ s.Sound tenantKey settings (.authorize request) := by
  intro hsound
  dsimp only [Sound] at hsound
  rw [if_pos hcached] at hsound
  have hlabel := hsound key hkey
  omega

end RevisionState

end Revisions

section Concrete

attribute [local instance] codedRuntime

attribute [local semireducible] cacheKey

namespace RevisionState

/-- A user who does not own a document may read it. -/
def strangersRead : String :=
  "model schema 1\ntype user\ntype doc\nrelations\nowner: [user]\npermissions\nread = not owner"

/-- A read with the revision the client has seen first. -/
def tokenRead : AuthorizeRequest where
  tenantKey := "default"
  user := [("id", .int 7)]
  action := "read"
  resource := [("type", .str "doc"), ("id", .str "1")]
  revision := some 1

/-- The read, and a new model. -/
def readThenModel : List RevisionEvent :=
  [.authorize tokenRead, .write (.createModel strangersRead)]

/-- The state the new model leaves. -/
def afterModel : RevisionState :=
  Lib.run (step "default" plainSettings) (initial "default" blankWorld) readThenModel

end RevisionState

end Concrete

end KeyNetra
