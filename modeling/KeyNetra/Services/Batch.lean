import KeyNetra.Services.Revocation
import KeyNetra.Services.SharedCaches

/-!
# KeyNetra.Services.Batch — many items for one user

`authorize_batch` resolves the tenant, the user and the engine once, and then answers the
items in order: from a memo of the items before, from the decision cache, or by the engine.
Unlike `authorize` it has no answer for an exception in an item, which it lets out.

* `authorizeBatch` — the batch, with the state it carries from item to item;
* `World.itemDecision` — what the tables say of one item, exceptions included;
* `answerItem_spec` / `answerItems_spec` — an item, and all of them in order, are answered
  so, whatever the caches hold, while items that share a memo key are spelled alike;
* `Serves.authorizeBatch` — the batch is answered so, and keeps the caches;
* `BatchRequest.Unbroken` — no item raises;
* `batch_eq_singles_iff` — after any earlier calls a batch answers as the single calls,
  one result an item, exactly when no item raises.

Left out are the limits of the interpreter: the depth of its recursion, in `json.dumps` and in
the engine, and the digits of an integer that it writes out.
-/

namespace KeyNetra

section Batch

variable [PyRuntime]

/-! ## The batch -/

/-- An item, as the route's schema gives it. -/
structure BatchItem where
  action : String
  resource : Dict

/-- The arguments of `authorize_batch`. -/
structure BatchRequest where
  tenantKey : String
  user : Dict
  items : List BatchItem
  context : Dict := []
  consistency : String := "eventual"
  revision : Option Int := none
  policySet : String := "active"

/-- One item alone. -/
def BatchRequest.single (batch : BatchRequest) (item : BatchItem) : AuthorizeRequest where
  tenantKey := batch.tenantKey
  user := batch.user
  action := item.action
  resource := item.resource
  context := batch.context
  consistency := batch.consistency
  revision := batch.revision
  policySet := batch.policySet

/-- The items alone. -/
def BatchRequest.singles (batch : BatchRequest) : Set AuthorizeRequest :=
  {r | ∃ item ∈ batch.items, r = batch.single item}

/-- An answered item: the action and the canonical texts of resource and context that it
is found by, and its decision. -/
structure AnsweredItem where
  action : String
  resource : Value
  context : Value
  decision : AuthorizationDecision
  cached : Bool

/-- What the loop over the items carries along: the world, the memo of the service's
indexer, and the answered items. -/
structure BatchState where
  world : World
  indexed : Memo
  answered : List AnsweredItem

/-- `memoized_results.get(memo_key)`. -/
def BatchState.answered? (s : BatchState) (action : String) (resource context : Value) :
    Option AnsweredItem :=
  s.answered.find? fun a =>
    a.action = action && a.resource.same resource && a.context.same context

/-- The index entries of a resource, through the indexer's memo. -/
def memoIndex (w : World) (memo : Memo) (l : Lookup) :
    Except PyError (List AccessIndexEntry) × World × Memo :=
  if l.Identified then
    let (entries, b, memo) := buildResourceIndex w.db.acl w.db.relationships w.backend memo l
    (entries, w.withBackend b, memo)
  else (.ok [], w, memo)

/-- `_build_authorization_input` for an item. -/
def buildItemInput (w : World) (memo : Memo) (tenantId : Int) (user : Dict)
    (request : AuthorizeRequest) : Except PyError AuthorizationInput × World × Memo :=
  match permissionGraph w tenantId request.tenantKey with
  | .error e => (.error e, w, memo)
  | .ok (graph, w) =>
      match memoIndex w memo (request.lookup tenantId) with
      | (.error e, w, memo) => (.error e, w, memo)
      | (.ok entries, w, memo) => (.ok (request.input user graph entries), w, memo)

/-- An item that is not found in the memo: by the decision cache, or by the engine. -/
def decideItem (engine : KeyNetraEngine) (tenant : TenantRecord) (w : World)
    (request : AuthorizeRequest) (input : AuthorizationInput) :
    Except PyError (AuthorizationDecision × Bool) × World :=
  let key := request.decisionKey? w.backend.counters tenant input
  match key.bind (safeDecisionGet w.backend) with
  | some cached => (.ok (decisionFromCache cached, true), w)
  | none =>
      match engine.decide input with
      | .error e => (.error e, w)
      | .ok decision => (.ok (decision, false), w.storeDecisionAt key decision)

/-- One pass of the loop over the items. -/
def answerItem (engine : KeyNetraEngine) (tenant : TenantRecord) (user : Dict)
    (batch : BatchRequest) (s : BatchState) (item : BatchItem) :
    Except PyError AuthorizationResult × BatchState :=
  match validateResource item.resource with
  | .error e => (.error e, s)
  | .ok () =>
      let resource := (Value.dict item.resource).sorted
      let context := (Value.dict batch.context).sorted
      match s.answered? item.action resource context with
      | some a => (.ok ⟨a.decision, a.cached, tenant.revision⟩, s)
      | none =>
          match buildItemInput s.world s.indexed tenant.id user (batch.single item) with
          | (.error e, w, memo) => (.error e, { s with world := w, indexed := memo })
          | (.ok input, w, memo) =>
              match decideItem engine tenant w (batch.single item) input with
              | (.error e, w) => (.error e, { s with world := w, indexed := memo })
              | (.ok (decision, cached), w) =>
                  (.ok ⟨decision, cached, tenant.revision⟩,
                    { world := w
                      indexed := memo
                      answered := ⟨item.action, resource, context, decision, cached⟩ ::
                        s.answered })

/-- `RuntimeError`, `TimeoutError` and `ValueError` are caught; of these the modelled code
raises the last. -/
def PyError.IsValueError : PyError → Prop
  | .valueError _ | .attributeValidationError _ => True
  | _ => False

instance (e : PyError) : Decidable e.IsValueError := by
  cases e <;> unfold PyError.IsValueError <;> infer_instance

/-- `AuthorizationService.authorize_batch`; nothing reads back the audit records. -/
def authorizeBatch (settings : Settings) (w : World) (batch : BatchRequest) :
    Except PyError (List AuthorizationResult) × World :=
  match validateUser batch.user with
  | .error e => (.error e, w)
  | .ok () =>
      let tenant := w.tenant batch.tenantKey
      let (user, w) := hydrateUser (w.ensureTenant batch.tenantKey) tenant.id batch.user
      match buildEngine settings w tenant (policySetKey batch.policySet) with
      | (.error e, w) =>
          if e.IsValueError then
            (.ok (batch.items.map fun item => ⟨fallbackDecision settings
              (batch.single item).fallbackInput "authorization backend unavailable", false, 1⟩), w)
          else (.error e, w)
      | (.ok engine, w) =>
          let (results, s) := Lib.thread (answerItem engine tenant user batch)
            ⟨w, fun _ => none, []⟩ batch.items
          (results, s.world)

/-! ## One item -/

/-- The memo of an indexer holds what the tables say. -/
def World.Memoized (w : World) (memo : Memo) : Prop :=
  ∀ l entries, memo l = some entries → entries = w.storeEntries l

/-- What the tables say of an item, exceptions included. -/
def World.itemDecision (w : World) (engine : KeyNetraEngine) (request : AuthorizeRequest) :
    Except PyError AuthorizationDecision := do
  let input ← w.storeInput request
  engine.decide input

variable {live : Set Lookup} {w w₀ : World} {settings : Settings} {request : AuthorizeRequest}
  {memo : Memo} {asked : Set AuthorizeRequest} {engine : KeyNetraEngine} {batch : BatchRequest}
  {s : BatchState} {item : BatchItem}

/-- The index of a live lookup is that of the tables, through the memo as well. -/
theorem memoIndex_spec (h : ∀ tenantKey, Fresh live tenantKey w) (hdistinct : Distinct live)
    {l : Lookup} (hl : l ∈ live) (hmemo : w.Memoized memo) :
    (memoIndex w memo l).1 = .ok (w.storeIndex l) ∧ FilledAll live w (memoIndex w memo l).2.1 ∧
      w.Memoized (memoIndex w memo l).2.2 := by
  have hspec := (requestIndex_spec (h "") hdistinct hl).1
  have hfilled := requestIndex_filled h hdistinct hl
  unfold memoIndex
  by_cases hidentified : l.Identified
  · have hindex : w.storeIndex l = w.storeEntries l := if_pos hidentified
    rw [if_pos hidentified, hindex]
    unfold requestIndex at hspec hfilled
    rw [if_pos hidentified] at hspec hfilled
    rw [hindex] at hspec
    cases hdoc : w.backend.get (indexKey w.backend.counters l) with
    | some v =>
        have htruth := (h "").index l hl v hdoc
        rw [build_of_hit (hdoc.trans (congrArg some htruth))]
        exact ⟨rfl, .refl h, hmemo⟩
    | none =>
        cases hknown : memo l with
        | some entries =>
            rw [build_of_memo hdoc hknown]
            exact ⟨congrArg Except.ok (hmemo l entries hknown), .refl h, hmemo⟩
        | none =>
            -- a rebuild, as in a service without a memo
            rcases hrebuild : rebuildResourceIndex w.db.acl w.db.relationships w.backend l with
              ⟨result, b⟩
            cases result with
            | error e =>
                unfold buildResourceIndex at hspec
                rw [indexCacheGet_of_none hdoc, hrebuild] at hspec
                cases hspec
            | ok entries =>
                rw [build_of_rebuild hdoc rfl hrebuild] at hspec hfilled
                rw [build_of_rebuild hdoc hknown hrebuild]
                have hentries : entries = w.storeEntries l := Except.ok.inj hspec
                refine ⟨hspec, hfilled, ?_⟩
                intro l' entries' hl'
                have hset : Memo.set memo l entries l' = some entries' := hl'
                unfold Memo.set at hset
                split at hset
                · rename_i hsame
                  rw [hsame, ← Option.some.inj hset, hentries]
                · exact hmemo l' entries' hset
  · have hindex : w.storeIndex l = [] := if_neg hidentified
    rw [if_neg hidentified, hindex]
    exact ⟨rfl, .refl h, hmemo⟩

/-- The input of an item is that of the tables. -/
theorem buildItemInput_spec (h : ∀ tenantKey, Fresh live tenantKey w) (hdistinct : Distinct live)
    (hl : w.lookup request ∈ live) (hmemo : w.Memoized memo) (user : Dict) :
    let built := buildItemInput w memo (w.tenant request.tenantKey).id user request
    built.1 = (do
        let graph ← w.storeGraph request.tenantKey
        .ok (request.input user graph (w.storeIndex (w.lookup request)))) ∧
      FilledAll live w built.2.1 ∧ w.Memoized built.2.2 := by
  intro built
  have hbuilt : built = buildItemInput w memo (w.tenant request.tenantKey).id user request := rfl
  unfold buildItemInput at hbuilt
  rcases permissionGraph_spec (h request.tenantKey) with
    ⟨e, hgraph, hstore⟩ | ⟨graph, w', hgraph, hstore, -⟩
  · rw [hgraph] at hbuilt
    rw [hbuilt, hstore]
    exact ⟨rfl, .refl h, hmemo⟩
  · have hpermissions := permissionGraph_filled h hgraph
    have htables := (hpermissions.filled request.tenantKey).tables
    -- filling the model cache leaves the tables, and with them the memo
    have hmemo' : w'.Memoized memo := by
      intro l entries hl
      rw [htables.storeEntries]
      exact hmemo l entries hl
    have hindex := memoIndex_spec hpermissions.fresh hdistinct hl hmemo'
    have hlookup : request.lookup (w.tenant request.tenantKey).id = w.lookup request := rfl
    rw [htables.storeIndex] at hindex
    rw [hgraph] at hbuilt
    dsimp only at hbuilt
    rw [hlookup] at hbuilt
    rcases hresult : memoIndex w' memo (w.lookup request) with ⟨result, w'', memo'⟩
    rw [hresult] at hindex hbuilt
    obtain ⟨hentries, hfilled, hmemoized⟩ := hindex
    dsimp only at hentries hfilled hmemoized
    rw [hentries] at hbuilt
    dsimp only at hbuilt
    rw [hbuilt, hstore]
    refine ⟨rfl, hpermissions.trans hfilled, ?_⟩
    intro l entries hl
    rw [← htables.storeEntries]
    exact hmemoized l entries hl

/-- The resolved input of a valid request. -/
theorem storeInput_of_valid (huser : validateUser request.user = .ok ())
    (hresource : validateResource request.resource = .ok ()) :
    w.storeInput request = (do
      let graph ← w.storeGraph request.tenantKey
      .ok (request.input (w.storeUser request.tenantKey request.user) graph
        (w.storeIndex (w.lookup request)))) := by
  unfold World.storeInput AuthorizeRequest.validate
  rw [huser, hresource]
  rfl

/-- While the caches serve the tables, the input of a valid item is the resolved one. -/
theorem Serves.buildItemInput (h : Serves settings asked w₀ w)
    (hdistinct : Distinct (w₀.lookupsOf asked)) (hr : request ∈ asked)
    (hmemo : w₀.Memoized memo) (huser : validateUser request.user = .ok ())
    (hresource : validateResource request.resource = .ok ()) :
    let built := KeyNetra.buildItemInput w memo (w₀.tenant request.tenantKey).id
      (w₀.storeUser request.tenantKey request.user) request
    built.1 = w₀.storeInput request ∧ Serves settings asked w₀ built.2.1 ∧
      w₀.Memoized built.2.2 := by
  have htables := h.tables request.tenantKey
  have hmemo' : w.Memoized memo := by
    intro l entries hl
    rw [htables.storeEntries]
    exact hmemo l entries hl
  have hbuilt := buildItemInput_spec h.fresh hdistinct (h.lookup hr) hmemo'
    (w₀.storeUser request.tenantKey request.user)
  rw [htables.tenant, htables.graph, htables.lookup, htables.storeIndex] at hbuilt
  rcases hbuilt with ⟨hinput, hfilled, hmemoized⟩
  rw [storeInput_of_valid huser hresource]
  refine ⟨hinput, h.filled hfilled, ?_⟩
  intro l entries hl
  rw [← htables.storeEntries]
  exact hmemoized l entries hl

/-- An item is decided as the engine decides it, and its decision is stored. -/
theorem decideItem_spec (h : Serves settings asked w₀ w) (hdigest : CollisionFree w₀ asked)
    (hspelled : SpelledAlike w₀ (keyedOf asked)) (hr : request ∈ asked) {input : AuthorizationInput}
    (hinput : w₀.storeInput request = .ok input)
    (hengine : w₀.storeEvaluation settings request input = engine.decide input) :
    let decided := decideItem engine (w₀.tenant request.tenantKey) w request input
    Serves settings asked w₀ decided.2 ∧ decided.1.map Prod.fst = engine.decide input := by
  intro decided
  have hdecided : decided = decideItem engine (w₀.tenant request.tenantKey) w request input := rfl
  unfold decideItem at hdecided
  dsimp only at hdecided
  rw [h.counters] at hdecided
  cases hhit : (request.decisionKey? w₀.backend.counters (w₀.tenant request.tenantKey) input).bind
      (safeDecisionGet w.backend) with
  | some cached =>
      -- a cached decision is the one of the tables
      rcases Option.bind_eq_some_iff.mp hhit with ⟨key, hkey, hget⟩
      have hevaluation := h.decisions request hr input key hinput hkey cached hget
      rw [hhit] at hdecided
      rw [hdecided, ← hengine, hevaluation]
      exact ⟨h, rfl⟩
  | none =>
      rw [hhit] at hdecided
      cases hdecide : engine.decide input with
      | error e =>
          rw [hdecide] at hdecided
          rw [hdecided]
          exact ⟨h, rfl⟩
      | ok decision =>
          rw [hdecide] at hdecided hengine
          rw [hdecided]
          dsimp only
          have hconsistent := decide_consistent hdecide
          exact ⟨h.storeDecisionAt hdigest hspelled hr hinput hengine hconsistent, rfl⟩

/-! ## The items in order -/

/-- The caches, the indexer's memo and the answered items are those of the tables. -/
structure BatchState.Truthful (settings : Settings) (asked : Set AuthorizeRequest) (w₀ : World)
    (engine : KeyNetraEngine) (batch : BatchRequest) (s : BatchState) : Prop where
  serves : Serves settings asked w₀ s.world
  indexed : w₀.Memoized s.indexed
  answered : ∀ a ∈ s.answered, ∃ item ∈ batch.items, ∃ input,
    w₀.storeInput (batch.single item) = .ok input ∧ engine.decide input = .ok a.decision ∧
    a.action = item.action ∧ a.resource = (Value.dict item.resource).sorted ∧
    a.context = (Value.dict batch.context).sorted

theorem BatchState.Truthful.withWorld {memo : Memo}
    (h : s.Truthful settings asked w₀ engine batch) (hserves : Serves settings asked w₀ w)
    (hmemo : w₀.Memoized memo) :
    ({ s with world := w, indexed := memo } : BatchState).Truthful settings asked w₀ engine batch :=
  ⟨hserves, hmemo, h.answered⟩

/-- An answered item with the same key is decided alike. -/
theorem decide_of_answered (hspelled : SpelledAlike w₀ batch.singles)
    (hengine : ∀ item input,
      w₀.storeEvaluation settings (batch.single item) input = engine.decide input)
    (huser : validateUser batch.user = .ok ()) {item' : BatchItem}
    (hitem : item ∈ batch.items) (hitem' : item' ∈ batch.items)
    (hresource : validateResource item.resource = .ok ()) {input' : AuthorizationInput}
    (hinput' : w₀.storeInput (batch.single item') = .ok input')
    (haction : item.action = item'.action)
    (hsame : SameJson (.dict item.resource) (.dict item'.resource)) :
    w₀.itemDecision engine (batch.single item) = engine.decide input' := by
  rcases storeInput_parts hinput' with ⟨graph, hgraph, hparts⟩
  have hstored := @storeInput_of_valid _ w₀ (batch.single item) huser hresource
  have htenant : (batch.single item).tenantKey = (batch.single item').tenantKey := rfl
  rw [htenant, hgraph] at hstored
  have hinputs : SameInput ((batch.single item).input
      (w₀.storeUser (batch.single item').tenantKey (batch.single item).user) graph
      (w₀.storeIndex (w₀.lookup (batch.single item)))) input' := by
    rw [hparts]
    exact ⟨haction, .refl _, hsame, .refl _⟩
  -- tenant, policy set and revision are those of the batch
  have hpayload : SameJson (w₀.payload (batch.single item) _) (w₀.payload (batch.single item') _) :=
    sameJson_payload.mpr ⟨rfl, rfl, hinputs⟩
  have hevaluation := @storeEvaluation_of_payload _ w₀ settings _ hspelled
    (batch.single item) (batch.single item') ⟨item, hitem, rfl⟩ ⟨item', hitem', rfl⟩ _ _ hstored
    hinput' hpayload
  rw [hengine, hengine] at hevaluation
  unfold World.itemDecision
  rw [hstored]
  exact hevaluation

theorem itemDecision_of_input {input : AuthorizationInput} (h : w.storeInput request = .ok input) :
    w.itemDecision engine request = engine.decide input := by
  unfold World.itemDecision
  rw [h]
  rfl

theorem itemDecision_of_raised {e : PyError} (h : w.storeInput request = .error e) :
    w.itemDecision engine request = .error e := by
  unfold World.itemDecision
  rw [h]
  rfl

/-- A resource over the limits leaves the request without an input. -/
theorem storeInput_of_badResource {e : PyError} (huser : validateUser request.user = .ok ())
    (hresource : validateResource request.resource = .error e) :
    w.storeInput request = .error e := by
  unfold World.storeInput AuthorizeRequest.validate
  rw [huser, hresource]
  rfl

/-- A decision found among those of the earlier items is the one of this item. -/
theorem BatchState.Truthful.found (h : s.Truthful settings asked w₀ engine batch)
    (hspelled : SpelledAlike w₀ batch.singles)
    (hengine : ∀ item input,
      w₀.storeEvaluation settings (batch.single item) input = engine.decide input)
    (huser : validateUser batch.user = .ok ()) (hitem : item ∈ batch.items)
    (hresource : validateResource item.resource = .ok ()) {a : AnsweredItem}
    (hfound : s.answered? item.action (Value.dict item.resource).sorted
      (Value.dict batch.context).sorted = some a) :
    w₀.itemDecision engine (batch.single item) = .ok a.decision := by
  have hkey := List.find?_some hfound
  simp only [Bool.and_eq_true, decide_eq_true_eq] at hkey
  rcases h.answered a (List.mem_of_find?_eq_some hfound) with
    ⟨item', hmem, input', hinput', hdecide, haction, hresources, -⟩
  have hsame : SameJson (.dict item.resource) (.dict item'.resource) :=
    ((Value.eq_of_same hkey.1.2).symm.trans hresources)
  rw [decide_of_answered hspelled hengine huser hitem hmem hresource hinput'
    (hkey.1.1.symm.trans haction) hsame, hdecide]

/-- An item is answered as the tables say, if the items it may share a decision with are
spelled alike, and keeps the caches so in any case. -/
theorem answerItem_spec (h : s.Truthful settings asked w₀ engine batch)
    (hdistinct : Distinct (w₀.lookupsOf asked)) (hdigest : CollisionFree w₀ asked)
    (hspelled : SpelledAlike w₀ (keyedOf asked))
    (hengine : ∀ item input,
      w₀.storeEvaluation settings (batch.single item) input = engine.decide input)
    (huser : validateUser batch.user = .ok ()) (hitem : item ∈ batch.items)
    (hasked : batch.single item ∈ asked) :
    let answer := answerItem engine (w₀.tenant batch.tenantKey)
      (w₀.storeUser batch.tenantKey batch.user) batch s item
    answer.2.Truthful settings asked w₀ engine batch ∧
      (SpelledAlike w₀ batch.singles →
        answer.1.map (·.decision) = w₀.itemDecision engine (batch.single item)) := by
  intro answer
  have hanswer : answer = answerItem engine (w₀.tenant batch.tenantKey)
    (w₀.storeUser batch.tenantKey batch.user) batch s item := rfl
  unfold answerItem at hanswer
  cases hresource : validateResource item.resource with
  | error e =>
      rw [hresource] at hanswer
      rw [hanswer, itemDecision_of_raised (storeInput_of_badResource huser hresource)]
      exact ⟨h, fun _ => rfl⟩
  | ok valid =>
      rw [hresource] at hanswer
      dsimp only at hanswer
      cases hfound : s.answered? item.action (Value.dict item.resource).sorted
          (Value.dict batch.context).sorted with
      | some a =>
          rw [hfound] at hanswer
          rw [hanswer]
          refine ⟨h, ?_⟩
          intro hmemo
          rw [h.found hmemo hengine huser hitem hresource hfound]
          rfl
      | none =>
          rw [hfound] at hanswer
          dsimp only at hanswer
          have hbuilt := h.serves.buildItemInput hdistinct hasked h.indexed huser hresource
          have htenant : (batch.single item).tenantKey = batch.tenantKey := rfl
          have huserOf : (batch.single item).user = batch.user := rfl
          rw [htenant, huserOf] at hbuilt
          rcases hresult : buildItemInput s.world s.indexed (w₀.tenant batch.tenantKey).id
            (w₀.storeUser batch.tenantKey batch.user) (batch.single item) with ⟨built, w', memo'⟩
          rw [hresult] at hanswer hbuilt
          obtain ⟨hinput, hserves, hmemo'⟩ := hbuilt
          dsimp only at hinput hserves hmemo'
          have hstored := hinput.symm
          cases built with
          | error e =>
              rw [hanswer, itemDecision_of_raised hstored]
              exact ⟨h.withWorld hserves hmemo', fun _ => rfl⟩
          | ok input =>
              have hdecided := decideItem_spec hserves hdigest hspelled hasked hstored
                (hengine item input)
              rw [htenant] at hdecided
              dsimp only at hanswer
              rcases hresult' : decideItem engine (w₀.tenant batch.tenantKey) w'
                (batch.single item) input with ⟨decided, w''⟩
              rw [hresult'] at hdecided hanswer
              obtain ⟨hserves', hdecide⟩ := hdecided
              dsimp only at hserves' hdecide
              rw [itemDecision_of_input hstored, ← hdecide]
              cases decided with
              | error e =>
                  rw [hanswer]
                  exact ⟨h.withWorld hserves' hmemo', fun _ => rfl⟩
              | ok result =>
                  rw [hanswer]
                  refine ⟨⟨hserves', hmemo', ?_⟩, fun _ => rfl⟩
                  intro a ha
                  rcases List.mem_cons.mp ha with heq | hmem
                  · -- the decision that is remembered is that of this item
                    rw [heq]
                    exact ⟨item, hitem, input, hstored, hdecide.symm, rfl, rfl, rfl⟩
                  · exact h.answered a hmem

/-! ## The whole batch -/

/-- What the tables say of a batch, exceptions included. -/
def BatchRequest.stored (settings : Settings) (w : World) (batch : BatchRequest) :
    Except PyError (List AuthorizationDecision) :=
  match currentEngine settings
      (w.storePolicies batch.tenantKey (policySetKey batch.policySet)) with
  | .ok engine => batch.items.mapM fun item => w.itemDecision engine (batch.single item)
  | .error e =>
      if e.IsValueError then
        .ok (batch.items.map fun item => fallbackDecision settings
          (batch.single item).fallbackInput "authorization backend unavailable")
      else .error e

/-- The items are answered in order as the tables say, if they are spelled alike, and keep
the caches so in any case. -/
theorem answerItems_spec (hserves : Serves settings asked w₀ w)
    (hdistinct : Distinct (w₀.lookupsOf asked)) (hdigest : CollisionFree w₀ asked)
    (hspelled : SpelledAlike w₀ (keyedOf asked)) (huser : validateUser batch.user = .ok ())
    (hitems : ∀ item ∈ batch.items, batch.single item ∈ asked)
    (hengine : currentEngine settings
      (w₀.storePolicies batch.tenantKey (policySetKey batch.policySet)) = .ok engine) :
    let answers := Lib.thread (answerItem engine (w₀.tenant batch.tenantKey)
      (w₀.storeUser batch.tenantKey batch.user) batch) ⟨w, fun _ => none, []⟩ batch.items
    Serves settings asked w₀ answers.2.world ∧
      (SpelledAlike w₀ batch.singles → answers.1.map (List.map (·.decision)) =
        batch.items.mapM fun item => w₀.itemDecision engine (batch.single item)) := by
  intro answers
  -- the engine of the batch is the one each item would build
  have hevaluation : ∀ item input,
      w₀.storeEvaluation settings (batch.single item) input = engine.decide input := by
    intro item input
    have hcurrent : currentEngine settings (w₀.storePolicies (batch.single item).tenantKey
      (policySetKey (batch.single item).policySet)) = .ok engine := hengine
    unfold World.storeEvaluation
    rw [hcurrent]
    rfl
  have hstart : (BatchState.mk w (fun _ => none) []).Truthful settings asked w₀ engine batch := by
    refine ⟨hserves, ?_, ?_⟩
    · intro l entries hl
      cases hl
    · intro a ha
      cases ha
  have hstep := fun (s : BatchState) (item : BatchItem)
      (hs : s.Truthful settings asked w₀ engine batch) (hmem : item ∈ batch.items) =>
    answerItem_spec hs hdistinct hdigest hspelled hevaluation huser hmem (hitems item hmem)
  constructor
  · have hkept := Lib.thread_invariant (fun s item hs hmem => (hstep s item hs hmem).1) hstart
    exact hkept.serves
  · intro hmemo
    have hthread := Lib.thread_spec
      (fun s item hs hmem => (hstep s item hs hmem).imp_right fun hanswer => hanswer hmemo) hstart
    exact hthread.2

/-- A batch of items spelled alike is answered as the tables say, and any batch keeps the
caches serving them. -/
theorem Serves.authorizeBatch (h : Serves settings asked w₀ w)
    (hdistinct : Distinct (w₀.lookupsOf asked)) (hdigest : CollisionFree w₀ asked)
    (hspelled : SpelledAlike w₀ (keyedOf asked)) (hregistered : w₀.Registered batch.tenantKey)
    (hitems : ∀ item ∈ batch.items, batch.single item ∈ asked) :
    Serves settings asked w₀ (KeyNetra.authorizeBatch settings w batch).2 ∧
      (validateUser batch.user = .ok () → SpelledAlike w₀ batch.singles →
        (KeyNetra.authorizeBatch settings w batch).1.map (List.map (·.decision)) =
          batch.stored settings w₀) := by
  unfold KeyNetra.authorizeBatch
  cases huser : validateUser batch.user with
  | error e =>
      refine ⟨h, ?_⟩
      intro hvalid
      cases hvalid
  | ok valid =>
      have htables := h.tables batch.tenantKey
      have hhydrated := (hydrateUser_spec (h.fresh batch.tenantKey) batch.user).1
      have hserves := h.filled (hydrateUser_filled h.fresh (w.tenant batch.tenantKey).id batch.user)
      dsimp only
      rw [ensureTenant_of_registered (h.registered hregistered)]
      rw [htables.storeUser] at hhydrated
      rw [htables.tenant] at hhydrated hserves ⊢
      rcases hresult : hydrateUser w (w₀.tenant batch.tenantKey).id batch.user with ⟨user, w'⟩
      rw [hresult] at hhydrated hserves
      dsimp only at hhydrated hserves ⊢
      -- the engine is built once, for all items
      have hengine := hserves.engine batch.tenantKey (policySetKey batch.policySet)
      have hbuilt := hserves.filled (buildEngine_filled settings hserves.fresh batch.tenantKey
        (policySetKey batch.policySet))
      rw [(hserves.tables batch.tenantKey).tenant] at hengine hbuilt
      rcases hresult' : buildEngine settings w' (w₀.tenant batch.tenantKey)
        (policySetKey batch.policySet) with ⟨result, w''⟩
      rw [hresult'] at hengine hbuilt
      dsimp only at hengine hbuilt ⊢
      unfold BatchRequest.stored
      rw [← hengine]
      cases result with
      | error e =>
          dsimp only
          -- only what the clause lists is answered with the fallback
          by_cases hvalue : e.IsValueError
          · rw [if_pos hvalue, if_pos hvalue]
            simp only [Except.map, List.map_map, Function.comp_def]
            exact ⟨hbuilt, fun _ _ => trivial⟩
          · rw [if_neg hvalue, if_neg hvalue]
            exact ⟨hbuilt, fun _ _ => rfl⟩
      | ok engine =>
          have hanswers := answerItems_spec hbuilt hdistinct hdigest hspelled huser hitems
            hengine.symm
          dsimp only
          rw [hhydrated]
          exact ⟨hanswers.1, fun _ => hanswers.2⟩

/-! ## Batches and single calls -/

/-- No item raises: the permission graph of the tenant compiles and the engine decides it.
Without an engine, the exception is one that the batch catches. -/
def BatchRequest.Unbroken (settings : Settings) (w : World) (batch : BatchRequest) : Prop :=
  match currentEngine settings
      (w.storePolicies batch.tenantKey (policySetKey batch.policySet)) with
  | .ok engine => ∀ item ∈ batch.items,
      ∃ decision, w.itemDecision engine (batch.single item) = .ok decision
  | .error e => e.IsValueError ∧ ∀ item ∈ batch.items,
      ∃ input, w.storeInput (batch.single item) = .ok input

/-- What an engine decides is the decision over the tables. -/
theorem storeDecision_of_item
    (hengine : currentEngine settings
      (w.storePolicies request.tenantKey (policySetKey request.policySet)) = .ok engine)
    {decision : AuthorizationDecision} (h : w.itemDecision engine request = .ok decision) :
    w.storeDecision settings request = decision := by
  rcases Lib.bind_eq_ok.mp h with ⟨input, hinput, hdecide⟩
  apply storeDecision_of_evaluation hinput
  unfold World.storeEvaluation
  rw [hengine]
  exact hdecide

/-- Without an engine there is none of the settings either. -/
theorem settings_of_engine_error {records : List PolicyRecord} {e : PyError}
    (h : currentEngine settings records = .error e) : settings.engine = .error e := by
  unfold currentEngine at h
  split at h
  · exact h
  · have hnew : engineOf records = .ok (engineOfRows PolicyRecord.definition records) :=
      new_of_rows PolicyRecord.definition records
    rw [hnew] at h
    cases h

theorem fallback_of_engine_error {e : PyError} (h : settings.engine = .error e)
    (input : AuthorizationInput) (reason : String) :
    fallbackDecision settings input reason = staticFallback settings reason := by
  unfold fallbackDecision
  rw [h]
  dsimp only
  split
  · rfl
  · rfl

omit [PyRuntime] in
theorem staticFallback_inj {reason reason' : String}
    (h : staticFallback settings reason = staticFallback settings reason') : reason = reason' := by
  have hreasons := congrArg AuthorizationDecision.reason h
  unfold staticFallback at hreasons
  split at hreasons
  · exact Option.some.inj hreasons
  · exact Option.some.inj hreasons

omit [PyRuntime] in
/-- The two reasons a request falls back for. -/
theorem unavailable_ne (message : String) :
    s!"authorization input unavailable: {message}" ≠ "authorization backend unavailable" := by
  intro heq
  have hlists := congrArg String.toList heq
  rw [String.toList_append] at hlists
  simp [toString] at hlists

/-- Without an engine, an item is answered as alone when its input could be resolved. -/
theorem fallback_eq_stored_iff {e : PyError}
    (h : currentEngine settings
      (w.storePolicies request.tenantKey (policySetKey request.policySet)) = .error e) :
    fallbackDecision settings request.fallbackInput "authorization backend unavailable" =
      w.storeDecision settings request ↔ ∃ input, w.storeInput request = .ok input := by
  have hfallback := fallback_of_engine_error (settings_of_engine_error h)
  unfold World.storeDecision World.decideStored World.storeEvaluation
  rw [h, hfallback]
  cases hinput : w.storeInput request with
  | ok input =>
      dsimp only [Lib.error_bind]
      rw [hfallback]
      exact iff_of_true rfl ⟨input, rfl⟩
  | error e' =>
      dsimp only
      rw [hfallback]
      have hnone : ¬ ∃ input, (Except.error e' : Except PyError AuthorizationInput) = .ok input := by
        rintro ⟨input, hok⟩
        cases hok
      refine iff_of_false ?_ hnone
      intro hsame
      exact unavailable_ne _ (staticFallback_inj hsame).symm

/-- The tables answer a batch as its items exactly when no item raises. -/
theorem stored_eq_singles_iff (settings : Settings) (w : World) (batch : BatchRequest) :
    batch.stored settings w =
        .ok (batch.items.map fun item => w.storeDecision settings (batch.single item)) ↔
      batch.Unbroken settings w := by
  unfold BatchRequest.stored BatchRequest.Unbroken
  cases hengine : currentEngine settings
      (w.storePolicies batch.tenantKey (policySetKey batch.policySet)) with
  | ok engine =>
      -- an item that raises ends the batch, while a single request falls back
      dsimp only
      constructor
      · intro h item hitem
        have hall := Lib.mapM_eq_ok_iff.mp h
        rw [List.forall₂_map_right_iff, List.forall₂_same] at hall
        exact ⟨_, hall item hitem⟩
      · intro h
        apply Lib.mapM_ok_of_forall
        intro item hitem
        rcases h item hitem with ⟨decision, hdecision⟩
        have hsingle : currentEngine settings (w.storePolicies (batch.single item).tenantKey
            (policySetKey (batch.single item).policySet)) = .ok engine := hengine
        rw [storeDecision_of_item hsingle hdecision, hdecision]
  | error e =>
      dsimp only
      by_cases hvalue : e.IsValueError
      · -- a single request tells why its input was not built, the batch does not
        have hsingle : ∀ item, fallbackDecision settings (batch.single item).fallbackInput
            "authorization backend unavailable" = w.storeDecision settings (batch.single item) ↔
              ∃ input, w.storeInput (batch.single item) = .ok input := by
          intro item
          apply fallback_eq_stored_iff
          exact hengine
        rw [if_pos hvalue, Except.ok.injEq, List.map_inj_left]
        constructor
        · intro h
          exact ⟨hvalue, fun item hitem => (hsingle item).mp (h item hitem)⟩
        · rintro ⟨-, h⟩ item hitem
          exact (hsingle item).mpr (h item hitem)
      · rw [if_neg hvalue]
        exact iff_of_false (fun h => by cases h) fun h => hvalue h.1

/-- A call of the service. -/
inductive ServiceCall where
  | authorize (request : AuthorizeRequest)
  | authorizeBatch (batch : BatchRequest)

def ServiceCall.tenantKey : ServiceCall → String
  | .authorize request => request.tenantKey
  | .authorizeBatch batch => batch.tenantKey

/-- The requests of a call. -/
def ServiceCall.requests : ServiceCall → List AuthorizeRequest
  | .authorize request => [request]
  | .authorizeBatch batch => batch.items.map batch.single

/-- The world after a call. -/
def ServiceCall.serve (settings : Settings) (w : World) : ServiceCall → World
  | .authorize request => (KeyNetra.authorize settings w request).2
  | .authorizeBatch batch => (KeyNetra.authorizeBatch settings w batch).2

/-- The requests of calls. -/
def requestsOf (calls : List ServiceCall) : Set AuthorizeRequest :=
  {r | ∃ call ∈ calls, r ∈ call.requests}

/-- Any calls leave the caches serving the tables. -/
theorem serves_run (settings : Settings) (w : World) {asked : Set AuthorizeRequest}
    {calls : List ServiceCall} (hasked : requestsOf calls ⊆ asked)
    (hregistered : ∀ call ∈ calls, w.Registered call.tenantKey)
    (hdistinct : Distinct (w.lookupsOf asked)) (hdigest : CollisionFree w asked)
    (hspelled : SpelledAlike w (keyedOf asked)) :
    Serves settings asked w (Lib.run (ServiceCall.serve settings) w.cold calls) := by
  have hall : ∀ call ∈ calls, call ∈ calls := fun call hcall => hcall
  apply Lib.run_invariant _ (serves_cold settings asked w) (Lib.along_of_forall hall)
  intro v call hv hcall
  have htenant := hregistered call hcall
  cases call with
  | authorize request =>
      have hr : request ∈ asked := hasked ⟨_, hcall, List.mem_singleton_self request⟩
      exact hv.authorize hdistinct hdigest hspelled hr htenant
  | authorizeBatch batch =>
      have hitems : ∀ item ∈ batch.items, batch.single item ∈ asked :=
        fun item hitem => hasked ⟨_, hcall, List.mem_map_of_mem hitem⟩
      exact (hv.authorizeBatch hdistinct hdigest hspelled htenant hitems).1

/-- A batch is answered with one decision an item, in order: those of the single calls. -/
def BatchRequest.AnsweredSingly (settings : Settings) (w : World) (batch : BatchRequest) : Prop :=
  ∃ results, (KeyNetra.authorizeBatch settings w batch).1 = .ok results ∧
    results.map (·.decision) =
      batch.items.map fun item => (KeyNetra.authorize settings w (batch.single item)).1.decision

/-- After any calls over the same tables, the items of a batch are answered as by the single
calls, one by one, exactly when none of them raises. No two lookups of the requests
share their cache keys and no two payloads share their digest; and of the requests that use
the decision cache, as of the items of the batch, those with payloads equal up to the order
of members are equal. -/
theorem batch_eq_singles_iff (settings : Settings) (w : World) (calls : List ServiceCall)
    (batch : BatchRequest) (huser : validateUser batch.user = .ok ())
    (hregistered : ∀ call ∈ .authorizeBatch batch :: calls, w.Registered call.tenantKey)
    (hdistinct : Distinct (w.lookupsOf (requestsOf (.authorizeBatch batch :: calls))))
    (hdigest : CollisionFree w (requestsOf (.authorizeBatch batch :: calls)))
    (hspelled : SpelledAlike w (keyedOf (requestsOf (.authorizeBatch batch :: calls))))
    (hmemo : SpelledAlike w batch.singles) :
    batch.AnsweredSingly settings (Lib.run (ServiceCall.serve settings) w.cold calls) ↔
      batch.Unbroken settings w := by
  have hcalls : requestsOf calls ⊆ requestsOf (.authorizeBatch batch :: calls) := by
    rintro r ⟨call, hcall, hr⟩
    exact ⟨call, List.mem_cons_of_mem _ hcall, hr⟩
  have hitems : ∀ item ∈ batch.items,
      batch.single item ∈ requestsOf (.authorizeBatch batch :: calls) :=
    fun item hitem => ⟨_, List.mem_cons_self, List.mem_map_of_mem hitem⟩
  have hserves := serves_run settings w hcalls
    (fun call hcall => hregistered call (List.mem_cons_of_mem _ hcall)) hdistinct hdigest hspelled
  unfold BatchRequest.AnsweredSingly
  generalize Lib.run (ServiceCall.serve settings) w.cold calls = w' at hserves ⊢
  -- both sides are what the tables say
  have hsingles : (batch.items.map fun item =>
      (authorize settings w' (batch.single item)).1.decision) =
      batch.items.map fun item => w.storeDecision settings (batch.single item) :=
    List.map_congr_left fun item hitem => hserves.answer hdistinct (hitems item hitem)
  have hbatch := (hserves.authorizeBatch hdistinct hdigest hspelled
    (hregistered _ List.mem_cons_self) hitems).2 huser hmemo
  rw [hsingles, ← stored_eq_singles_iff, ← hbatch]
  cases (authorizeBatch settings w' batch).1 with
  | error e =>
      refine iff_of_false ?_ (fun h => by cases h)
      rintro ⟨results, hok, -⟩
      cases hok
  | ok results =>
      constructor
      · rintro ⟨results', hok, hmap⟩
        rw [Except.ok.inj hok]
        exact congrArg Except.ok hmap
      · intro h
        exact ⟨results, rfl, Except.ok.inj h⟩

end Batch

/-! ## Concrete batches -/

section Concrete

attribute [local instance] writingRuntime

attribute [local semireducible] cacheKey

/-- User 7 reads documents, bypassing the decision cache. -/
def readBatch (resources : List Dict) : BatchRequest where
  tenantKey := "default"
  user := [("id", .int 7)]
  items := resources.map fun resource => ⟨"read", resource⟩
  consistency := "fully_consistent"

/-- A document whose id is an object. -/
def objectDoc (first second : String × Value) : Dict :=
  [("type", .str "doc"), ("id", .dict [first, second])]

/-- Document 1, twice. -/
def readTwice : BatchRequest := readBatch [readDoc.resource, readDoc.resource]

/-- One document, with the members of its id in one order and in the other. -/
def readBothOrders : BatchRequest :=
  readBatch [objectDoc ("b", .int 2) ("a", .int 1), objectDoc ("a", .int 1) ("b", .int 2)]

/-- The document whose id is written in the second order is shared with user 7. -/
def objectWorld : World :=
  (createAclEntry blankWorld "default" ⟨"user", "7", "doc",
    (Value.dict [("a", .int 1), ("b", .int 2)]).text, "read", "allow", none⟩).2

/-- A read, and a batch that reads the same document twice. -/
theorem read_twice :
    readTwice.AnsweredSingly plainSettings
      (Lib.run (ServiceCall.serve plainSettings) (policyWorld [readersPolicy]).cold
        [.authorize readDoc]) := by
  have hitems : ∀ item ∈ readTwice.items, readTwice.single item = readDoc := by
    intro item hitem
    have hread : item = ⟨"read", readDoc.resource⟩ := by
      simpa [readTwice, readBatch] using hitem
    rw [hread]
    rfl
  have hasked : ∀ r ∈ requestsOf [.authorizeBatch readTwice, .authorize readDoc], r = readDoc := by
    rintro r ⟨call, hcall, hr⟩
    rcases List.mem_cons.mp hcall with rfl | hcall
    · rcases List.mem_map.mp hr with ⟨item, hitem, rfl⟩
      exact hitems item hitem
    · rw [List.mem_singleton.mp hcall] at hr
      exact List.mem_singleton.mp hr
  -- that it comes through is computed, its decision is not needed
  have hok : ∃ decision, (do
      let input ← (policyWorld [readersPolicy]).storeInput readDoc
      (policyWorld [readersPolicy]).storeEvaluation plainSettings readDoc input) =
        .ok decision := by
    apply Lib.isOk_iff.mp
    decide +kernel
  apply (batch_eq_singles_iff plainSettings (policyWorld [readersPolicy]) [.authorize readDoc]
    readTwice rfl ?_ ?_ ⟨writingRuntime_hexadecimal, ?_⟩ ?_ ?_).mpr
  · -- no item raises
    rcases hok with ⟨decision, hdecision⟩
    rcases Lib.bind_eq_ok.mp hdecision with ⟨input, hinput, hevaluation⟩
    rcases Lib.bind_eq_ok.mp hevaluation with ⟨engine, hengine, hdecide⟩
    have hcurrent : currentEngine plainSettings ((policyWorld [readersPolicy]).storePolicies
      readTwice.tenantKey (policySetKey readTwice.policySet)) = .ok engine := hengine
    unfold BatchRequest.Unbroken
    rw [hcurrent]
    intro item hitem
    rw [hitems item hitem]
    unfold World.itemDecision
    rw [hinput]
    exact ⟨decision, hdecide⟩
  · intro call hcall
    have htenant : call.tenantKey = readDoc.tenantKey := by
      rcases List.mem_cons.mp hcall with rfl | hcall
      · rfl
      · rw [List.mem_singleton.mp hcall]
        rfl
    rw [htenant]
    exact (truthful_rested plainSettings readDoc _).registered
  · -- the lookups and the payloads are those of one request
    rintro l ⟨r, hr, rfl⟩ l' ⟨r', hr', rfl⟩ _ _
    rw [hasked r hr, hasked r' hr']
  · intro r hr r' hr' input input' hinput hinput' _
    rw [hasked r hr] at hinput ⊢
    rw [hasked r' hr'] at hinput' ⊢
    rw [Except.ok.inj (hinput.symm.trans hinput')]
    exact .refl _
  · intro r hr r' hr' input input' hinput hinput' _
    rw [hasked r hr.1] at hinput ⊢
    rw [hasked r' hr'.1] at hinput' ⊢
    rw [Except.ok.inj (hinput.symm.trans hinput')]
    exact ⟨rfl, rfl, rfl, rfl⟩
  · -- and so are the items
    rintro r ⟨item, hitem, rfl⟩ r' ⟨item', hitem', rfl⟩ input input' hinput hinput' _
    rw [hitems item hitem] at hinput ⊢
    rw [hitems item' hitem'] at hinput' ⊢
    rw [Except.ok.inj (hinput.symm.trans hinput')]
    exact ⟨rfl, rfl, rfl, rfl⟩

/-- A policy that raises on an item breaks the batch, where the single call falls back; and
the items of one canonical text are answered alike, where the single calls differ. -/
theorem batch_differs :
    (∀ batch ∈ [readTwice, readBothOrders], validateUser batch.user = .ok () ∧
      ∀ item ∈ batch.items, validateResource item.resource = .ok ()) ∧
      ¬ readTwice.AnsweredSingly plainSettings (policyWorld [neighboursPolicy]).cold ∧
      ¬ readBothOrders.AnsweredSingly plainSettings objectWorld.cold := by
  have hraises : (authorizeBatch plainSettings (policyWorld [neighboursPolicy]).cold
      readTwice).1.isOk = false := by
    decide +kernel
  have hbatch : ((authorizeBatch plainSettings objectWorld.cold readBothOrders).1.map
      (List.map (·.decision.allowed))).toOption = some [false, false] := by
    decide +kernel
  have hsingles : (readBothOrders.items.map fun item => (authorize plainSettings
      objectWorld.cold (readBothOrders.single item)).1.decision.allowed) = [false, true] := by
    decide +kernel
  refine ⟨by decide +kernel, ?_, ?_⟩
  · -- the policy raises, and no list of results comes back
    rintro ⟨results, hok, -⟩
    rw [hok] at hraises
    cases hraises
  · rintro ⟨results, hok, hmap⟩
    -- the second item is answered as the first, though alone it is allowed
    rw [hok] at hbatch
    have hallowed := congrArg (List.map (·.allowed)) hmap
    rw [List.map_map, List.map_map] at hallowed
    have htwice : results.map (·.decision.allowed) = [false, false] := Option.some.inj hbatch
    exact absurd (htwice.symm.trans (hallowed.trans hsingles)) (by decide)

end Concrete

end KeyNetra
