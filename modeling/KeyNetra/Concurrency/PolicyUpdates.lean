import KeyNetra.Cache.Adapters
import KeyNetra.Lib.PubSub
import KeyNetra.Py.JsonRoundTrip

/-!
# KeyNetra.Concurrency.PolicyUpdates — the channel of policy updates

Behind every policy write the service publishes the tenant on one channel, and every instance runs
a thread that subscribes to it, invalidates the tenants it is told of, and is stopped with its
instance. The channel is a service of its own, which may lose what it is given, and it is shared,
so the thread may be handed texts that are no updates.

* `handleMessage` — what the thread does with one message;
* `SubscriberState.step` — writes, publications, and the threads of any number of instances that
  start, take messages, handle them and are stopped, in any order;
* `handleMessage_update` — an update is handled by invalidating its tenant;
* `DeliveryInv.step` — each thread handles what it is handed, and the namespaces count it;
* `updates_delivered` — over a service that delivers at most once, each thread handles messages
  that were published while it was subscribed, once and in order, a tenant that is neither written
  nor named is not invalidated, and no update ends a thread.
-/

namespace KeyNetra

/-! ## Messages -/

/-- A row's version is an integer of the database. -/
structure PolicyUpdateEvent where
  tenantKey : String
  policyVersion : Int
  fits : FitsInteger policyVersion

def charOf? (n : Nat) : Option Char :=
  if h : n.isValidChar then some (Char.ofNatAux n h) else none

/-- The text that such code points are, if none is half of a pair. -/
def textOf? (text : PyText) : Option String := (text.mapM charOf?).map String.ofList

/-- What the thread does with a message. -/
inductive Handled where
  | invalidated (tenantKey : String)
  | skipped
  | stopped
deriving DecidableEq, Repr

section Messages

variable [PyRuntime]

def PolicyUpdateEvent.payload (event : PolicyUpdateEvent) : Value :=
  .dict [("tenant_key", .str event.tenantKey), ("policy_version", .int event.policyVersion)]

/-- `PolicyUpdateEvent.to_json`. -/
def PolicyUpdateEvent.toJson (event : PolicyUpdateEvent) : String :=
  jsonDumps ⟨true, false⟩ event.payload

variable [RecursionLimit]

/-- The body of the loop in `_start_policy_subscriber`. A text that cannot be loaded, and a key that
cannot be encoded, is a `ValueError`, and logged; a text that nests too deep (`deep`), and a value
that has no `get`, is no `ValueError`, and ends the thread. -/
def handleMessage (deep : Bool) (data : String) : Handled :=
  match loads data.toList with
  | none => if deep then .stopped else .skipped
  | some (.dict payload) =>
      match JsonDict.get? payload (codePoints "tenant_key") with
      | some (.str text) => (textOf? text).elim .skipped .invalidated
      | _ => .skipped
  | some _ => .stopped

end Messages

theorem textOf_codePoints (s : String) : textOf? (codePoints s) = some s := by
  have hchars : ∀ cs : List Char, (cs.map Char.toNat).mapM charOf? = some cs := by
    intro cs
    induction cs with
    | nil => rfl
    | cons c cs ih =>
        have hchar : charOf? c.toNat = some c := dif_pos c.valid
        rw [List.map_cons, List.mapM_cons, ih, hchar]
        rfl
  unfold textOf? codePoints
  rw [hchars, Option.map_some, String.ofList_toList]

section Handling

variable [PyRuntime]

theorem payload_writable (event : PolicyUpdateEvent) : event.payload.Writable := by
  have hkeys : ["tenant_key", "policy_version"].Nodup := by decide
  have hshort : (Nat.toDigits 10 event.policyVersion.natAbs).length ≤ 4300 := by
    apply length_toDigits
    obtain ⟨hlow, hhigh⟩ := event.fits
    omega
  exact ⟨hkeys, trivial, hshort, trivial⟩

variable [RecursionLimit]

/-- An update is handled by invalidating its tenant, however deep the decoder may nest. -/
theorem handleMessage_update (deep : Bool) (event : PolicyUpdateEvent) :
    handleMessage deep event.toJson = .invalidated event.tenantKey := by
  have hflat : event.payload.depth ≤ RecursionLimit.levels := RecursionLimit.flat
  have hloaded : loads event.toJson.toList = some event.payload.json := by
    unfold PolicyUpdateEvent.toJson jsonDumps
    rw [String.toList_ofList]
    exact loads_jsonChars (payload_writable event) hflat
  have hjson : event.payload.json = .dict [(codePoints "tenant_key",
      .str (codePoints event.tenantKey)), (codePoints "policy_version", .int event.policyVersion)] :=
    rfl
  have hkey : JsonDict.get? [(codePoints "tenant_key", .str (codePoints event.tenantKey)),
      (codePoints "policy_version", .int event.policyVersion)] (codePoints "tenant_key") =
      some (.str (codePoints event.tenantKey)) := if_pos rfl
  unfold handleMessage
  rw [hloaded, hjson]
  dsimp only
  rw [hkey]
  dsimp only
  rw [textOf_codePoints]
  rfl

/-- Whether the decoder nests too deep decides of no tenant. -/
theorem handleMessage_invalidated {deep : Bool} {data tenantKey : String} :
    handleMessage deep data = .invalidated tenantKey ↔
      handleMessage false data = .invalidated tenantKey := by
  unfold handleMessage
  cases loads data.toList with
  | none => cases deep <;> simp
  | some value => cases value <;> exact Iff.rfl

end Handling

/-! ## The system -/

/-- How an increment of the shared backend ends: whether the server counts it, and whether an error
comes back that the adapter does not log and swallow. -/
structure IncrOutcome where
  counted : Bool
  raises : Bool
deriving DecidableEq, Repr

/-- `policy_cache.invalidate(tenant_key)`, on a backend that may fail. -/
def policyCacheInvalidateWith (b : Backend) (tenantKey : String) (incr : IncrOutcome) : Backend :=
  if incr.counted then policyCacheInvalidate b tenantKey else b

/-- The thread of an instance. -/
inductive SubscriberThread where
  | absent
  | listening
  | handling (data : String)
  | returned
  | died
deriving DecidableEq, Repr

/-- The message a thread has in hand. -/
def SubscriberThread.held : SubscriberThread → List String
  | .handling data => [data]
  | _ => []

/-- A message that a thread has handled. -/
structure HandledMessage (ι : Type) where
  thread : ι
  data : String
  incr : IncrOutcome

/-- The channel, the threads and the shared backend. `written` counts the invalidations of the
writes, `handled` lists the messages that were handled; no step depends on them. -/
structure SubscriberState (ι χ : Type) where
  channel : Lib.PubSub.Use ι String χ
  threads : ι → SubscriberThread
  backend : Backend
  written : String → Nat
  handled : List (HandledMessage ι)

/-- The moves: a write invalidates its tenant, an update or any other text is published, an instance
starts its thread, the thread asks for its next message, handles it, or is stopped. -/
inductive UpdateMove (ι : Type) where
  | write (tenantKey : String) (incr : IncrOutcome)
  | publish (event : PolicyUpdateEvent)
  | foreign (text : String)
  | start (i : ι)
  | listen (i : ι)
  | handle (i : ι) (deep : Bool) (incr : IncrOutcome)
  | stop (i : ι)

/-- How often a tenant's policies were invalidated for a message. -/
def namingCount [PyRuntime] [RecursionLimit] {ι : Type} (tenantKey : String)
    (messages : List (HandledMessage ι)) : Nat :=
  messages.countP fun message => message.incr.counted = true ∧
    handleMessage false message.data = .invalidated tenantKey

namespace SubscriberState

variable {ι χ : Type} [DecidableEq ι]

/-- What a thread has handled. -/
def handledBy (s : SubscriberState ι χ) (i : ι) : List (HandledMessage ι) :=
  s.handled.filter fun message => message.thread = i

variable (service : Lib.PubSub ι String χ)

def initial (b : Backend) : SubscriberState ι χ :=
  ⟨service.unused, fun _ => .absent, b, fun _ => 0, []⟩

section Steps

variable [PyRuntime] [RecursionLimit]

/-- `_start_policy_subscriber`. -/
def start (s : SubscriberState ι χ) (i : ι) : SubscriberState ι χ :=
  match s.threads i with
  | .absent =>
      { s with
        channel := service.call s.channel (.subscribe i)
        threads := Function.update s.threads i .listening }
  | _ => s

/-- The loop of `run` asks `pubsub.listen()`, which may wait, end or raise. -/
def listen (s : SubscriberState ι χ) (i : ι) : SubscriberState ι χ :=
  match s.threads i, service.take s.channel i with
  | .listening, some (some data, channel) =>
      { s with channel, threads := Function.update s.threads i (.handling data) }
  | .listening, some (none, channel) =>
      { s with channel, threads := Function.update s.threads i .returned }
  | _, _ => s

/-- The thread has handled a message. -/
def handledAs (s : SubscriberState ι χ) (i : ι) (incr : IncrOutcome) :
    Handled → SubscriberState ι χ
  | .invalidated tenantKey =>
      { s with
        backend := policyCacheInvalidateWith s.backend tenantKey incr
        threads := Function.update s.threads i (if incr.raises then .died else .listening) }
  | .skipped => { s with threads := Function.update s.threads i .listening }
  | .stopped => { s with threads := Function.update s.threads i .died }

/-- The body of the loop. -/
def handle (s : SubscriberState ι χ) (i : ι) (deep : Bool) (incr : IncrOutcome) :
    SubscriberState ι χ :=
  match s.threads i with
  | .handling data =>
      ({ s with handled := s.handled ++ [⟨i, data, incr⟩] } : SubscriberState ι χ).handledAs i incr
        (handleMessage deep data)
  | _ => s

/-- `_stop_policy_subscriber`: the connection is closed, and the thread left alone. -/
def stop (s : SubscriberState ι χ) (i : ι) : SubscriberState ι χ :=
  match s.threads i with
  | .absent => s
  | _ => { s with channel := service.call s.channel (.close i) }

def step (s : SubscriberState ι χ) : UpdateMove ι → SubscriberState ι χ
  | .write tenantKey incr =>
      { s with
        backend := policyCacheInvalidateWith s.backend tenantKey incr
        written := Function.update s.written tenantKey (s.written tenantKey + incr.counted.toNat) }
  | .publish event => { s with channel := service.call s.channel (.publish event.toJson) }
  | .foreign text => { s with channel := service.call s.channel (.publish text) }
  | .start i => s.start service i
  | .listen i => s.listen service i
  | .handle i deep incr => s.handle i deep incr
  | .stop i => s.stop service i

end Steps

end SubscriberState

/-! ## Every run -/

section Runs

variable {ι χ : Type} [DecidableEq ι] [PyRuntime] [RecursionLimit] {service : Lib.PubSub ι String χ}
  {b : Backend} {s : SubscriberState ι χ}

omit [PyRuntime] [RecursionLimit] in
/-- An invalidation counts for its tenant alone, if the server counts it. -/
theorem policyNamespace_invalidated (b : Backend) (tenantKey other : String) (incr : IncrOutcome) :
    policyNamespace (policyCacheInvalidateWith b tenantKey incr).counters other =
      policyNamespace b.counters other +
        if incr.counted = true ∧ tenantKey = other then 1 else 0 := by
  unfold policyCacheInvalidateWith
  cases hcounted : incr.counted with
  | false => simp
  | true =>
      unfold policyNamespace policyCacheInvalidate
      by_cases hsame : tenantKey = other
      · subst hsame
        simp [Backend.counters_incr_self]
      · have hkey : policyNamespaceKey other ≠ policyNamespaceKey tenantKey := by
          unfold policyNamespaceKey
          rw [ne_eq, cacheKey_cons_left, cacheKey_single, cacheKey_single]
          exact fun heq => hsame heq.symm
        simp [Backend.counters_incr_ne b hkey, hsame]

omit [PyRuntime] [RecursionLimit] in
theorem documents_invalidated (b : Backend) (tenantKey : String) (incr : IncrOutcome) :
    (policyCacheInvalidateWith b tenantKey incr).documents = b.documents := by
  unfold policyCacheInvalidateWith
  split <;> rfl

/-- What holds in every state: the channel has only been used by the moves, each thread has handled
what it was handed, the namespaces count it, and a dead thread has met what kills it. -/
structure DeliveryInv (service : Lib.PubSub ι String χ) (b : Backend) (s : SubscriberState ι χ) :
    Prop where
  reached : service.Reaches s.channel
  received : ∀ i, (s.handledBy i).map HandledMessage.data ++ (s.threads i).held =
    Lib.receivedBy i s.channel.log
  counted : ∀ tenantKey, policyNamespace s.backend.counters tenantKey =
    policyNamespace b.counters tenantKey + s.written tenantKey + namingCount tenantKey s.handled
  documents : s.backend.documents = b.documents
  died : ∀ i, s.threads i = .died → ∃ message, (s.handledBy i).getLast? = some message ∧
    (message.incr.raises = true ∨ ∃ deep, handleMessage deep message.data = .stopped)

theorem deliveryInv_initial (service : Lib.PubSub ι String χ) (b : Backend) :
    DeliveryInv service b (SubscriberState.initial service b) where
  reached := Lib.PubSub.Reaches.unused
  received _ := rfl
  counted _ := rfl
  documents := rfl
  died i h := by cases h

omit [DecidableEq ι] in
/-- One more message was handled. -/
theorem namingCount_append (tenantKey : String) (messages : List (HandledMessage ι))
    (message : HandledMessage ι) :
    namingCount tenantKey (messages ++ [message]) = namingCount tenantKey messages +
      if message.incr.counted = true ∧ handleMessage false message.data = .invalidated tenantKey
        then 1 else 0 := by
  unfold namingCount
  rw [List.countP_append, List.countP_singleton]
  simp only [decide_eq_true_eq]

/-- A call that hands nothing out keeps what is known of the threads. -/
theorem DeliveryInv.use (h : DeliveryInv service b s) {c : Lib.ChannelCall ι String}
    (hreceived : ∀ i, Lib.receivedBy i (service.call s.channel c).log =
      Lib.receivedBy i s.channel.log) :
    DeliveryInv service b { s with channel := service.call s.channel c } := by
  refine ⟨h.reached.call c, ?_, h.counted, h.documents, h.died⟩
  intro i
  show _ = Lib.receivedBy i (service.call s.channel c).log
  rw [hreceived]
  exact h.received i

omit [PyRuntime] [RecursionLimit] in
/-- A thread that is dead where one has moved, and not died, was dead before. -/
theorem died_before {threads : ι → SubscriberThread} {thread : SubscriberThread} {i j : ι}
    (halive : thread ≠ .died) (hdied : Function.update threads i thread j = .died) :
    threads j = .died := by
  by_cases hself : j = i
  · subst hself
    rw [Function.update_self] at hdied
    exact absurd hdied halive
  · rw [Function.update_of_ne hself] at hdied
    exact hdied

/-- A thread that moves with nothing in hand, and does not die. -/
theorem DeliveryInv.moved (h : DeliveryInv service b s) {i : ι} {thread : SubscriberThread}
    (hbefore : (s.threads i).held = []) (hheld : thread.held = []) (halive : thread ≠ .died) :
    DeliveryInv service b { s with threads := Function.update s.threads i thread } := by
  refine ⟨h.reached, ?_, h.counted, h.documents, ?_⟩
  · intro j
    show _ ++ (Function.update s.threads i thread j).held = _
    rw [← h.received j]
    by_cases hj : j = i
    · subst hj
      rw [Function.update_self, hheld, hbefore]
      rfl
    · rw [Function.update_of_ne hj]
      rfl
  · intro j hj
    exact h.died j (died_before halive hj)

theorem DeliveryInv.start (h : DeliveryInv service b s) (i : ι) :
    DeliveryInv service b (s.start service i) := by
  unfold SubscriberState.start
  cases hthread : s.threads i with
  | absent =>
      have hused := h.use (c := .subscribe i) fun _ => rfl
      refine hused.moved ?_ rfl (by decide)
      show (s.threads i).held = []
      rw [hthread]
      rfl
  | listening => exact h
  | handling data => exact h
  | returned => exact h
  | died => exact h

/-- A thread that listens takes the next message in hand. -/
theorem DeliveryInv.listen (h : DeliveryInv service b s) (i : ι) :
    DeliveryInv service b (s.listen service i) := by
  unfold SubscriberState.listen
  split
  · rename_i data channel hthread htake
    have hlog := Lib.PubSub.take_log htake
    refine ⟨h.reached.take htake, ?_, h.counted, h.documents, ?_⟩
    · intro j
      show _ ++ (Function.update s.threads i (.handling data) j).held =
        Lib.receivedBy j channel.log
      rw [hlog]
      show _ = if i = j then Lib.receivedBy j s.channel.log ++ [data]
        else Lib.receivedBy j s.channel.log
      rw [← h.received j]
      by_cases hj : j = i
      · subst hj
        rw [Function.update_self, if_pos rfl, hthread]
        simp [SubscriberThread.held, SubscriberState.handledBy]
      · rw [Function.update_of_ne hj, if_neg (Ne.symm hj)]
        rfl
    · intro j hj
      exact h.died j (died_before SubscriberThread.noConfusion hj)
  · -- the iteration is over
    rename_i channel hthread htake
    have hlog := Lib.PubSub.take_log htake
    have hused : DeliveryInv service b { s with channel } := by
      refine ⟨h.reached.take htake, ?_, h.counted, h.documents, h.died⟩
      intro j
      show _ = Lib.receivedBy j channel.log
      rw [hlog]
      exact h.received j
    refine hused.moved ?_ rfl (by decide)
    show (s.threads i).held = []
    rw [hthread]
    rfl
  · exact h

/-- What a handled message does to the namespaces, the documents and its thread. -/
theorem handledAs_spec (s : SubscriberState ι χ) (i : ι) (deep : Bool) (data : String)
    (incr : IncrOutcome) :
    let s' := s.handledAs i incr (handleMessage deep data)
    s'.channel = s.channel ∧ s'.handled = s.handled ∧ s'.written = s.written ∧
      s'.backend.documents = s.backend.documents ∧
      (∀ tenantKey, policyNamespace s'.backend.counters tenantKey =
        policyNamespace s.backend.counters tenantKey +
          if incr.counted = true ∧ handleMessage false data = .invalidated tenantKey
            then 1 else 0) ∧
      ∃ thread, s'.threads = Function.update s.threads i thread ∧ thread.held = [] ∧
        (thread = .died → incr.raises = true ∨ handleMessage deep data = .stopped) := by
  intro s'
  -- a message that names no tenant is counted for none
  have hunnamed : ∀ tenantKey, handleMessage deep data ≠ .invalidated tenantKey →
      ¬(incr.counted = true ∧ handleMessage false data = .invalidated tenantKey) :=
    fun tenantKey hother hnamed => hother (handleMessage_invalidated.mpr hnamed.2)
  cases hhandled : handleMessage deep data with
  | invalidated named =>
      have hnamed := handleMessage_invalidated.mp hhandled
      have hs' : s' = s.handledAs i incr (.invalidated named) := by rw [← hhandled]
      rw [hs']
      refine ⟨rfl, rfl, rfl, documents_invalidated .., ?_, _, rfl, ?_, ?_⟩
      · intro tenantKey
        show policyNamespace (policyCacheInvalidateWith s.backend named incr).counters _ = _
        rw [policyNamespace_invalidated, hnamed]
        simp only [Handled.invalidated.injEq]
      · split <;> rfl
      · intro hdied
        left
        by_contra hfine
        rw [if_neg hfine] at hdied
        cases hdied
  | skipped =>
      have hs' : s' = s.handledAs i incr .skipped := by rw [← hhandled]
      rw [hs']
      refine ⟨rfl, rfl, rfl, rfl, ?_, _, rfl, rfl, ?_⟩
      · intro tenantKey
        rw [if_neg (hunnamed tenantKey (by rw [hhandled]; exact Handled.noConfusion)), Nat.add_zero]
        rfl
      · intro hdied
        cases hdied
  | stopped =>
      have hs' : s' = s.handledAs i incr .stopped := by rw [← hhandled]
      rw [hs']
      refine ⟨rfl, rfl, rfl, rfl, ?_, _, rfl, rfl, fun _ => Or.inr rfl⟩
      intro tenantKey
      rw [if_neg (hunnamed tenantKey (by rw [hhandled]; exact Handled.noConfusion)), Nat.add_zero]
      rfl

/-- A handled message is counted once, and only its thread moves. -/
theorem DeliveryInv.handle (h : DeliveryInv service b s) (i : ι) (deep : Bool) (incr : IncrOutcome) :
    DeliveryInv service b (s.handle i deep incr) := by
  unfold SubscriberState.handle
  split
  · rename_i data hthread
    -- the message is noted first; what handling it does is told by `handledAs_spec`
    let noted : SubscriberState ι χ := { s with handled := s.handled ++ [⟨i, data, incr⟩] }
    obtain ⟨hchannel, hhandled, hwritten, hdocuments, hnamespace, thread, hthreads, hheld, hdied⟩ :=
      handledAs_spec noted i deep data incr
    show DeliveryInv service b (noted.handledAs i incr (handleMessage deep data))
    generalize noted.handledAs i incr (handleMessage deep data) = s' at *
    have hby : ∀ j, s'.handledBy j = s.handledBy j ++ if i = j then [⟨i, data, incr⟩] else [] := by
      intro j
      unfold SubscriberState.handledBy
      rw [hhandled, List.filter_append]
      by_cases hj : i = j <;> simp [hj]
    refine ⟨?_, ?_, ?_, ?_, ?_⟩
    · rw [hchannel]
      exact h.reached
    · -- received: the message in hand moves to those handled, for this thread alone
      intro j
      rw [hby, hthreads, hchannel]
      show _ = Lib.receivedBy j s.channel.log
      rw [← h.received j]
      by_cases hj : j = i
      · subst hj
        rw [Function.update_self, hheld, hthread, if_pos rfl, List.map_append, List.append_nil]
        rfl
      · rw [Function.update_of_ne hj, if_neg (Ne.symm hj), List.append_nil]
    · -- counted: the new message counts if it names the tenant and its increment was counted
      intro tenantKey
      rw [hnamespace, hwritten, hhandled]
      show policyNamespace s.backend.counters tenantKey + _ =
        _ + s.written tenantKey + namingCount tenantKey (s.handled ++ [⟨i, data, incr⟩])
      rw [namingCount_append, h.counted tenantKey]
      dsimp only
      omega
    · rw [hdocuments]
      exact h.documents
    · -- died: a thread that stops here does so by this message
      intro j hj
      rw [hby]
      rw [hthreads] at hj
      by_cases hself : j = i
      · subst hself
        rw [Function.update_self] at hj
        rw [if_pos rfl, List.getLast?_concat]
        refine ⟨_, rfl, ?_⟩
        rcases hdied hj with hraises | hstopped
        · exact Or.inl hraises
        · exact Or.inr ⟨deep, hstopped⟩
      · rw [Function.update_of_ne hself] at hj
        rw [if_neg (Ne.symm hself), List.append_nil]
        exact h.died j hj
  · exact h

/-- Every move keeps the invariant. -/
theorem DeliveryInv.step (h : DeliveryInv service b s) (move : UpdateMove ι) :
    DeliveryInv service b (s.step service move) := by
  cases move with
  | write tenantKey incr =>
      -- write: one counter moves, and no thread is touched
      refine ⟨h.reached, h.received, ?_, ?_, h.died⟩
      · intro other
        have hcounted := h.counted other
        show policyNamespace (policyCacheInvalidateWith s.backend tenantKey incr).counters other =
          policyNamespace b.counters other +
            Function.update s.written tenantKey (s.written tenantKey + incr.counted.toNat) other +
              namingCount other s.handled
        rw [policyNamespace_invalidated]
        by_cases hsame : tenantKey = other
        · subst hsame
          rw [Function.update_self]
          cases incr.counted <;> simp <;> omega
        · rw [Function.update_of_ne (fun heq => hsame heq.symm)]
          simp [hsame, hcounted]
      · exact (documents_invalidated ..).trans h.documents
  | publish event => exact h.use fun _ => rfl
  | foreign text => exact h.use fun _ => rfl
  | start i => exact h.start i
  | listen i => exact h.listen i
  | handle i deep incr => exact h.handle i deep incr
  | stop i =>
      -- stop: a second close of a subscription is no call of the service
      show DeliveryInv service b (s.stop service i)
      unfold SubscriberState.stop
      split
      · exact h
      · exact h.use fun _ => rfl

omit [DecidableEq ι] in
/-- Messages that do not name a tenant are not counted for it. -/
theorem namingCount_eq_zero {tenantKey : String} {messages : List (HandledMessage ι)}
    (h : ∀ message ∈ messages, handleMessage false message.data ≠ .invalidated tenantKey) :
    namingCount tenantKey messages = 0 := by
  unfold namingCount
  rw [List.countP_eq_zero]
  intro message hmessage hnames
  exact h message hmessage (of_decide_eq_true hnames).2

end Runs

/-! ## A concrete deployment -/

section Concrete

attribute [local instance] plainRuntime twoLevels

theorem defaultUpdate_fits : FitsInteger 2 := ⟨by decide, by decide⟩

/-- The tenant `default` has reached its second policy version. -/
def defaultUpdate : PolicyUpdateEvent := ⟨"default", 2, defaultUpdate_fits⟩

/-- The server counts, and nothing is raised. -/
def counted : IncrOutcome := ⟨true, false⟩

/-- One instance starts, writes and publishes, and is stopped with the message in hand. -/
def rollout (event : PolicyUpdateEvent) : List (UpdateMove Unit) :=
  [.start (), .write event.tenantKey counted, .publish event, .listen (), .stop ()]

/-- The state after some moves, from a cold backend. -/
def deployed (moves : List (UpdateMove Unit)) : SubscriberState Unit (Unit → Option (List String)) :=
  Lib.run (SubscriberState.step Lib.queueing)
    (SubscriberState.initial Lib.queueing (Backend.cold fun _ => none)) moves

theorem rollout_published (event : PolicyUpdateEvent) :
    Lib.publishedIn (deployed (rollout event)).channel.log = [event.toJson] := rfl

theorem rollout_written (event : PolicyUpdateEvent) {other : String}
    (hother : other ≠ event.tenantKey) : (deployed (rollout event)).written other = 0 := by
  show Function.update (fun _ => 0) event.tenantKey (0 + 1) other = 0
  rw [Function.update_of_ne hother]

/-- Handling the message in hand uses no channel and is no write. -/
theorem rollout_handled (event : PolicyUpdateEvent) :
    (deployed (rollout event ++ [.handle () false counted])).channel =
        (deployed (rollout event)).channel ∧
      (deployed (rollout event ++ [.handle () false counted])).written =
        (deployed (rollout event)).written := by
  unfold deployed
  rw [Lib.run_append, Lib.run_cons, Lib.run_nil]
  generalize Lib.run _ _ (rollout event) = s
  show (s.handle () false counted).channel = _ ∧ (s.handle () false counted).written = _
  unfold SubscriberState.handle
  split
  · obtain ⟨hchannel, -, hwritten, -⟩ := handledAs_spec _ () false _ counted
    exact ⟨hchannel, hwritten⟩
  · exact ⟨rfl, rfl⟩

end Concrete

end KeyNetra
