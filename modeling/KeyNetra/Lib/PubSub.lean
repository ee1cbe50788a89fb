import KeyNetra.Lib.Runs
import Mathlib.Logic.Function.Basic

/-!
# KeyNetra.Lib.PubSub — a service that hands messages to subscribers

A service for one channel is only known by the calls of its clients, and by what these see of it:
it may hold messages back, lose them or end an iteration, whenever it likes.

* `PubSub` — the calls of a service over a state of its own;
* `PubSub.Use` — the state, and what the clients have seen;
* `AtMostOnce` — what a subscriber has received are messages published while it was subscribed,
  each at most once and in order;
* `queueing` — the service with a queue for each subscriber, and `queueing_atMostOnce`.
-/

namespace Lib

/-! ## What is seen of a service -/

/-- What the clients see; a log has the last event first. -/
inductive ChannelEvent (ι μ : Type) where
  | published (m : μ)
  | subscribed (i : ι)
  | received (i : ι) (m : μ)
  | closed (i : ι)

section Logs

variable {ι μ : Type}

/-- The messages of a log. -/
def publishedIn : List (ChannelEvent ι μ) → List μ
  | [] => []
  | .published m :: log => publishedIn log ++ [m]
  | _ :: log => publishedIn log

variable [DecidableEq ι]

/-- Whether a subscription is open behind a log. -/
def openFor (i : ι) : List (ChannelEvent ι μ) → Bool
  | [] => false
  | .subscribed j :: log => decide (j = i) || openFor i log
  | .closed j :: log => decide (j ≠ i) && openFor i log
  | _ :: log => openFor i log

/-- The messages that were published while a subscription was open. -/
def offeredTo (i : ι) : List (ChannelEvent ι μ) → List μ
  | [] => []
  | .published m :: log => if openFor i log then offeredTo i log ++ [m] else offeredTo i log
  | _ :: log => offeredTo i log

/-- The messages that a subscriber has received. -/
def receivedBy (i : ι) : List (ChannelEvent ι μ) → List μ
  | [] => []
  | .received j m :: log => if j = i then receivedBy i log ++ [m] else receivedBy i log
  | _ :: log => receivedBy i log

/-- A subscriber is offered nothing but what is published. -/
theorem offeredTo_subset (i : ι) (log : List (ChannelEvent ι μ)) :
    offeredTo i log ⊆ publishedIn log := by
  induction log with
  | nil => exact List.Subset.refl _
  | cons event log ih =>
      cases event with
      | published m =>
          show (if openFor i log then offeredTo i log ++ [m] else offeredTo i log) ⊆
            publishedIn log ++ [m]
          split
          · exact List.append_subset.mpr
              ⟨List.Subset.trans ih (List.subset_append_left ..), List.subset_append_right ..⟩
          · exact List.Subset.trans ih (List.subset_append_left ..)
      | subscribed j => exact ih
      | received j m => exact ih
      | closed j => exact ih

end Logs

/-! ## A service -/

/-- A service for one channel. Asked for the next message of a subscriber, it waits (`none`), ends
the iteration, or hands out a message. -/
structure PubSub (ι μ χ : Type) where
  initial : χ
  publish : χ → μ → χ
  subscribe : χ → ι → χ
  next : χ → ι → Option (Option μ × χ)
  close : χ → ι → χ

/-- A call of a client. -/
inductive ChannelCall (ι μ : Type) where
  | publish (m : μ)
  | subscribe (i : ι)
  | next (i : ι)
  | close (i : ι)

namespace PubSub

variable {ι μ χ : Type}

/-- The state of a service, and what its clients have seen. -/
structure Use (ι μ χ : Type) where
  state : χ
  log : List (ChannelEvent ι μ)

variable (service : PubSub ι μ χ)

def unused : Use ι μ χ := ⟨service.initial, []⟩

/-- The next message of a subscriber. -/
def take (u : Use ι μ χ) (i : ι) : Option (Option μ × Use ι μ χ) :=
  match service.next u.state i with
  | none => none
  | some (none, state) => some (none, ⟨state, u.log⟩)
  | some (some m, state) => some (some m, ⟨state, .received i m :: u.log⟩)

def call (u : Use ι μ χ) : ChannelCall ι μ → Use ι μ χ
  | .publish m => ⟨service.publish u.state m, .published m :: u.log⟩
  | .subscribe i => ⟨service.subscribe u.state i, .subscribed i :: u.log⟩
  | .next i => (service.take u i).elim u Prod.snd
  | .close i => ⟨service.close u.state i, .closed i :: u.log⟩

/-- The service in some use. -/
def Reaches (u : Use ι μ χ) : Prop := ∃ calls, u = run service.call service.unused calls

/-- A message is handed to a subscriber at most once, in the order of the publications, and only if
it was published while the subscription was open. -/
def AtMostOnce [DecidableEq ι] : Prop :=
  ∀ u, service.Reaches u → ∀ i, (receivedBy i u.log).Sublist (offeredTo i u.log)

variable {service} {u : Use ι μ χ}

theorem Reaches.unused : service.Reaches service.unused := ⟨[], rfl⟩

theorem Reaches.call (h : service.Reaches u) (c : ChannelCall ι μ) :
    service.Reaches (service.call u c) := by
  obtain ⟨calls, rfl⟩ := h
  refine ⟨calls ++ [c], ?_⟩
  rw [run_append, run_cons, run_nil]

theorem Reaches.take (h : service.Reaches u) {i : ι} {m : Option μ} {u' : Use ι μ χ}
    (htake : service.take u i = some (m, u')) : service.Reaches u' := by
  have hcall : service.call u (.next i) = u' := by
    show (service.take u i).elim u Prod.snd = u'
    rw [htake]
    rfl
  rw [← hcall]
  exact h.call (.next i)

/-- What is seen of an answer. -/
theorem take_log {i : ι} {m : Option μ} {u' : Use ι μ χ}
    (htake : service.take u i = some (m, u')) :
    u'.log = (m.map (ChannelEvent.received i)).toList ++ u.log := by
  unfold PubSub.take at htake
  split at htake
  · cases htake
  · cases htake
    rfl
  · cases htake
    rfl

end PubSub

/-! ## The service with a queue for each subscriber -/

section Queueing

variable {ι μ : Type} [DecidableEq ι]

/-- A published message waits in the queue of each open subscription; closing drops the queue. -/
def queueing : PubSub ι μ (ι → Option (List μ)) where
  initial _ := none
  publish queues m i := (queues i).map fun queue => queue ++ [m]
  subscribe queues i := Function.update queues i (some ((queues i).getD []))
  next queues i :=
    match queues i with
    | none => some (none, queues)
    | some [] => none
    | some (m :: rest) => some (some m, Function.update queues i (some rest))
  close queues i := Function.update queues i none

/-- Behind a log, the queue of an open subscription holds what it can still be handed. -/
def QueueInv (u : PubSub.Use ι μ (ι → Option (List μ))) (i : ι) : Prop :=
  (openFor i u.log = (u.state i).isSome) ∧
    (receivedBy i u.log ++ (u.state i).getD []).Sublist (offeredTo i u.log)

/-- Nothing is handed out where nothing is queued. -/
theorem queueing_next_idle {u : PubSub.Use ι μ (ι → Option (List μ))} {j : ι}
    (h : (u.state j).getD [] = []) : queueing.call u (.next j) = u := by
  cases hstate : u.state j with
  | none => simp [PubSub.call, PubSub.take, queueing, hstate]
  | some queue =>
      rw [hstate, Option.getD_some] at h
      subst h
      simp [PubSub.call, PubSub.take, queueing, hstate]

theorem queueing_next {u : PubSub.Use ι μ (ι → Option (List μ))} {j : ι} {m : μ} {rest : List μ}
    (h : u.state j = some (m :: rest)) : queueing.call u (.next j) =
      ⟨Function.update u.state j (some rest), .received j m :: u.log⟩ := by
  simp [PubSub.call, PubSub.take, queueing, h]

theorem QueueInv.call {u : PubSub.Use ι μ (ι → Option (List μ))} {i : ι} (h : QueueInv u i)
    (c : ChannelCall ι μ) : QueueInv (queueing.call u c) i := by
  obtain ⟨hopen, hqueue⟩ := h
  cases c with
  | publish m =>
      refine ⟨by simpa [queueing, PubSub.call, openFor] using hopen, ?_⟩
      show (receivedBy i u.log ++ ((u.state i).map fun queue => queue ++ [m]).getD []).Sublist
        (if openFor i u.log then offeredTo i u.log ++ [m] else offeredTo i u.log)
      cases hstate : u.state i with
      | none =>
          rw [hstate] at hopen hqueue
          rw [hopen]
          exact hqueue
      | some queue =>
          rw [hstate] at hopen hqueue
          rw [hopen]
          show (receivedBy i u.log ++ (queue ++ [m])).Sublist (offeredTo i u.log ++ [m])
          rw [← List.append_assoc]
          exact hqueue.append (List.Sublist.refl [m])
  | subscribe j =>
      show (decide (j = i) || openFor i u.log) =
          (Function.update u.state j (some ((u.state j).getD [])) i).isSome ∧
        (receivedBy i u.log ++
          (Function.update u.state j (some ((u.state j).getD [])) i).getD []).Sublist
            (offeredTo i u.log)
      by_cases hj : j = i
      · subst hj
        rw [Function.update_self]
        exact ⟨by simp, hqueue⟩
      · rw [Function.update_of_ne (Ne.symm hj), decide_eq_false hj, Bool.false_or]
        exact ⟨hopen, hqueue⟩
  | next j =>
      cases hstate : u.state j with
      | none =>
          -- the iteration ends
          rw [queueing_next_idle (by rw [hstate]; rfl)]
          exact ⟨hopen, hqueue⟩
      | some queue =>
          cases queue with
          | nil =>
              -- it waits
              rw [queueing_next_idle (by rw [hstate]; rfl)]
              exact ⟨hopen, hqueue⟩
          | cons m rest =>
              rw [queueing_next hstate]
              show openFor i u.log = (Function.update u.state j (some rest) i).isSome ∧
                ((if j = i then receivedBy i u.log ++ [m] else receivedBy i u.log) ++
                  (Function.update u.state j (some rest) i).getD []).Sublist (offeredTo i u.log)
              by_cases hj : j = i
              · subst hj
                rw [hstate] at hopen hqueue
                rw [Function.update_self, if_pos rfl, List.append_assoc]
                exact ⟨hopen, hqueue⟩
              · rw [Function.update_of_ne (Ne.symm hj), if_neg hj]
                exact ⟨hopen, hqueue⟩
  | close j =>
      show (decide (j ≠ i) && openFor i u.log) = (Function.update u.state j none i).isSome ∧
        (receivedBy i u.log ++ (Function.update u.state j none i).getD []).Sublist
          (offeredTo i u.log)
      by_cases hj : j = i
      · subst hj
        rw [Function.update_self, Option.getD_none, List.append_nil]
        exact ⟨by simp, (List.sublist_append_left ..).trans hqueue⟩
      · rw [Function.update_of_ne (Ne.symm hj), decide_eq_true hj, Bool.true_and]
        exact ⟨hopen, hqueue⟩

theorem queueing_atMostOnce : (queueing : PubSub ι μ (ι → Option (List μ))).AtMostOnce := by
  rintro u ⟨calls, rfl⟩ i
  have hinv := @run_preserves _ _ (queueing : PubSub ι μ _).call (fun u => QueueInv u i)
    (fun u c h => QueueInv.call h c) queueing.unused ⟨rfl, List.Sublist.refl _⟩ calls
  exact (List.sublist_append_left ..).trans hinv.2

end Queueing

end Lib
