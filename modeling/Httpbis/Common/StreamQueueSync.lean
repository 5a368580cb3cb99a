import Httpbis.Common.Stream

/-! # The queue between a stream handler and its consumer

`common/stream_queue_sync.rs`. The handler side, `StreamQueueSyncSender`, sends each part of a
stream, or an error, into an unbounded channel; the consumer side, `StreamQueueSyncReceiver`,
polls them out and records in `eof_received` that it returned the stream's terminal item. The
channel is the futures crate's unbounded mpsc channel: first in, first out, and once its sender
is gone and nothing is left in it, it yields `Ready(None)`.

Over every run in which the sender is dropped only after it sent a last part or an error, the
consumer receives the items in order, without loss or duplicate, up to the first terminal one,
and `Ready(None)` ever after. A sender dropped before that makes every later poll return the
error `unexpected EOF`: that branch, unlike the one for an error sent by the handler, leaves
`eof_received` unset.
-/

namespace Httpbis.Common

open Httpbis.Solicit.Frame

/-- `error::Error`: the variants the queue makes, and any other error a handler passes on. -/
inductive Error where
  | rstStreamReceived (errorCode : ErrorCode)
  | internalError (message : String)
  | pullStreamDied
  | other (code : Nat)
  deriving DecidableEq, Repr

/-- `Result<T, error::Error>`. -/
inductive Result (α : Type) where
  | ok (a : α)
  | err (e : Error)
  deriving DecidableEq, Repr

/-- `futures::Async`. -/
inductive Async (α : Type) where
  | ready (a : α)
  | notReady
  deriving DecidableEq, Repr

/-- The item the channel carries: `Result<DataOrHeadersWithFlag, error::Error>`. -/
abbrev Item := Result DataOrHeadersWithFlag

/-- `Poll<Option<DataOrHeadersWithFlag>, error::Error>`. -/
abbrev PollResult := Result (Async (Option DataOrHeadersWithFlag))

/-- An item that ends the stream: a last part, or an error. -/
def Item.isTerminal : Item → Bool
  | .ok part => part.last
  | .err _ => true

/-- The item a poll result hands over, if it hands one over. -/
def PollResult.item : PollResult → Option Item
  | .ok (.ready (some part)) => some (.ok part)
  | .err e => some (.err e)
  | _ => none

/-- The calls a stream handler receives; `StreamQueueSyncSender` implements the client's and
    the server's handler traits with the same bodies. -/
inductive StreamHandlerCall where
  | headers (h : Headers) (endStream : Bool)
  | dataFrame (data : List UInt8) (endStream : Bool)
  | trailers (h : Headers)
  | rst (errorCode : ErrorCode)
  | error (e : Error)

/-- The item each handler call sends. -/
def StreamHandlerCall.item : StreamHandlerCall → Item
  | .headers h endStream => .ok ⟨.headers h, endStream⟩
  | .dataFrame data endStream => .ok ⟨.data data, endStream⟩
  | .trailers h => .ok ⟨.headers h, true⟩
  | .rst errorCode => .err (.rstStreamReceived errorCode)
  | .error e => .err e

/-- The unbounded channel: the items sent and not yet received, and whether the sender still
    exists. -/
structure Channel where
  queue : List Item
  senderAlive : Bool

/-- `UnboundedReceiver::poll`. -/
def Channel.poll (ch : Channel) : Async (Option Item) × Channel :=
  match ch.queue with
  | item :: rest => (.ready (some item), { ch with queue := rest })
  | [] => (if ch.senderAlive then .notReady else .ready none, ch)

/-- `StreamQueueSyncReceiver`. -/
structure StreamQueueSyncReceiver where
  receiver : Channel
  eofReceived : Bool

/-- `stream_queue_sync`: a new channel, its sender alive. -/
def streamQueueSync : StreamQueueSyncReceiver := ⟨⟨[], true⟩, false⟩

namespace StreamQueueSyncReceiver

/-- `StreamQueueSyncSender::send`: `unbounded_send` fails only once the receiver is gone, which
    a receiver still polled is not. -/
def send (r : StreamQueueSyncReceiver) (item : Item) : StreamQueueSyncReceiver :=
  { r with receiver := { r.receiver with queue := r.receiver.queue ++ [item] } }

/-- Dropping the sender closes the channel. -/
def dropSender (r : StreamQueueSyncReceiver) : StreamQueueSyncReceiver :=
  { r with receiver := { r.receiver with senderAlive := false } }

/-- `Stream::poll` of `StreamQueueSyncReceiver`. -/
def poll (r : StreamQueueSyncReceiver) : PollResult × StreamQueueSyncReceiver :=
  if r.eofReceived then (.ok (.ready none), r)
  else
    let (a, receiver) := r.receiver.poll
    let r := { r with receiver := receiver }
    match a with
    | .notReady => (.ok .notReady, r)
    | .ready none => (.err (.internalError "internal error: unexpected EOF"), r)
    | .ready (some (.err e)) => (.err e, { r with eofReceived := true })
    | .ready (some (.ok part)) =>
        (.ok (.ready (some part)), if part.last then { r with eofReceived := true } else r)

/-- Once the terminal item is out, every poll returns `Ready(None)` and changes nothing. -/
theorem poll_of_eofReceived {r : StreamQueueSyncReceiver} (h : r.eofReceived = true) :
    r.poll = (.ok (.ready none), r) := by
  simp [poll, h]

/-- With the sender gone and nothing queued, a poll returns the `unexpected EOF` error and
    changes nothing, so the next poll returns it again. -/
theorem poll_of_sender_dropped {r : StreamQueueSyncReceiver} (heof : r.eofReceived = false)
    (hq : r.receiver.queue = []) (halive : r.receiver.senderAlive = false) :
    r.poll = (.err (.internalError "internal error: unexpected EOF"), r) := by
  obtain ⟨⟨q, alive⟩, eof⟩ := r
  simp_all [poll, Channel.poll]

/-- A poll that takes an item off the channel hands it over, and records a terminal one. -/
theorem poll_of_queue {r : StreamQueueSyncReceiver} {item : Item} {rest : List Item}
    (heof : r.eofReceived = false) (hq : r.receiver.queue = item :: rest) :
    r.poll.1.item = some item ∧ r.poll.2.receiver = { r.receiver with queue := rest } ∧
      r.poll.2.eofReceived = item.isTerminal := by
  cases item with
  | ok part =>
      simp only [poll, heof, Channel.poll, hq, Bool.false_eq_true, ite_false]
      cases hlast : part.last <;> simp [PollResult.item, Item.isTerminal, hlast]
  | err e => simp [poll, heof, Channel.poll, hq, PollResult.item, Item.isTerminal]

/-- With the sender alive and nothing queued, a poll is not ready. -/
theorem poll_of_empty {r : StreamQueueSyncReceiver} (heof : r.eofReceived = false)
    (hq : r.receiver.queue = []) (halive : r.receiver.senderAlive = true) :
    r.poll = (.ok .notReady, r) := by
  obtain ⟨⟨q, alive⟩, eof⟩ := r
  simp_all [poll, Channel.poll]

end StreamQueueSyncReceiver

/-! ## Runs -/

/-- What happens to the queue: the handler is called, the sender is dropped, or the consumer
    polls. -/
inductive Action where
  | call (c : StreamHandlerCall)
  | dropSender
  | poll

open StreamQueueSyncReceiver in
/-- One action; a dropped sender is called no more. -/
def Action.apply (r : StreamQueueSyncReceiver) : Action → Option PollResult × StreamQueueSyncReceiver
  | .call c => (none, if r.receiver.senderAlive then r.send c.item else r)
  | .dropSender => (none, r.dropSender)
  | .poll => (some r.poll.1, r.poll.2)

/-- The poll results of a run, and its last state. -/
def run (r : StreamQueueSyncReceiver) : List Action → List PollResult × StreamQueueSyncReceiver
  | [] => ([], r)
  | a :: as => ((a.apply r).1.toList ++ (run (a.apply r).2 as).1, (run (a.apply r).2 as).2)

/-- The items the handler sends: its calls before the sender is dropped. -/
def sentItems : List Action → List Item
  | [] => []
  | .call c :: as => c.item :: sentItems as
  | .dropSender :: _ => []
  | .poll :: as => sentItems as

/-- The sender is dropped only after it sent a terminal item. -/
def DropsAfterTerminal : List Action → Prop
  | [] => True
  | .call c :: as => c.item.isTerminal = true ∨ DropsAfterTerminal as
  | .dropSender :: _ => False
  | .poll :: as => DropsAfterTerminal as

/-- The items of a stream up to and including the first terminal one. -/
def takeThroughTerminal : List Item → List Item
  | [] => []
  | item :: items => if item.isTerminal then [item] else item :: takeThroughTerminal items

/-- After a result that hands over a terminal item, every poll returns `Ready(None)`. -/
def QuietAfterTerminal : List PollResult → Prop
  | [] => True
  | res :: results =>
      (∀ item, res.item = some item → item.isTerminal = true →
        ∀ res' ∈ results, res' = .ok (.ready none)) ∧ QuietAfterTerminal results

theorem prefix_takeThroughTerminal {delivered : List Item} (queue : List Item)
    (h : ∀ t ∈ delivered, t.isTerminal = false) :
    delivered <+: takeThroughTerminal (delivered ++ queue) := by
  induction delivered with
  | nil => exact List.nil_prefix
  | cons item items ih =>
      rw [List.cons_append, takeThroughTerminal, if_neg (by simp [h item (List.mem_cons_self _ _)])]
      exact List.prefix_cons_inj item |>.mpr (ih fun t ht => h t (List.mem_cons_of_mem _ ht))

theorem takeThroughTerminal_of_terminal {delivered : List Item} {item : Item} (rest : List Item)
    (h : ∀ t ∈ delivered, t.isTerminal = false) (hitem : item.isTerminal = true) :
    takeThroughTerminal (delivered ++ item :: rest) = delivered ++ [item] := by
  induction delivered with
  | nil => simp [takeThroughTerminal, hitem]
  | cons d ds ih =>
      rw [List.cons_append, takeThroughTerminal, if_neg (by simp [h d (List.mem_cons_self _ _)]),
        ih fun t ht => h t (List.mem_cons_of_mem _ ht), List.cons_append]

theorem takeThroughTerminal_append {sent : List Item} (extra : List Item)
    (h : ∃ t ∈ sent, t.isTerminal = true) :
    takeThroughTerminal (sent ++ extra) = takeThroughTerminal sent := by
  induction sent with
  | nil => simp at h
  | cons item items ih =>
      rw [List.cons_append, takeThroughTerminal, takeThroughTerminal]
      split
      · rfl
      · rename_i hnot
        obtain ⟨t, ht, hterm⟩ := h
        rcases List.mem_cons.mp ht with rfl | ht
        · exact absurd hterm hnot
        · rw [ih ⟨t, ht, hterm⟩]

theorem takeThroughTerminal_eq_self :
    ∀ {items : List Item}, (∀ t ∈ items, t.isTerminal = false) → takeThroughTerminal items = items
  | [], _ => rfl
  | item :: items, h => by
      rw [takeThroughTerminal, if_neg (by simp [h item (List.mem_cons_self _ _)]),
        takeThroughTerminal_eq_self fun t ht => h t (List.mem_cons_of_mem _ ht)]

/-- What every state of a run keeps, given the items sent so far and those handed over: the
    channel holds what was sent and not handed over; until the terminal item is out nothing
    terminal was handed over, and after it exactly the items through it were; and the sender
    is gone only after sending a terminal item. -/
structure QueueInv (r : StreamQueueSyncReceiver) (sent delivered : List Item) : Prop where
  conserve : delivered ++ r.receiver.queue = sent
  open_ : r.eofReceived = false → ∀ t ∈ delivered, t.isTerminal = false
  closed : r.eofReceived = true → delivered = takeThroughTerminal sent ∧ ∃ t ∈ sent, t.isTerminal = true
  alive : r.receiver.senderAlive = false → ∃ t ∈ sent, t.isTerminal = true

theorem queueInv_new : QueueInv streamQueueSync [] [] := by
  constructor <;> simp [streamQueueSync]

/-- A poll keeps the invariant, hands over the head of the channel if anything, and cannot
    return the `unexpected EOF` error. -/
theorem QueueInv.poll {r : StreamQueueSyncReceiver} {sent delivered : List Item}
    (hinv : QueueInv r sent delivered) :
    QueueInv r.poll.2 sent (delivered ++ r.poll.1.item.toList) ∧
      (∀ item, r.poll.1.item = some item → item.isTerminal = true → r.poll.2.eofReceived = true) := by
  cases heof : r.eofReceived
  · cases hq : r.receiver.queue with
    | nil =>
        cases halive : r.receiver.senderAlive
        · obtain ⟨t, ht, hterm⟩ := hinv.alive halive
          rw [← hinv.conserve, hq, List.append_nil] at ht
          exact absurd hterm (by simp [hinv.open_ heof t ht])
        · rw [StreamQueueSyncReceiver.poll_of_empty heof hq halive]
          exact ⟨by simpa [PollResult.item] using hinv, fun _ h => by cases h⟩
    | cons item rest =>
        obtain ⟨hitem, hrecv, heof'⟩ := StreamQueueSyncReceiver.poll_of_queue heof hq
        have hsent : sent = delivered ++ item :: rest := by rw [← hinv.conserve, hq]
        have hopen := hinv.open_ heof
        rw [hitem]
        refine ⟨⟨by rw [hrecv, List.append_assoc]; exact hsent.symm, fun h t ht => ?_,
          fun h => ?_, fun h => hinv.alive (by rwa [hrecv] at h)⟩, fun i hi hterm => ?_⟩
        · rcases List.mem_append.mp ht with ht | ht
          · exact hopen t ht
          · rw [List.mem_singleton.mp ht, ← heof', h]
        · have hterm : item.isTerminal = true := heof' ▸ h
          exact ⟨by rw [hsent, takeThroughTerminal_of_terminal rest hopen hterm]; rfl,
            item, by simp [hsent], hterm⟩
        · cases hi; exact heof'.trans hterm
  · rw [StreamQueueSyncReceiver.poll_of_eofReceived heof]
    exact ⟨by simpa [PollResult.item] using hinv, fun _ h => by cases h⟩

theorem poll_senderAlive (r : StreamQueueSyncReceiver) :
    r.poll.2.receiver.senderAlive = r.receiver.senderAlive := by
  cases heof : r.eofReceived
  · cases hq : r.receiver.queue with
    | nil =>
        cases halive : r.receiver.senderAlive
        · rw [StreamQueueSyncReceiver.poll_of_sender_dropped heof hq halive, halive]
        · rw [StreamQueueSyncReceiver.poll_of_empty heof hq halive, halive]
    | cons item rest => rw [(StreamQueueSyncReceiver.poll_of_queue heof hq).2.1]
  · rw [StreamQueueSyncReceiver.poll_of_eofReceived heof]

/-- Until the terminal item is out, a poll takes the head of the channel off, if any. -/
theorem poll_queue {r : StreamQueueSyncReceiver} (heof : r.eofReceived = false) :
    r.poll.2.receiver.queue = r.receiver.queue.tail := by
  cases hq : r.receiver.queue with
  | nil =>
      cases halive : r.receiver.senderAlive
      · rw [StreamQueueSyncReceiver.poll_of_sender_dropped heof hq halive, hq]; rfl
      · rw [StreamQueueSyncReceiver.poll_of_empty heof hq halive, hq]; rfl
  | cons item rest => rw [(StreamQueueSyncReceiver.poll_of_queue heof hq).2.1]; rfl

/-- After the terminal item, a run only returns `Ready(None)`. -/
theorem run_of_eofReceived :
    ∀ (as : List Action) {r : StreamQueueSyncReceiver}, r.eofReceived = true →
      ∀ res ∈ (run r as).1, res = .ok (.ready none)
  | [], _, _ => by simp [run]
  | a :: as, r, h => by
      have happly : (a.apply r).2.eofReceived = true ∧ ∀ res ∈ (a.apply r).1.toList,
          res = .ok (.ready none) := by
        cases a with
        | call c => exact ⟨by simp only [Action.apply]; split <;> exact h, by simp [Action.apply]⟩
        | dropSender => exact ⟨h, by simp [Action.apply]⟩
        | poll =>
            simp only [Action.apply, StreamQueueSyncReceiver.poll_of_eofReceived h]
            exact ⟨h, by simp⟩
      intro res hres
      rcases List.mem_append.mp hres with hres | hres
      · exact happly.2 res hres
      · exact run_of_eofReceived as happly.1 res hres

theorem run_append (r : StreamQueueSyncReceiver) (as bs : List Action) :
    run r (as ++ bs) = ((run r as).1 ++ (run (run r as).2 bs).1, (run (run r as).2 bs).2) := by
  induction as generalizing r with
  | nil => rfl
  | cons a as ih =>
      show run r (a :: (as ++ bs)) = _
      simp only [run, ih, List.append_assoc]

/-- Polling at least as often as the channel holds items hands every one of them over, through
    the first terminal item. -/
theorem QueueInv.drain : ∀ (n : Nat) {r : StreamQueueSyncReceiver} {sent delivered : List Item},
    QueueInv r sent delivered → r.receiver.queue.length ≤ n →
      delivered ++ (run r (List.replicate n .poll)).1.filterMap PollResult.item =
        takeThroughTerminal sent
  | n, r, sent, delivered, hinv, hn => by
      cases heof : r.eofReceived
      · cases n with
        | zero =>
            have hq : r.receiver.queue = [] := List.length_eq_zero.mp (Nat.le_zero.mp hn)
            rw [← hinv.conserve, hq, List.append_nil, takeThroughTerminal_eq_self (hinv.open_ heof)]
            simp only [List.replicate_zero, run, List.filterMap_nil, List.append_nil]
        | succ n =>
            have hq : r.poll.2.receiver.queue.length ≤ n := by
              rw [poll_queue heof, List.length_tail]; omega
            have hnext := QueueInv.drain n hinv.poll.1 hq
            simp only [List.replicate_succ, run, Action.apply, Option.toList_some,
              List.singleton_append, List.filterMap_cons] at hnext ⊢
            cases hi : r.poll.1.item <;> simpa [hi] using hnext
      · rw [(hinv.closed heof).1, List.filterMap_eq_nil_iff.mpr fun res hres => by
          rw [run_of_eofReceived _ heof res hres]; rfl, List.append_nil]

/-- Over every run in which the sender is dropped only after a terminal item, the consumer is
    handed the sent items in order, none lost or repeated, through the first terminal one, and
    every poll after that returns `Ready(None)`. -/
theorem run_delivers_through_terminal :
    ∀ (as : List Action) (r : StreamQueueSyncReceiver) (sent delivered : List Item),
      QueueInv r sent delivered → ((∃ t ∈ sent, t.isTerminal = true) ∨ DropsAfterTerminal as) →
      QueueInv (run r as).2
          (sent ++ if r.receiver.senderAlive then sentItems as else [])
          (delivered ++ (run r as).1.filterMap PollResult.item) ∧
        QuietAfterTerminal (run r as).1
  | [], r, sent, delivered, hinv, _ => by simpa [run, QuietAfterTerminal, sentItems] using hinv
  | .call c :: as, r, sent, delivered, hinv, hguard => by
      cases halive : r.receiver.senderAlive
      · have hnext := run_delivers_through_terminal as r sent delivered hinv
          (.inl (hinv.alive halive))
        simpa [run, Action.apply, halive] using hnext
      · have hsend : QueueInv (r.send c.item) (sent ++ [c.item]) delivered :=
          ⟨by rw [StreamQueueSyncReceiver.send, ← hinv.conserve]; simp,
            hinv.open_, fun h => ?_, fun h => by simp [StreamQueueSyncReceiver.send, halive] at h⟩
        · have hnext := run_delivers_through_terminal as (r.send c.item) (sent ++ [c.item]) delivered
            hsend (by
              rcases hguard with ⟨t, ht, hterm⟩ | hterm | hdrops
              · exact .inl ⟨t, List.mem_append_left _ ht, hterm⟩
              · exact .inl ⟨c.item, by simp, hterm⟩
              · exact .inr hdrops)
          simpa [run, Action.apply, halive, sentItems, StreamQueueSyncReceiver.send] using hnext
        · obtain ⟨hd, t, ht, hterm⟩ := hinv.closed h
          exact ⟨by rw [takeThroughTerminal_append _ ⟨t, ht, hterm⟩, hd],
            t, List.mem_append_left _ ht, hterm⟩
  | .dropSender :: as, r, sent, delivered, hinv, hguard => by
      have hterm : ∃ t ∈ sent, t.isTerminal = true := hguard.resolve_right id
      have hnext := run_delivers_through_terminal as r.dropSender sent delivered
        ⟨hinv.conserve, hinv.open_, hinv.closed, fun _ => hterm⟩ (.inl hterm)
      simpa [run, Action.apply, sentItems, StreamQueueSyncReceiver.dropSender] using hnext
  | .poll :: as, r, sent, delivered, hinv, hguard => by
      obtain ⟨hinv', hterm⟩ := hinv.poll
      have hnext := run_delivers_through_terminal as r.poll.2 sent _ hinv' hguard
      rw [poll_senderAlive] at hnext
      refine ⟨?_, ?_, hnext.2⟩
      · rcases hi : r.poll.1.item with _ | item <;>
          simpa [run, Action.apply, sentItems, List.filterMap_cons, hi] using hnext.1
      intro item hitem hterm' res hres
      exact run_of_eofReceived as (hterm item hitem hterm') res hres

/-- From a new queue, over every run in which the sender is dropped only after a terminal item,
    the items handed to the consumer are the sent ones, in order, through the first terminal
    item, and every poll after that returns `Ready(None)`; a run that ends with at least as many
    polls as items were sent has handed over every one of them, through the first terminal
    item. -/
theorem stream_delivered_through_terminal (as : List Action) (h : DropsAfterTerminal as) :
    (run streamQueueSync as).1.filterMap PollResult.item <+: takeThroughTerminal (sentItems as) ∧
      QuietAfterTerminal (run streamQueueSync as).1 ∧
      ∀ n, (sentItems as).length ≤ n →
        (run streamQueueSync (as ++ List.replicate n .poll)).1.filterMap PollResult.item =
          takeThroughTerminal (sentItems as) := by
  obtain ⟨hinv, hquiet⟩ := run_delivers_through_terminal as streamQueueSync [] [] queueInv_new (.inr h)
  have halive : streamQueueSync.receiver.senderAlive = true := rfl
  rw [if_pos halive, List.nil_append, List.nil_append] at hinv
  refine ⟨?_, hquiet, fun n hn => ?_⟩
  · cases heof : (run streamQueueSync as).2.eofReceived
    · rw [← hinv.conserve]
      exact prefix_takeThroughTerminal _ (hinv.open_ heof)
    · rw [(hinv.closed heof).1]
  · have hq : (run streamQueueSync as).2.receiver.queue.length ≤ n := by
      have := congrArg List.length hinv.conserve
      rw [List.length_append] at this
      omega
    rw [run_append, List.filterMap_append]
    exact hinv.drain n hq

/-- Headers, then data that ends the stream, then the sender dropped, with one poll in between:
    two polls at the end hand over the data part and then `Ready(None)`. -/
theorem stream_delivered_headers_then_data :
    let as : List Action := [.call (.headers ⟨[]⟩ false), .poll, .call (.dataFrame [1] true),
      .dropSender]
    DropsAfterTerminal as ∧
      (run streamQueueSync as).1.filterMap PollResult.item <+: takeThroughTerminal (sentItems as) ∧
      QuietAfterTerminal (run streamQueueSync as).1 ∧
      ∀ n, (sentItems as).length ≤ n →
        (run streamQueueSync (as ++ List.replicate n .poll)).1.filterMap PollResult.item =
          takeThroughTerminal (sentItems as) :=
  ⟨Or.inr (Or.inl rfl), stream_delivered_through_terminal _ (Or.inr (Or.inl rfl))⟩

/-- Once the sender is gone with nothing queued and no terminal item out, every poll returns
    the `unexpected EOF` error. -/
theorem run_polls_of_sender_dropped {r : StreamQueueSyncReceiver} (heof : r.eofReceived = false)
    (hq : r.receiver.queue = []) (halive : r.receiver.senderAlive = false) (n : Nat) :
    (run r (List.replicate n .poll)).1 =
      List.replicate n (.err (.internalError "internal error: unexpected EOF")) := by
  induction n with
  | zero => rfl
  | succ n ih =>
      simp only [List.replicate_succ, run, Action.apply,
        StreamQueueSyncReceiver.poll_of_sender_dropped heof hq halive]
      simpa using ih

/-- A sender dropped before any terminal item makes every poll after it return the `unexpected
    EOF` error, never `Ready(None)`: the `Ready(None)` branch of `poll` leaves `eof_received`
    unset. -/
theorem poll_after_sender_dropped (n : Nat) :
    (run streamQueueSync (.dropSender :: List.replicate n .poll)).1 =
      List.replicate n (.err (.internalError "internal error: unexpected EOF")) :=
  run_polls_of_sender_dropped rfl rfl rfl n

end Httpbis.Common
