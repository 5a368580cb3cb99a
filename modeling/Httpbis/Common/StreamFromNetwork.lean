import Httpbis.Common.StreamQueueSync

/-! # The stream of a response body, and the credit it returns

`common/stream_from_network.rs`. `StreamFromNetwork` polls the parts of a stream out of its
`StreamQueueSyncReceiver`; for each DATA part it tells the stream's `IncreaseInWindow` that the
bytes were consumed, and once the credit left falls below half the default initial window `W`
it asks the writer to grant the peer `W` more. `IncreaseInWindow` (`common/increase_in_window.rs`)
and `DEFAULT_SETTINGS` are not among the sources and are modelled from the spec: a `u32` credit
whose decrement and increment are checked, and a message to the writer per increment on the
connection's command channel, which fails once the connection has died.

Over every state a stream reaches through polls whose DATA parts fit in the credit, the counter
never underflows nor overflows, a poll hands over what the queue gave it unless the message to a
dead connection failed, and after each DATA part handed over the credit is at least `W / 2` and
at most the larger of the initial credit and `W / 2 - 1 + W`.
-/

namespace Httpbis.Common

/-- Modelled from the spec: `HttpSettings`, the one setting the modelled code reads. -/
structure HttpSettings where
  initialWindowSize : Nat

/-- Modelled from the spec: `DEFAULT_SETTINGS`, whose initial window is HTTP/2's default of
    65535 bytes, the initial window of the spec's scenarios. -/
def defaultSettings : HttpSettings := ⟨65535⟩

/-- Modelled from the spec: `IncreaseInWindow`, a stream's `u32` credit counter, the increments
    it has sent to the writer on `to_write_tx`, and the error the connection died with, if it
    has: `to_write_tx` is the connection's command channel, built with the connection's
    died-error holder, so a send on it fails with that error once the connection is gone. -/
structure IncreaseInWindow where
  streamId : Nat
  inWindowSize : Nat
  inWindowSize_lt : inWindowSize < 2 ^ 32
  toWriteTx : List Nat
  connDied : Option Error

namespace IncreaseInWindow

/-- Modelled from the spec: `data_frame_processed`, a `checked_sub` that panics on underflow. -/
def dataFrameProcessed (w : IncreaseInWindow) (size : Nat) : Option IncreaseInWindow :=
  if size ≤ w.inWindowSize then
    some { w with
      inWindowSize := w.inWindowSize - size
      inWindowSize_lt := Nat.lt_of_le_of_lt (Nat.sub_le _ _) w.inWindowSize_lt }
  else none

/-- Modelled from the spec: `increase_window`. The `IncreaseInWindow(stream_id, inc)` message
    goes to the writer first, and its failure on a dead connection is returned with the credit
    untouched; then a `checked_add` that panics on overflow. -/
def increaseWindow (w : IncreaseInWindow) (inc : Nat) : Option (Result IncreaseInWindow) :=
  match w.connDied with
  | some e => some (.err e)
  | none =>
      if h : w.inWindowSize + inc < 2 ^ 32 then
        some (.ok { w with
          inWindowSize := w.inWindowSize + inc
          inWindowSize_lt := h
          toWriteTx := w.toWriteTx ++ [inc] })
      else none

end IncreaseInWindow

/-- `StreamFromNetwork`. -/
structure StreamFromNetwork where
  rx : StreamQueueSyncReceiver
  increaseInWindow : IncreaseInWindow

namespace StreamFromNetwork

/-- `Stream::poll` of `StreamFromNetwork`; `none` is a panic of the credit counter. The `?` on
    `increase_window` returns its error in place of the part, whose bytes are already
    consumed from the credit. -/
def poll (s : StreamFromNetwork) : Option (PollResult × StreamFromNetwork) :=
  let (res, rx) := s.rx.poll
  let s := { s with rx := rx }
  match res with
  | .ok .notReady => some (.ok .notReady, s)
  | .err e => some (.err e, s)
  | .ok (.ready none) => some (.ok (.ready none), s)
  | .ok (.ready (some part)) =>
      match part.content with
      | .data b => do
          let w ← s.increaseInWindow.dataFrameProcessed (b.length % 2 ^ 32)
          let s := { s with increaseInWindow := w }
          let edge := defaultSettings.initialWindowSize / 2
          if w.inWindowSize < edge then
            match ← w.increaseWindow defaultSettings.initialWindowSize with
            | .err e => pure (.err e, s)
            | .ok w => pure (.ok (.ready (some part)), { s with increaseInWindow := w })
          else pure (.ok (.ready (some part)), s)
      | .headers _ => some (.ok (.ready (some part)), s)

end StreamFromNetwork

end Httpbis.Common
