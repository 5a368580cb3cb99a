import Httpbis.Common.ConnWrite

/-! # The reader's SETTINGS and PING handlers

`common/conn_read.rs` is not among the sources. The spec's reader half answers a SETTINGS
frame that is not an ACK by applying it to the peer settings, re-scaling every open stream's
out window by the change of the initial window size, and enqueueing a SETTINGS ack; it
answers a PING that is not an ACK with a PING ack that carries the same opaque payload. Both
answers go through `send_frame_and_notify`, which queues a frame whatever the queue holds.
-/

namespace Httpbis.Common

/-- Modelled from the spec: a decoded SETTINGS frame, with the two parameters the writer
    reads. -/
structure SettingsFrame where
  ack : Bool
  maxFrameSize : Option Nat
  initialWindowSize : Option Nat

/-- Modelled from the spec: a decoded PING frame. -/
structure PingFrame where
  ack : Bool
  opaqueData : List UInt8

namespace Conn

/-- Modelled from the spec: `process_settings`. -/
def processSettings (c : Conn) (frame : SettingsFrame) : Conn :=
  if frame.ack then c
  else
    let peerSettings : PeerSettings :=
      ⟨frame.maxFrameSize.getD c.peerSettings.maxFrameSize,
        (frame.initialWindowSize.map (↑)).getD c.peerSettings.initialWindowSize⟩
    let delta := peerSettings.initialWindowSize - c.peerSettings.initialWindowSize
    sendAckSettings { c with
      peerSettings := peerSettings,
      streams := c.streams.map fun s => { s with outWindowSize := s.outWindowSize + delta } }

/-- Modelled from the spec: `process_ping`. -/
def processPing (c : Conn) (frame : PingFrame) : Conn :=
  if frame.ack then c else c.sendFrameAndNotify (.pingAck frame.opaqueData)

/-- A SETTINGS frame that changes the initial window size moves every open stream's out
    window by the change, whatever the window held. -/
theorem get_processSettings (c : Conn) (frame : SettingsFrame) (hack : frame.ack = false)
    (w : Nat) (hw : frame.initialWindowSize = some w) (k : Nat) :
    (c.processSettings frame).streams.get k =
      (c.streams.get k).map fun s =>
        { s with outWindowSize := s.outWindowSize + (w - c.peerSettings.initialWindowSize) } := by
  simp [processSettings, hack, hw, sendAckSettings, sendFrameAndNotify, withQueue]

/-- The spec's example: the peer lowers the initial window by 1000 and an open stream's
    window of 65535 drops to 64535. -/
example :
    (((⟨(StreamMap.empty.insert 1 (HttpStreamCommon.new 65535 .initial)).2, 65535, 65535, .new,
        ⟨16384, 65535⟩, fun _ => [], 3, 0⟩ : Conn).processSettings ⟨false, none, some 64535⟩).streams.get
        1).map (·.outWindowSize) = some 64535 := by decide

end Conn

end Httpbis.Common
