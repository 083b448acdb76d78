import FusionDesk.General.StreamFraming
import FusionDesk.Protocol.PacketCodecRoundTrip

/-!
# The Qt packet channel

`include/fusiondesk/adapters/qt/qt_packet_channel.h` and `src/adapters/qt/qt_packet_channel.cpp`.
The channel collects what the socket delivers in one buffer and takes packets off its front.

The socket and the handlers behind the router are not modelled: `onBytes` is called with each chunk
in turn, and of the router the channel sees nothing but that it calls `submitIncoming`, so the
router is the list of the packets it was called with.  The two counters do not wrap here.

The second half reads the loop as a framer: `frames` is the look at the front of the buffer, and
`onBytes_eq` says that a call appends the chunk, walks the buffer and records the events.
-/

namespace FusionDesk
namespace Qt

open Protocol StreamFraming

/-- `class QtPacketChannel`. -/
structure QtPacketChannel where
  codec : PacketCodec := {}
  /-- `none` for a null `ingressRouter_`, otherwise the packets submitted to it, in order. -/
  ingressRouter : Option (List PacketEnvelope) := none
  inbound : ByteBuffer := []
  decodedPackets : ℕ := 0
  decodeFailures : ℕ := 0
  deriving DecidableEq, Repr

namespace QtPacketChannel

/-! ## The functions of the source -/

/-- `ingressRouter_->submitIncoming(packet)`, under the check for a null router. -/
def submitIncoming (ingressRouter : Option (List PacketEnvelope)) (packet : PacketEnvelope) :
    Option (List PacketEnvelope) :=
  ingressRouter.map fun submitted => submitted ++ [packet]

/-- The `while` loop of `onBytes`. -/
def readInbound (channel : QtPacketChannel) : QtPacketChannel :=
  if channel.inbound = [] then channel
  else
    let frame := channel.codec.inspectFrame channel.inbound
    if frame.status = .incomplete then channel
    else if _h : ¬ frame.ok ∨ frame.frameSize = 0 ∨ frame.frameSize > channel.inbound.length then
      { channel with decodeFailures := channel.decodeFailures + 1, inbound := [] }
    else
      let packetBytes := channel.inbound.take frame.frameSize
      let decoded := channel.codec.decode packetBytes
      if ¬ decoded.ok then
        readInbound { channel with
          decodeFailures := channel.decodeFailures + 1
          inbound := channel.inbound.drop frame.frameSize }
      else
        readInbound { channel with
          decodedPackets := channel.decodedPackets + 1
          inbound := channel.inbound.drop frame.frameSize
          ingressRouter := submitIncoming channel.ingressRouter decoded.packet }
termination_by channel.inbound.length
decreasing_by
  all_goals
    rw [not_or, not_or] at _h
    rw [List.length_drop]
    show channel.inbound.length - frame.frameSize < channel.inbound.length
    omega

/-- `QtPacketChannel::onBytes`. -/
def onBytes (channel : QtPacketChannel) (bytes : ByteBuffer) : QtPacketChannel :=
  readInbound { channel with inbound := channel.inbound ++ bytes }

/-! ## The loop as a framer -/

/-- What one frame of the stream comes to. -/
inductive FrameEvent
  | packet (packet : PacketEnvelope)
  | failure
  deriving DecidableEq, Repr

/-- The event of a whole frame: the packet it decodes to, or a failure. -/
def frameEvent (codec : PacketCodec) (packetBytes : ByteBuffer) : FrameEvent :=
  if (codec.decode packetBytes).ok then .packet (codec.decode packetBytes).packet else .failure

/-- The look at the front of the buffer. -/
def look (codec : PacketCodec) (inbound : ByteBuffer) : Verdict FrameEvent :=
  let frame := codec.inspectFrame inbound
  if frame.status = .incomplete then .wait
  else if frame.status = .ok then
    .frame frame.frameSize (frameEvent codec (inbound.take frame.frameSize))
  else .reject .failure

variable {codec : PacketCodec} {inbound : ByteBuffer}

theorem look_wait_iff :
    look codec inbound = .wait ↔ (codec.inspectFrame inbound).status = .incomplete := by
  simp only [look]
  split_ifs with hinc hok <;> simp [hinc]

theorem look_of_ok (h : (codec.inspectFrame inbound).status = .ok) :
    look codec inbound = .frame (codec.inspectFrame inbound).frameSize
      (frameEvent codec (inbound.take (codec.inspectFrame inbound).frameSize)) := by
  simp only [look, h, reduceCtorEq, if_false, if_true]

theorem look_of_refused (hinc : (codec.inspectFrame inbound).status ≠ .incomplete)
    (hok : (codec.inspectFrame inbound).status ≠ .ok) : look codec inbound = .reject .failure := by
  simp only [look, if_neg hinc, if_neg hok]

/-- A frame is what an inspection that is fine says it is. -/
theorem look_frame_iff {n : ℕ} {e : FrameEvent} :
    look codec inbound = .frame n e ↔ (codec.inspectFrame inbound).status = .ok ∧
      n = (codec.inspectFrame inbound).frameSize ∧ e = frameEvent codec (inbound.take n) := by
  by_cases hok : (codec.inspectFrame inbound).status = .ok
  · rw [look_of_ok hok, Verdict.frame.injEq]
    constructor
    · rintro ⟨rfl, rfl⟩
      exact ⟨hok, rfl, rfl⟩
    · rintro ⟨-, rfl, rfl⟩
      exact ⟨rfl, rfl⟩
  · by_cases hinc : (codec.inspectFrame inbound).status = .incomplete
    · rw [look_wait_iff.mpr hinc]
      simp [hok]
    · rw [look_of_refused hinc hok]
      simp [hok]

/-- A refusal is a failure, of a header that is there. -/
theorem look_reject_iff {e : FrameEvent} :
    look codec inbound = .reject e ↔ (codec.inspectFrame inbound).status ≠ .incomplete ∧
      (codec.inspectFrame inbound).status ≠ .ok ∧ e = .failure := by
  by_cases hinc : (codec.inspectFrame inbound).status = .incomplete
  · rw [look_wait_iff.mpr hinc]
    simp [hinc]
  · by_cases hok : (codec.inspectFrame inbound).status = .ok
    · rw [look_of_ok hok]
      simp [hok]
    · rw [look_of_refused hinc hok, Verdict.reject.injEq]
      exact ⟨fun he => ⟨hinc, hok, he.symm⟩, fun h => h.2.2.symm⟩

/-- **The stream is cut into frames by its headers.** -/
def frames (codec : PacketCodec) : Framer UInt8 FrameEvent where
  look := look codec
  look_nil := look_wait_iff.mpr rfl
  frame_size := by
    intro b n e h
    obtain ⟨hok, rfl, -⟩ := look_frame_iff.mp h
    have hsize := PacketCodec.frameSize_of_inspectFrame hok
    omega
  frame_take := by
    intro b n e h
    obtain ⟨hok, rfl, rfl⟩ := look_frame_iff.mp h
    have hsame := PacketCodec.inspectFrame_take_frameSize hok
    refine look_frame_iff.mpr ⟨by rw [hsame]; exact hok, by rw [hsame], ?_⟩
    rw [List.take_take, Nat.min_self]
  stable := by
    intro b c h
    have hverdict : (codec.inspectFrame b).status ≠ .incomplete :=
      fun hinc => h (look_wait_iff.mpr hinc)
    have hsame := PacketCodec.inspectFrame_append c hverdict
    by_cases hok : (codec.inspectFrame b).status = .ok
    · have hsize := (PacketCodec.frameSize_of_inspectFrame hok).2
      rw [look_of_ok hok, look_of_ok (by rw [hsame]; exact hok), hsame,
        List.take_append_of_le_length hsize]
    · rw [look_of_refused hverdict hok, look_of_refused (by rw [hsame]; exact hverdict)
        (by rw [hsame]; exact hok)]

theorem frames_look (codec : PacketCodec) : (frames codec).look = look codec := rfl

/-! ## What a walk leaves behind -/

/-- The packets among the events. -/
def packetsOf (events : List FrameEvent) : List PacketEnvelope :=
  events.filterMap fun
    | .packet packet => some packet
    | .failure => none

/-- The events count and, where there is a router, submit. -/
def record (channel : QtPacketChannel) (events : List FrameEvent) : QtPacketChannel :=
  { channel with
    ingressRouter := channel.ingressRouter.map fun submitted => submitted ++ packetsOf events
    decodedPackets := channel.decodedPackets + (packetsOf events).length
    decodeFailures := channel.decodeFailures + events.count .failure }

@[simp] theorem record_nil (channel : QtPacketChannel) : channel.record [] = channel := by
  simp [record, packetsOf]

theorem record_record (channel : QtPacketChannel) (events more : List FrameEvent) :
    (channel.record events).record more = channel.record (events ++ more) := by
  simp only [record, packetsOf, List.filterMap_append, List.count_append, List.length_append,
    Option.map_map, Nat.add_assoc]
  congr 1
  cases channel.ingressRouter <;> simp [List.append_assoc]

/-- **The loop of the source walks the buffer frame by frame.** -/
theorem readInbound_eq (channel : QtPacketChannel) :
    channel.readInbound = { channel.record ((frames channel.codec).walk channel.inbound).1 with
      inbound := ((frames channel.codec).walk channel.inbound).2 } := by
  obtain ⟨codec, ingressRouter, inbound, decodedPackets, decodeFailures⟩ := channel
  induction inbound using (frames codec).walk_induction
    generalizing ingressRouter decodedPackets decodeFailures with
  | wait b hb =>
    have hinc : (codec.inspectFrame b).status = .incomplete := look_wait_iff.mp hb
    rw [readInbound, Framer.walk_wait hb, record_nil]
    simp only [hinc, if_true, ite_self]
  | frame b n e hb ih =>
    obtain ⟨hok, rfl, rfl⟩ := look_frame_iff.mp hb
    have hsize := PacketCodec.frameSize_of_inspectFrame hok
    have hnil : b ≠ [] := by
      rintro rfl
      rw [List.length_nil] at hsize
      omega
    have hinc : (codec.inspectFrame b).status ≠ .incomplete := by rw [hok]; simp
    have hguard : ¬ (¬ (codec.inspectFrame b).ok ∨ (codec.inspectFrame b).frameSize = 0 ∨
        (codec.inspectFrame b).frameSize > b.length) := by
      simp only [PacketFrameInspection.ok, hok, beq_self_eq_true, not_true, false_or]
      omega
    rw [readInbound, Framer.walk_frame hb]
    simp only [if_neg hnil, if_neg hinc, dif_neg hguard]
    by_cases hdec : (codec.decode (b.take (codec.inspectFrame b).frameSize)).ok
    · rw [if_neg (not_not.mpr hdec), ih]
      simp [record, packetsOf, frameEvent, hdec, submitIncoming, Function.comp_def, Nat.add_assoc,
        Nat.add_comm 1]
    · rw [if_pos hdec, ih]
      simp [record, packetsOf, frameEvent, hdec, Nat.add_assoc, Nat.add_comm 1]
  | reject b e hb =>
    obtain ⟨hinc, hok, rfl⟩ := look_reject_iff.mp hb
    have hnil : b ≠ [] := by
      rintro rfl
      exact hinc rfl
    have hguard : ¬ (codec.inspectFrame b).ok ∨ (codec.inspectFrame b).frameSize = 0 ∨
        (codec.inspectFrame b).frameSize > b.length := by
      left
      simp [PacketFrameInspection.ok, hok]
    rw [readInbound, Framer.walk_reject hb]
    simp only [if_neg hnil, if_neg hinc, dif_pos hguard]
    simp [record, packetsOf]

/-- **One call of `onBytes` is one chunk received.** -/
theorem onBytes_eq (channel : QtPacketChannel) (bytes : ByteBuffer) :
    channel.onBytes bytes =
      { channel.record ((frames channel.codec).walk (channel.inbound ++ bytes)).1 with
        inbound := ((frames channel.codec).walk (channel.inbound ++ bytes)).2 } :=
  readInbound_eq _

end QtPacketChannel
end Qt
end FusionDesk
